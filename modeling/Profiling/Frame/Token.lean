import Profiling.Text.Blank
import Profiling.Text.Case
import Profiling.Text.Quoted

/-!
# Tokens of statements

The words, names, strings, numbers and signs of a statement. Blanks and comments stand between
tokens and are none.
-/

namespace Profiling.Frame

inductive Token where
  /-- A keyword or a name without quotes. -/
  | word (s : String)
  | name (s : String)
  | string (s : String)
  | number (text : List Char)
  | sign (s : String)
deriving DecidableEq, Repr

namespace Token

/-- The ranges of characters beyond ASCII that are signs and no letters. -/
def symbolRanges : List (Nat × Nat) :=
  [(0x80, 0xA9), (0xAB, 0xB4), (0xB6, 0xB9), (0xBB, 0xBF), (0xD7, 0xD7), (0xF7, 0xF7),
   (0x2000, 0x2070), (0x2080, 0x208F), (0x20A0, 0x20FF), (0x2190, 0x24B5), (0x24EA, 0x2BFF),
   (0x3000, 0x3004), (0x3008, 0x3020), (0xE000, 0xF8FF), (0xFE00, 0xFE6F), (0xFEFF, 0xFEFF),
   (0xFFF0, 0xFFFF), (0x1F000, 0x1F12F), (0x1F18A, 0x1FFFF)]

def isWordStart (c : Char) : Bool :=
  c.isAlpha || c == '_' || c == '@' || c == '#' ||
    (128 ≤ c.toNat && !symbolRanges.any fun r => r.1 ≤ c.toNat && c.toNat ≤ r.2)

def isWordChar (c : Char) : Bool := isWordStart c || c.isDigit || c == '$'

/-- The text behind a comment that has been opened `depth` times more than closed, `last` being the
character before it. Comments nest. -/
def skipComment : (depth : Nat) → (last : Char) → List Char → Option (List Char)
  | _, _, [] => none
  | depth, last, c :: rest =>
    if last = '/' && c = '*' then skipComment (depth + 1) c rest
    else if last = '*' && c = '/' then
      if depth ≤ 1 then some rest else skipComment (depth - 1) c rest
    else skipComment depth c rest

/-- The sign at the start of a text, the longest that fits. Two signs of equality, and two of
inequality, are the same. -/
def readSign : List Char → Option (String × List Char)
  | '<' :: '=' :: '>' :: _ => none
  | '<' :: '>' :: rest => some ("<>", rest)
  | '!' :: '=' :: rest => some ("<>", rest)
  | '<' :: '=' :: rest => some ("<=", rest)
  | '>' :: '=' :: rest => some (">=", rest)
  | '=' :: '=' :: rest => some ("=", rest)
  | '=' :: '>' :: _ => none
  | '/' :: '/' :: _ => none
  | c :: rest =>
    if "()+-*/%=<>,.;".toList.contains c then some (String.singleton c, rest) else none
  | [] => none

def readExponent (s : List Char) : List Char × List Char :=
  match s with
  | c :: rest =>
    if c = 'e' || c = 'E' then
      let (mark, rest) := match rest with
        | '+' :: r => (['+'], r)
        | '-' :: r => (['-'], r)
        | r => ([], r)
      let ds := rest.takeWhile Char.isDigit
      if ds.isEmpty then ([], s) else (c :: mark ++ ds, rest.dropWhile Char.isDigit)
    else ([], s)
  | [] => ([], [])

/-- The number at the start of a text, which starts with a digit or a point. A mark of length
behind it is dropped. -/
def readNumber (s : List Char) : List Char × List Char :=
  let whole := s.takeWhile Char.isDigit
  let (fraction, rest) := match s.dropWhile Char.isDigit with
    | '.' :: rest => ('.' :: rest.takeWhile Char.isDigit, rest.dropWhile Char.isDigit)
    | rest => ([], rest)
  if whole.isEmpty && fraction.length = 1 then (fraction, rest)
  else
    let (exponent, rest) := readExponent rest
    (whole ++ fraction ++ exponent, match rest with | 'L' :: rest => rest | rest => rest)

/-- Whether a word is the mark of a string of another kind if a quote follows at once. -/
def isStringMark (word : List Char) : Bool :=
  match word with
  | [c] => "bBeEnNrRxX".toList.contains c
  | _ => false

/-- The tokens of a text, `fuel` of them at most; `none` if it is not made of tokens. -/
def readAll : (fuel : Nat) → List Char → Option (List Token)
  | 0, _ => none
  | _, [] => some []
  | fuel + 1, c :: rest =>
    if Text.isBlank c then readAll fuel rest
    else if c = '-' && rest.head? = some '-' then
      readAll fuel (rest.dropWhile fun c => c != '\n')
    else if c = '/' && rest.head? = some '*' then do
      readAll fuel (← skipComment 1 ' ' (rest.drop 1))
    else if isWordStart c then
      let word := c :: rest.takeWhile isWordChar
      let rest := rest.dropWhile isWordChar
      if isStringMark word && rest.head? = some '\'' then none
      else do return .word (String.ofList word) :: (← readAll fuel rest)
    else if c.isDigit || c = '.' then
      let (text, rest) := readNumber (c :: rest)
      if text = ['0'] && rest.head? = some 'x' then none
      else do
        let token := if text = ['.'] then .sign "." else .number text
        return token :: (← readAll fuel rest)
    else if c = '\'' then do
      let (s, rest) ← Text.readDoubledBody c rest
      return .string (String.ofList s) :: (← readAll fuel rest)
    else if c = '"' || c = Char.ofNat 0x60 then do
      let (s, rest) ← Text.readDoubledBody c rest
      return .name (String.ofList s) :: (← readAll fuel rest)
    else do
      let (s, rest) ← readSign (c :: rest)
      return .sign s :: (← readAll fuel rest)

def ofText (sql : String) : Option (List Token) :=
  readAll (sql.toList.length + 1) sql.toList

/-- The word of a token in capitals, as keywords are looked up. -/
def capitals? : Token → Option String
  | word s => some (String.ofList (Text.asciiUpper s.toList))
  | _ => none

def isKeyword (t : Token) (keyword : String) : Bool := t.capitals? == some keyword

def isOneOf (keywords : List String) (t : Token) : Bool := t.capitals?.any keywords.contains

end Token

end Profiling.Frame
