import Profiling.Json.Numeral

/-!
# Reading JSON text

`Document.ofText` reads a text up to its first fault. What can be told only by a reader that wants
the value (a lone surrogate in a string, a number out of range, nesting beyond `maxDepth`) is
marked `unreadable`, since a reader that passes over the value does not look at it.
-/

namespace Profiling

namespace Document

def isJsonBlank (c : Char) : Bool :=
  c == ' ' || c == '\n' || c == '\t' || c == '\r'

def skipBlanks (s : List Char) : List Char := s.dropWhile isJsonBlank

/-- The fault of a text that goes on with `s` where something else was expected. -/
def faultAt (s : List Char) : Fault :=
  if s.isEmpty then .truncated else .malformed

/-! ### Strings -/

/-- A character written out, or a 16-bit unit written as an escape. -/
inductive Piece where
  | char (c : Char)
  | unit (n : Nat)
deriving DecidableEq, Repr

def hexValue? (c : Char) : Option Nat :=
  if '0' ≤ c ∧ c ≤ '9' then some (c.toNat - 48)
  else if 'a' ≤ c ∧ c ≤ 'f' then some (c.toNat - 87)
  else if 'A' ≤ c ∧ c ≤ 'F' then some (c.toNat - 55)
  else none

def hexUnit? (a b c d : Char) : Option Nat := do
  return (← hexValue? a) * 4096 + (← hexValue? b) * 256 + (← hexValue? c) * 16 + (← hexValue? d)

/-- The character of a two-character escape. -/
def simpleEscape? (c : Char) : Option Char :=
  match c with
  | '"' | '\\' | '/' => some c
  | 'b' => some (Char.ofNat 8)
  | 'f' => some (Char.ofNat 12)
  | 'n' => some '\n'
  | 'r' => some '\r'
  | 't' => some '\t'
  | _ => none

/-- The pieces of a string up to its closing quote, and the text behind it or the fault that
comes before it. An escape of a unit takes four bytes, whatever they are. -/
def pieces : List Char → List Piece × Except Fault (List Char)
  | [] => ([], .error .truncated)
  | '"' :: rest => ([], .ok rest)
  | ['\\'] => ([], .error .truncated)
  | '\\' :: 'u' :: a :: b :: c :: d :: rest =>
    match hexUnit? a b c d with
    | some n => let (ps, e) := pieces rest; (.unit n :: ps, e)
    | none => ([], .error .malformed)
  | '\\' :: 'u' :: short =>
    ([], .error (if (String.ofList short).utf8ByteSize < 4 then .truncated else .malformed))
  | '\\' :: c :: rest =>
    match simpleEscape? c with
    | some e => let (ps, r) := pieces rest; (.char e :: ps, r)
    | none => ([], .error .malformed)
  | c :: rest =>
    if c.toNat < 32 then ([], .error .malformed)
    else let (ps, e) := pieces rest; (.char c :: ps, e)

def isHighSurrogate (n : Nat) : Bool := 0xD800 ≤ n && n ≤ 0xDBFF

def isLowSurrogate (n : Nat) : Bool := 0xDC00 ≤ n && n ≤ 0xDFFF

/-- The text of a string's pieces: two surrogates make a character, and one alone none. A string
that ends in the first half of a pair ends in `fault`. -/
def assemble (fault : Fault) : List Piece → Except Fault (List Char)
  | [] => .ok []
  | .char c :: rest => return c :: (← assemble fault rest)
  | [.unit n] =>
    if isHighSurrogate n then .error fault
    else if isLowSurrogate n then .error .malformed
    else .ok [Char.ofNat n]
  | .unit n :: .unit m :: rest =>
    if isHighSurrogate n then
      if isLowSurrogate m then
        return Char.ofNat (0x10000 + (n - 0xD800) * 0x400 + (m - 0xDC00)) :: (← assemble fault rest)
      else .error .malformed
    else if isLowSurrogate n then .error .malformed
    else return Char.ofNat n :: (← assemble fault (.unit m :: rest))
  | .unit n :: .char c :: rest =>
    if isHighSurrogate n || isLowSurrogate n then .error .malformed
    else return Char.ofNat n :: c :: (← assemble fault rest)

/-- Reads a string behind its opening quote: its text or what keeps it from being read, and the
text behind it or what keeps it from being passed over. -/
def string (s : List Char) : Except Fault String × Except Fault (List Char) :=
  let (ps, ending) := pieces s
  let text := match ending with
    | .ok _ => assemble .malformed ps
    | .error f => do
      let _ ← assemble f ps
      .error f
  (text.map String.ofList, ending)

/-! ### Numbers and words -/

def digits (s : List Char) : Except Fault (List Char × List Char) :=
  let ds := s.takeWhile Char.isDigit
  if ds.isEmpty then .error (faultAt s) else .ok (ds, s.dropWhile Char.isDigit)

/-- Reads the whole part of a numeral, which has no leading zero. -/
def wholePart (s : List Char) : Except Fault (List Char × List Char) := do
  let (ds, rest) ← digits s
  if ds.head? = some '0' && ds.length ≠ 1 then .error .malformed else return (ds, rest)

def fractionPart (s : List Char) : Except Fault (Option (List Char) × List Char) :=
  match s with
  | '.' :: rest => do
    let (ds, rest) ← digits rest
    return (some ds, rest)
  | s => .ok (none, s)

def exponentPart (s : List Char) : Except Fault (Option (Bool × List Char) × List Char) :=
  match s with
  | c :: rest =>
    if c = 'e' || c = 'E' then
      let (negative, rest) := match rest with
        | '+' :: r => (false, r)
        | '-' :: r => (true, r)
        | r => (false, r)
      do
        let (ds, rest) ← digits rest
        return (some (negative, ds), rest)
    else .ok (none, s)
  | [] => .ok (none, s)

def numeral (negative : Bool) (s : List Char) : Except Fault (Numeral × List Char) := do
  let (whole, s) ← wholePart s
  let (fraction, s) ← fractionPart s
  let (exponent, s) ← exponentPart s
  return ({ negative, whole, fraction, exponent }, s)

/-- A number. One that breaks off at the end of the text is malformed for a reader that passes
over it. -/
def number (negative : Bool) (s : List Char) : Document × Option (List Char) :=
  match numeral negative s with
  | .ok (n, rest) => (n.toDocument, some rest)
  | .error f => (.unreadable f .malformed (some .malformed), none)

def word (value : Document) : (expected s : List Char) → Document × Option (List Char)
  | [], s => (value, some s)
  | _ :: _, [] => (.unreadable .truncated .malformed (some .truncated), none)
  | e :: es, c :: s => if e = c then word value es s else (broken .malformed, none)

/-! ### Values -/

/-- Lists and objects nested this deep cannot be read. -/
def maxDepth : Nat := 128

def atDepth (depth : Nat) (d : Document) : Document :=
  if depth < maxDepth then d
  else .unreadable .malformed .malformed (match d.skip with | .ok _ => none | .error f => some f)

mutual

/-- Reads a value, and gives the text behind it unless nothing can be read from there on. -/
def value : (fuel depth : Nat) → List Char → Document × Option (List Char)
  | 0, _, _ => (broken .truncated, none)
  | fuel + 1, depth, s =>
    match skipBlanks s with
    | [] => (broken .truncated, none)
    | c :: rest =>
      match c with
      | 'n' => word .null ['u', 'l', 'l'] rest
      | 't' => word (.bool true) ['r', 'u', 'e'] rest
      | 'f' => word (.bool false) ['a', 'l', 's', 'e'] rest
      | '"' =>
        match string rest with
        | (.ok text, .ok rest) => (.str text, some rest)
        | (.error f, .ok rest) => (.unreadable f f none, some rest)
        | (.ok _, .error f) => (broken f, none)
        | (.error f, .error g) => (.unreadable f f (some g), none)
      | '-' => number true rest
      | '[' =>
        let (items, fault, rest) := items fuel (depth + 1) true rest
        (atDepth (depth + 1) (.arr items fault), rest)
      | '\x7b' =>
        let (d, rest) := object fuel (depth + 1) rest
        (atDepth (depth + 1) d, rest)
      | c => if c.isDigit then number false (c :: rest) else (broken .malformed, none)

/-- Reads the items of a list up to its end or its first fault. -/
def items : (fuel depth : Nat) → (first : Bool) → List Char →
    List Document × Option Fault × Option (List Char)
  | 0, _, _, _ => ([], some .truncated, none)
  | fuel + 1, depth, first, s =>
    match skipBlanks s, first with
    | [], _ => ([], some .truncated, none)
    | ']' :: rest, _ => ([], none, some rest)
    | ',' :: rest, false =>
      match skipBlanks rest with
      | ']' :: _ => ([], some .malformed, none)
      | rest => nextItem fuel depth rest
    | _ :: _, false => ([], some .malformed, none)
    | rest, true => nextItem fuel depth rest

def nextItem : (fuel depth : Nat) → List Char → List Document × Option Fault × Option (List Char)
  | 0, _, _ => ([], some .truncated, none)
  | fuel + 1, depth, s =>
    match value fuel depth s with
    | (d, some rest) =>
      let (ds, fault, rest) := items fuel depth false rest
      (d :: ds, fault, rest)
    | (d, none) => ([d], some .malformed, none)

/-- Reads an object behind its opening brace. Its first member starts with the quote of a name. -/
def object : (fuel depth : Nat) → List Char → Document × Option (List Char)
  | 0, _, _ => (broken .truncated, none)
  | fuel + 1, depth, s =>
    match skipBlanks s with
    | [] => (.obj [] (some .truncated), none)
    | '\x7d' :: rest => (.obj [] none, some rest)
    | '"' :: rest =>
      let (ms, fault, rest) := nextMember fuel depth rest
      (.obj ms fault, rest)
    | _ :: _ => (.obj [] (some .malformed), none)

/-- Reads the members of an object that follow a first one, up to its end or its first fault. A
comma announces a member, even where none follows. -/
def members : (fuel depth : Nat) → List Char →
    List (Except Fault String × Document) × Option Fault × Option (List Char)
  | 0, _, _ => ([], some .truncated, none)
  | fuel + 1, depth, s =>
    match skipBlanks s with
    | [] => ([], some .truncated, none)
    | '\x7d' :: rest => ([], none, some rest)
    | ',' :: rest =>
      match skipBlanks rest with
      | '"' :: rest => nextMember fuel depth rest
      | rest => ([(.error (faultAt rest), broken (faultAt rest))], some (faultAt rest), none)
    | _ :: _ => ([], some .malformed, none)

/-- Reads a member behind the opening quote of its name, and the members after it. -/
def nextMember : (fuel depth : Nat) → List Char →
    List (Except Fault String × Document) × Option Fault × Option (List Char)
  | 0, _, _ => ([], some .truncated, none)
  | fuel + 1, depth, s =>
    match string s with
    | (name, .error f) => ([(name, broken f)], some f, none)
    | (name, .ok rest) =>
      match skipBlanks rest with
      | ':' :: rest =>
        match value fuel depth rest with
        | (d, some rest) =>
          let (ms, fault, rest) := members fuel depth rest
          ((name, d) :: ms, fault, rest)
        | (d, none) => ([(name, d)], some .malformed, none)
      | rest => ([(name, broken (faultAt rest))], some .malformed, none)

end

/-- Reads a text: its value, and what is wrong with the text behind it. -/
def ofText (text : String) : Document × Option Fault :=
  let s := text.toList
  match value (4 * s.length + 4) 0 s with
  | (d, none) => (d, none)
  | (d, some rest) => (d, if (skipBlanks rest).isEmpty then none else some .malformed)

def decodeText (decode : Document → Except Fault α) (text : String) : Except Fault α := do
  let (d, trailing) := ofText text
  let a ← decode d
  stopAt trailing
  return a

end Document

def Json.ofText (text : String) : Except Fault Json :=
  Document.decodeText Document.toJson text

end Profiling
