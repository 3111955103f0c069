import Profiling.Decimal.Layout

/-!
# JSON values and their text

Records are written in the order of their fields. An object that is read keeps its members in the
order of their names, each name once: `insert` keeps them so, the last value given for a name
winning. `Json.text` is the compact text of a value.
-/

namespace Profiling

/-- A JSON value. Numbers without point and exponent are integers. -/
inductive Json where
  | null
  | bool (b : Bool)
  | int (n : Int)
  | float (x : Float)
  | str (s : String)
  | arr (items : List Json)
  | obj (members : List (String × Json))

namespace Json

/-- Adds a member in the order of names, in place of one of the same name. -/
def insert (name : String) (value : Json) : List (String × Json) → List (String × Json)
  | [] => [(name, value)]
  | (n, v) :: rest =>
    if name = n then (name, value) :: rest
    else if name < n then (name, value) :: (n, v) :: rest
    else (n, v) :: insert name value rest

/-- The object with the given members, of which the last of each name counts. -/
def ofMembers (members : List (String × Json)) : Json :=
  .obj (members.foldl (fun acc (n, v) => insert n v acc) [])

/-- The value of a float, which is null for a number that JSON cannot write. -/
def ofFloat (x : Float) : Json :=
  if x.isFinite then .float x else .null

def ofOption (f : α → Json) : Option α → Json
  | none => .null
  | some a => f a

/-! ### Text -/

def hexDigit (n : Nat) : Char :=
  if n < 10 then Char.ofNat (48 + n) else Char.ofNat (87 + n)

def escapeChar (c : Char) : List Char :=
  match c with
  | '"' => ['\\', '"']
  | '\\' => ['\\', '\\']
  | '\n' => ['\\', 'n']
  | '\r' => ['\\', 'r']
  | '\t' => ['\\', 't']
  | c =>
    if c.toNat = 8 then ['\\', 'b']
    else if c.toNat = 12 then ['\\', 'f']
    else if c.toNat < 32 then
      ['\\', 'u', '0', '0', hexDigit (c.toNat / 16), hexDigit (c.toNat % 16)]
    else [c]

def stringChars (s : String) : List Char :=
  '"' :: s.toList.flatMap escapeChar ++ ['"']

mutual

def chars : Json → List Char
  | .null => ['n', 'u', 'l', 'l']
  | .bool true => ['t', 'r', 'u', 'e']
  | .bool false => ['f', 'a', 'l', 's', 'e']
  | .int n => intText n
  | .float x => jsonLayout.text x
  | .str s => stringChars s
  | .arr items => '[' :: itemsChars items ++ [']']
  | .obj members => '\x7b' :: membersChars members ++ ['\x7d']

def itemsChars : List Json → List Char
  | [] => []
  | [v] => chars v
  | v :: rest => chars v ++ ',' :: itemsChars rest

def membersChars : List (String × Json) → List Char
  | [] => []
  | [m] => memberChars m
  | m :: rest => memberChars m ++ ',' :: membersChars rest

def memberChars : String × Json → List Char
  | (n, v) => stringChars n ++ ':' :: chars v

end

def text (v : Json) : String :=
  String.ofList v.chars

end Json

end Profiling
