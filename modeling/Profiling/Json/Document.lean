import Profiling.Json.Basic

/-!
# JSON documents

A document is JSON as a reader meets it: members in the order written, repeated or not, and up to
the first fault of the text if it has one. Readers go through it from left to right, so they
find the first thing that is wrong with a text even where what follows is no JSON at all.
-/

namespace Profiling

/-- Why a text or value is not what its reader expects. -/
inductive Fault where
  | malformed
  | truncated
  | mismatch
deriving DecidableEq, Repr

/-- Where a document comes from. -/
inductive Origin where
  | text
  | value
deriving DecidableEq, Repr

/-- The fault of a form whose end the reader meets without looking for a value: text goes on where
it should not, a value has the wrong shape. -/
def Origin.misfit : Origin → Fault
  | .text => .malformed
  | .value => .mismatch

/-- JSON as it is read. The `fault` of a list or object is what stops its reader behind the last
item, and `none` if it is closed there. -/
inductive Document where
  | null
  | bool (b : Bool)
  | int (n : Int)
  | float (x : Float)
  | str (s : String)
  | arr (items : List Document) (fault : Option Fault)
  /-- In place of the name of a member stands the fault of reading it, if it cannot be read. -/
  | obj (members : List (Except Fault String × Document)) (fault : Option Fault)
  /-- Reading it fails; passing over it may fail too. A reader of one of a set of names, which looks
  for a string or an object, fails with `asTag`. -/
  | unreadable (reading asTag : Fault) (skipping : Option Fault)

namespace Document

/-- Nothing can be read from here on. -/
def broken (f : Fault) : Document := .unreadable f f (some f)

/-- The fault of a reader that wanted something else. -/
def unfit : Document → Fault
  | .unreadable reading _ _ => reading
  | _ => .mismatch

def stopAt : Option Fault → Except Fault Unit
  | none => .ok ()
  | some f => .error f

mutual

def ofJson : Json → Document
  | .null => .null
  | .bool b => .bool b
  | .int n => .int n
  | .float x => .float x
  | .str s => .str s
  | .arr items => .arr (ofItems items) none
  | .obj members => .obj (ofMembers members) none

def ofItems : List Json → List Document
  | [] => []
  | v :: rest => ofJson v :: ofItems rest

def ofMembers : List (String × Json) → List (Except Fault String × Document)
  | [] => []
  | m :: rest => ofMember m :: ofMembers rest

def ofMember : String × Json → Except Fault String × Document
  | (n, v) => (.ok n, ofJson v)

end

mutual

def skip : Document → Except Fault Unit
  | .arr items fault => do skipItems items; stopAt fault
  | .obj members fault => do skipMembers members; stopAt fault
  | .unreadable _ _ skipping => stopAt skipping
  | _ => .ok ()

def skipItems : List Document → Except Fault Unit
  | [] => .ok ()
  | d :: rest => do skip d; skipItems rest

def skipMembers : List (Except Fault String × Document) → Except Fault Unit
  | [] => .ok ()
  | m :: rest => do skipMember m; skipMembers rest

def skipMember : Except Fault String × Document → Except Fault Unit
  | (_, d) => skip d

end

mutual

/-- The value of a document, the last member of each name winning. -/
def toJson : Document → Except Fault Json
  | .null => .ok .null
  | .bool b => .ok (.bool b)
  | .int n => .ok (.int n)
  | .float x => .ok (.float x)
  | .str s => .ok (.str s)
  | .arr items fault => do
    let values ← itemsToJson items
    stopAt fault
    return .arr values
  | .obj members fault => do
    let values ← membersToJson members
    stopAt fault
    return .ofMembers values
  | .unreadable reading _ _ => .error reading

def itemsToJson : List Document → Except Fault (List Json)
  | [] => .ok []
  | d :: rest => do
    let v ← toJson d
    return v :: (← itemsToJson rest)

def membersToJson : List (Except Fault String × Document) → Except Fault (List (String × Json))
  | [] => .ok []
  | m :: rest => do
    let v ← memberToJson m
    return v :: (← membersToJson rest)

def memberToJson : Except Fault String × Document → Except Fault (String × Json)
  | (.error f, _) => .error f
  | (.ok n, d) => do return (n, ← toJson d)

end

end Document

end Profiling
