import Profiling.Json.Reader

/-!
# Decoding documents

Readers of the shapes that configuration has: scalars of a given range, lists, names out of a fixed
set, and records. A record is an object, or the list of its fields in order. Each reader goes
through the document from left to right and stops at the first fault.
-/

namespace Profiling

namespace Document

def asString : Document → Except Fault String
  | .str s => .ok s
  | d => .error d.unfit

def asBool : Document → Except Fault Bool
  | .bool b => .ok b
  | d => .error d.unfit

/-- An integer in the closed range from `low` to `high`. -/
def asInt (low high : Int) : Document → Except Fault Int
  | .int n => if low ≤ n ∧ n ≤ high then .ok n else .error .mismatch
  | d => .error d.unfit

def asNat (bits : Nat) (d : Document) : Except Fault Nat :=
  (d.asInt 0 (twoTo bits - 1)).map Int.toNat

def asInt64 : Document → Except Fault Int :=
  asInt (-twoTo 63) (twoTo 63 - 1)

def asFloat : Document → Except Fault Float
  | .int n => .ok (Float.ofInt n)
  | .float x => .ok x
  | d => .error d.unfit

/-- A value that null leaves out. -/
def asOption (read : Document → Except Fault α) : Document → Except Fault (Option α)
  | .null => .ok none
  | d => (read d).map some

def eachOf (read : Document → Except Fault α) : List Document → Except Fault (List α)
  | [] => .ok []
  | d :: rest => do
    let a ← read d
    return a :: (← eachOf read rest)

def asList (read : Document → Except Fault α) : Document → Except Fault (List α)
  | .arr items fault => do
    let values ← eachOf read items
    stopAt fault
    return values
  | d => .error d.unfit

/-- Null, the payload of a name that has none. -/
def asNothing : Document → Except Fault Unit
  | .null => .ok ()
  | d => .error d.unfit

def pick (key : String) (choices : List (String × α)) : Except Fault α :=
  match choices.lookup key with
  | some a => .ok a
  | none => .error .mismatch

/-- One of a set of names, written as a string or as the name of an object's only member. -/
def asChoice (origin : Origin) (choices : List (String × (Document → Except Fault α)))
    (bare : List (String × α)) : Document → Except Fault α
  | .str s => pick s bare
  | .obj ((.ok n, d) :: rest) fault => do
    let read ← pick n choices
    let a ← read d
    if rest.isEmpty then
      stopAt fault
      return a
    else .error origin.misfit
  | .obj ((.error f, _) :: _) _ => .error f
  | .obj [] fault => do
    stopAt fault
    .error origin.misfit
  | .unreadable _ asTag _ => .error asTag
  | _ => .error origin.misfit

/-- One of a set of names without payload. -/
def asName (origin : Origin) (names : List (String × α)) : Document → Except Fault α :=
  asChoice origin (names.map fun (n, a) => (n, fun d => d.asNothing.map fun _ => a)) names

end Document

structure Field (ρ : Type) where
  name : String
  required : Bool
  store : ρ → Document → Except Fault ρ

namespace Field

def needed (name : String) (read : Document → Except Fault α) (set : ρ → α → ρ) : Field ρ :=
  ⟨name, true, fun r d => (read d).map (set r)⟩

/-- A field that keeps its default if it is not given. -/
def defaulted (name : String) (read : Document → Except Fault α) (set : ρ → α → ρ) : Field ρ :=
  ⟨name, false, fun r d => (read d).map (set r)⟩

/-- Stores the members of an object, each field once at most, and passes over the others. -/
def storeMembers (fields : List (Field ρ)) : (seen : List String) → ρ →
    List (Except Fault String × Document) → Except Fault (ρ × List String)
  | seen, r, [] => .ok (r, seen)
  | _, _, (.error f, _) :: _ => .error f
  | seen, r, (.ok n, d) :: rest =>
    match fields.find? (·.name == n) with
    | none => do
      d.skip
      storeMembers fields seen r rest
    | some f =>
      if seen.contains n then .error .mismatch
      else do
        let r ← f.store r d
        storeMembers fields (n :: seen) r rest

def storeItems (origin : Origin) (fault : Option Fault) :
    List (Field ρ) → ρ → List Document → Except Fault ρ
  | [], r, [] => do
    Document.stopAt fault
    return r
  | [], _, _ :: _ => .error origin.misfit
  | f :: fs, r, d :: ds => do storeItems origin fault fs (← f.store r d) ds
  | f :: fs, r, [] => do
    Document.stopAt fault
    if f.required then .error .mismatch else storeItems origin fault fs r []

end Field

/-- Reads a record, starting from `blank` with its defaults. -/
def Document.asRecord (origin : Origin) (fields : List (Field ρ)) (blank : ρ) :
    Document → Except Fault ρ
  | .obj members fault => do
    let (r, seen) ← Field.storeMembers fields [] blank members
    stopAt fault
    if fields.all fun f => !f.required || seen.contains f.name then return r
    else .error .mismatch
  | .arr items fault => Field.storeItems origin fault fields blank items
  | d => .error d.unfit

end Profiling
