import Mathlib.Data.List.Forall2
import Profiling.Json.Decoder
import Profiling.Proofs.Json.Values

/-!
# Reading records back

The members of an object may come in any order, and those that hold a default may be missing. A
record is read from all such objects alike, if each of its members is read as the field it was
written from.
-/

namespace Profiling

/-- An element of a rearranged list stands somewhere in it, and the others are rearranged. -/
theorem exists_middle {α : Type} {l rest : List α} {a : α} (perm : l.Perm (a :: rest)) :
    ∃ front back, l = front ++ a :: back ∧ (front ++ back).Perm rest := by
  obtain ⟨front, back, rfl⟩ := List.append_of_mem (perm.mem_iff.mpr List.mem_cons_self)
  exact ⟨front, back, rfl, (List.perm_middle.symm.trans perm).cons_inv⟩

/-- An object with the members `full` in any order, perhaps without some of those in `defaults`. -/
def Json.Abridges (v : Json) (full defaults : List (String × Json)) : Prop :=
  ∃ members omitted, v = .obj members ∧ (members ++ omitted).Perm full ∧
    ∀ m ∈ omitted, m ∈ defaults

theorem Json.abridges_of_perm {members full defaults : List (String × Json)} (perm : members.Perm full) :
    (Json.obj members).Abridges full defaults :=
  ⟨members, [], rfl, by simpa using perm, by simp⟩

theorem Json.perm_of_abridges {v : Json} {full : List (String × Json)} (h : v.Abridges full []) :
    ∃ members, v = .obj members ∧ members.Perm full := by
  obtain ⟨members, omitted, rfl, perm, none⟩ := h
  obtain rfl := List.eq_nil_iff_forall_not_mem.mpr fun m member => List.not_mem_nil (none m member)
  exact ⟨members, rfl, by simpa using perm⟩

theorem Json.not_abridges_null {full defaults : List (String × Json)} :
    ¬ Json.null.Abridges full defaults := by
  rintro ⟨_, _, same, _⟩
  cases same

def OptionWrittenAs {α : Type} (written : α → Json → Prop) : Option α → Json → Prop
  | none, v => v = .null
  | some a, v => written a v

theorem optionWrittenAs_null {α : Type} {written : α → Json → Prop} {o : Option α}
    (present : ∀ a, ¬ written a .null) (h : OptionWrittenAs written o .null) : o = none := by
  cases o with
  | none => rfl
  | some a => exact absurd h (present a)

theorem optionWrittenAs_ofOption {α : Type} {written : α → Json → Prop} {toJson : α → Json}
    {o : Option α} (own : ∀ a, written a (toJson a)) :
    OptionWrittenAs written o (.ofOption toJson o) := by
  cases o with
  | none => rfl
  | some a => exact own a

theorem eq_none_of_ofOption_str {o : Option String} (h : Json.ofOption .str o = .null) : o = none := by
  cases o with
  | none => rfl
  | some s => cases h

/-! ### Scalars, lists and options -/

namespace Document

theorem asNat_int {bits n : Nat} (small : n < twoTo bits) : (Document.int n).asNat bits = .ok n := by
  have range : (0 : Int) ≤ n ∧ (n : Int) ≤ twoTo bits - 1 := by omega
  rw [asNat, asInt, if_pos range]
  rfl

theorem asInt64_int {n : Int} (low : -twoTo 63 ≤ n) (high : n < twoTo 63) :
    asInt64 (.int n) = .ok n := by
  have range : -twoTo 63 ≤ n ∧ n ≤ twoTo 63 - 1 := by omega
  rw [asInt64, asInt, if_pos range]

variable {α : Type} {read : Document → Except Fault α} {written : α → Json → Prop}

theorem eachOf_ofItems {values : List α} {items : List Json}
    (reads : ∀ a ∈ values, ∀ v, written a v → read (ofJson v) = .ok a)
    (each : List.Forall₂ written values items) : eachOf read (ofItems items) = .ok values := by
  induction each with
  | nil => rfl
  | cons first _ ih =>
    rw [ofItems, eachOf, reads _ List.mem_cons_self _ first,
      ih fun a later => reads a (List.mem_cons_of_mem _ later)]
    rfl

theorem asList_arr {values : List α} {items : List Json}
    (reads : ∀ a ∈ values, ∀ v, written a v → read (ofJson v) = .ok a)
    (each : List.Forall₂ written values items) :
    asList read (ofJson (.arr items)) = .ok values := by
  rw [ofJson, asList, eachOf_ofItems reads each]
  rfl

theorem asOption_writtenAs {o : Option α} {v : Json} (present : ∀ a, ¬ written a .null)
    (reads : ∀ a, o = some a → ∀ v, written a v → read (ofJson v) = .ok a)
    (h : OptionWrittenAs written o v) : asOption read (ofJson v) = .ok o := by
  cases o with
  | none =>
    obtain rfl : v = .null := h
    rfl
  | some a =>
    have reads := reads a rfl v h
    cases v with
    | null => exact absurd h (present a)
    | _ => exact congrArg (Except.map some) reads

theorem asOption_string (o : Option String) :
    asOption asString (ofJson (.ofOption .str o)) = .ok o := by
  cases o <;> rfl

end Document

/-! ### Records -/

theorem ite_of_default {α : Type} {p : Prop} [Decidable p] {x d : α} (h : p ∨ x = d) :
    (if p then x else d) = x := by
  split
  · rfl
  · exact (h.resolve_left ‹_›).symm

namespace Field

variable {ρ : Type} {fields : List (Field ρ)} {partly : List String → ρ}

/-- Storing the member in its field turns a record that has some fields into one that has this field
too. -/
def Takes (fields : List (Field ρ)) (partly : List String → ρ) (m : String × Json) : Prop :=
  ∃ f, fields.find? (·.name == m.1) = some f ∧
    ∀ seen, f.store (partly seen) (.ofJson m.2) = .ok (partly (m.1 :: seen))

theorem takes_of_read {α : Type} {name : String} {v : Json} {required : Bool}
    {read : Document → Except Fault α} {set : ρ → α → ρ} {a : α}
    (found : fields.find? (·.name == name) = some ⟨name, required, fun r d => (read d).map (set r)⟩)
    (reads : read (.ofJson v) = .ok a) (puts : ∀ seen, set (partly seen) a = partly (name :: seen)) :
    Takes fields partly (name, v) := by
  refine ⟨_, found, fun seen => ?_⟩
  show (read (.ofJson v)).map (set (partly seen)) = _
  rw [reads, ← puts seen]
  rfl

theorem storeMembers_ofMembers {members : List (String × Json)} {seen : List String}
    (takes : ∀ m ∈ members, Takes fields partly m) (distinct : (members.map Prod.fst).Nodup)
    (fresh : ∀ m ∈ members, m.1 ∉ seen) :
    ∃ all, storeMembers fields seen (partly seen) (Document.ofMembers members) = .ok (partly all, all) ∧
      ∀ n, n ∈ all ↔ n ∈ seen ∨ n ∈ members.map Prod.fst := by
  -- At every member the record so far is the one with the fields seen so far.
  induction members generalizing seen with
  | nil => exact ⟨seen, rfl, by simp⟩
  | cons m rest ih =>
    obtain ⟨n, v⟩ := m
    obtain ⟨f, found, store⟩ := takes (n, v) List.mem_cons_self
    obtain ⟨apart, distinct⟩ := List.nodup_cons.mp distinct
    have unseen : seen.contains n = false := by simpa using fresh (n, v) List.mem_cons_self
    have freshRest : ∀ m ∈ rest, m.1 ∉ n :: seen := by
      intro m later member
      rcases List.mem_cons.mp member with same | old
      · exact apart (List.mem_map.mpr ⟨m, later, same⟩)
      · exact fresh m (List.mem_cons_of_mem _ later) old
    obtain ⟨all, stored, names⟩ :=
      ih (fun m later => takes m (List.mem_cons_of_mem _ later)) distinct freshRest
    refine ⟨all, ?_, fun k => ?_⟩
    · rw [Document.ofMembers, Document.ofMember, storeMembers]
      simp only [found, unseen, Bool.false_eq_true, if_false, store seen]
      exact stored
    · rw [names k]
      simp only [List.mem_cons, List.map_cons]
      grind

/-- What makes `r` the record with the members `full`, of which those in `defaults` may be missing:
`partly` is the record that has only the fields of some names. -/
structure Describes (fields : List (Field ρ)) (partly : List String → ρ) (r : ρ)
    (full defaults : List (String × Json)) : Prop where
  takes : ∀ m ∈ full, Takes fields partly m
  distinct : (full.map Prod.fst).Nodup
  needed : ∀ f ∈ fields, f.required = true → ∃ m ∈ full, m.1 = f.name ∧ m ∉ defaults
  whole : ∀ seen, (∀ m ∈ full, m.1 ∈ seen ∨ m ∈ defaults) → partly seen = r

theorem asRecord_of_abridges {origin : Origin} (partly : List String → ρ) {r : ρ} {v : Json}
    {full defaults : List (String × Json)} (describes : Describes fields partly r full defaults)
    (h : v.Abridges full defaults) :
    Document.asRecord origin fields (partly []) (.ofJson v) = .ok r := by
  obtain ⟨members, omitted, rfl, perm, dropped⟩ := h
  have distinct : (members.map Prod.fst).Nodup := by
    have all := (perm.map Prod.fst).nodup_iff.mpr describes.distinct
    rw [List.map_append] at all
    exact (List.nodup_append.mp all).1
  have takes : ∀ m ∈ members, Takes fields partly m := fun m member =>
    describes.takes m (perm.mem_iff.mp (List.mem_append_left _ member))
  obtain ⟨seen, stored, names⟩ :=
    storeMembers_ofMembers takes distinct fun _ _ => List.not_mem_nil
  -- A member that was not given holds a default.
  have given : ∀ m ∈ full, m.1 ∈ seen ∨ m ∈ defaults := by
    intro m member
    rcases List.mem_append.mp (perm.mem_iff.mpr member) with here | left
    · exact .inl ((names m.1).mpr (.inr (List.mem_map_of_mem here)))
    · exact .inr (dropped m left)
  have complete : (fields.all fun f => !f.required || seen.contains f.name) = true := by
    refine List.all_eq_true.mpr fun f member => ?_
    cases required : f.required with
    | false => rfl
    | true =>
      obtain ⟨m, inFull, name, kept⟩ := describes.needed f member required
      simpa [name] using (given m inFull).resolve_right kept
  rw [Document.ofJson, Document.asRecord, stored]
  show (if (fields.all fun f => !f.required || seen.contains f.name) = true then
    Except.ok (partly seen) else _) = _
  rw [if_pos complete, describes.whole seen given]

end Field

end Profiling
