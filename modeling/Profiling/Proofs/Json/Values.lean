import Profiling.Json.Document

/-!
# Values and their documents

A value whose objects have their members in the order of names, each name once, is read back from
its document as it is.
-/

namespace Profiling

namespace Json

mutual

/-- Every object in the value has its members in the order of names, each name once. -/
def Ordered : Json → Prop
  | .arr items => OrderedItems items
  | .obj members => members.Pairwise (fun m n => m.1 < n.1) ∧ OrderedMembers members
  | _ => True

def OrderedItems : List Json → Prop
  | [] => True
  | v :: rest => v.Ordered ∧ OrderedItems rest

def OrderedMembers : List (String × Json) → Prop
  | [] => True
  | m :: rest => OrderedMember m ∧ OrderedMembers rest

def OrderedMember : String × Json → Prop
  | (_, v) => v.Ordered

end

theorem orderedItems_iff {items : List Json} : OrderedItems items ↔ ∀ v ∈ items, v.Ordered := by
  induction items with
  | nil => simp [OrderedItems]
  | cons v rest ih => simp [OrderedItems, ih]

/-! ### Insertion -/

/-- A name behind all others goes to the end. -/
theorem insert_of_last {name : String} {value : Json} {members : List (String × Json)}
    (last : ∀ m ∈ members, m.1 < name) : insert name value members = members ++ [(name, value)] := by
  induction members with
  | nil => rfl
  | cons first rest ih =>
    have before := last first List.mem_cons_self
    have other : name ≠ first.1 := fun same => String.lt_irrefl _ (same ▸ before)
    rw [insert, if_neg other, if_neg (String.lt_asymm before),
      ih fun m member => last m (List.mem_cons_of_mem _ member)]
    rfl

theorem foldl_insert_of_sorted {front members : List (String × Json)}
    (sorted : (front ++ members).Pairwise fun m n => m.1 < n.1) :
    members.foldl (fun acc (n, v) => insert n v acc) front = front ++ members := by
  induction members generalizing front with
  | nil => simp
  | cons m rest ih =>
    obtain ⟨n, v⟩ := m
    have last : ∀ k ∈ front, k.1 < n := fun k member =>
      (List.pairwise_append.mp sorted).2.2 k member (n, v) List.mem_cons_self
    simp only [List.foldl_cons, insert_of_last last]
    have moved : front ++ [(n, v)] ++ rest = front ++ (n, v) :: rest := by simp
    rw [← moved] at sorted ⊢
    exact ih sorted

/-- An object in order is the object of its members. -/
theorem ofMembers_of_sorted {members : List (String × Json)}
    (sorted : members.Pairwise fun m n => m.1 < n.1) : ofMembers members = .obj members := by
  rw [ofMembers, foldl_insert_of_sorted (by simpa using sorted)]
  rfl

end Json

namespace Document

theorem ofMembers_eq_map (members : List (String × Json)) :
    ofMembers members = members.map fun m => (.ok m.1, ofJson m.2) := by
  induction members with
  | nil => rfl
  | cons m rest ih => rw [ofMembers, ih, List.map_cons, ofMember]

/-! ### Reading a value back -/

mutual

theorem toJson_ofJson : ∀ {v : Json}, v.Ordered → (ofJson v).toJson = .ok v
  | .null, _ | .bool _, _ | .int _, _ | .float _, _ | .str _, _ => rfl
  | .arr items, h => by
    rw [Json.Ordered] at h
    rw [ofJson, toJson, itemsToJson_ofItems h]
    rfl
  | .obj members, h => by
    rw [Json.Ordered] at h
    obtain ⟨sorted, inner⟩ := h
    rw [ofJson, toJson, membersToJson_ofMembers inner, ← Json.ofMembers_of_sorted sorted]
    rfl

theorem itemsToJson_ofItems : ∀ {items : List Json}, Json.OrderedItems items →
    itemsToJson (ofItems items) = .ok items
  | [], _ => rfl
  | v :: rest, h => by
    rw [Json.OrderedItems] at h
    obtain ⟨first, others⟩ := h
    rw [ofItems, itemsToJson, toJson_ofJson first, itemsToJson_ofItems others]
    rfl

theorem membersToJson_ofMembers : ∀ {members : List (String × Json)}, Json.OrderedMembers members →
    membersToJson (ofMembers members) = .ok members
  | [], _ => rfl
  | (n, v) :: rest, h => by
    rw [Json.OrderedMembers, Json.OrderedMember] at h
    obtain ⟨first, others⟩ := h
    rw [ofMembers, membersToJson, ofMember, memberToJson, toJson_ofJson first,
      membersToJson_ofMembers others]
    rfl

end

end Document

end Profiling
