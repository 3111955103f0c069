import Profiling.Partition
import Profiling.Proofs.Json.Records

/-!
# Partitions read back

One object holds the column of a partition, the name of its kind and the fields of the kind. They
may come in any order.
-/

namespace Profiling

open Document (ofJson)

namespace IntervalUnit

theorem decode_code (u : IntervalUnit) : Partition.decodeUnit (.str u.code) = .ok u := by
  cases u <;> rfl

end IntervalUnit

/-- Numbers that fit the types of their fields, and values with their objects in order. -/
def PartitionKind.Representable : PartitionKind → Prop
  | timeUnit interval _ | ingestionTime interval _ => interval < twoTo 32
  | integerRange start stop =>
    (-twoTo 63 ≤ start ∧ start < twoTo 63) ∧ -twoTo 63 ≤ stop ∧ stop < twoTo 63
  | columnValues values => ∀ v ∈ values, v.Ordered

namespace Partition

def WrittenAs (p : Partition) (v : Json) : Prop :=
  v.Abridges (("column", .str p.column) :: kindMembers p.kind) []

theorem writtenAs_toJson (p : Partition) : p.WrittenAs p.toJson :=
  Json.abridges_of_perm (.refl _)

/-! The column may stand anywhere among the other members. -/

theorem splitMembers_of_ne {column : Option String} {members : List (String × Json)}
    (others : ∀ m ∈ members, m.1 ≠ "column")
    (readable : ∀ m ∈ members, (ofJson m.2).toJson = .ok m.2) :
    splitMembers column (Document.ofMembers members) =
      .ok (column, members.map fun m => (m.1, ofJson m.2)) := by
  induction members with
  | nil => rfl
  | cons m rest ih =>
    obtain ⟨n, v⟩ := m
    have other : n ≠ "column" := others (n, v) List.mem_cons_self
    rw [Document.ofMembers, Document.ofMember, splitMembers, if_neg other,
      readable (n, v) List.mem_cons_self,
      ih (fun m later => others m (List.mem_cons_of_mem _ later))
        fun m later => readable m (List.mem_cons_of_mem _ later)]
    rfl

theorem splitMembers_middle {name : String} {front back : List (String × Json)}
    (others : ∀ m ∈ front ++ back, m.1 ≠ "column")
    (readable : ∀ m ∈ front ++ back, (ofJson m.2).toJson = .ok m.2) :
    splitMembers none (Document.ofMembers (front ++ ("column", .str name) :: back)) =
      .ok (some name, (front ++ back).map fun m => (m.1, ofJson m.2)) := by
  induction front with
  | nil =>
    -- Behind the column stand members of other names only.
    rw [List.nil_append, Document.ofMembers, Document.ofMember, splitMembers, if_pos rfl]
    exact splitMembers_of_ne others readable
  | cons m rest ih =>
    obtain ⟨n, v⟩ := m
    have other : n ≠ "column" := others (n, v) List.mem_cons_self
    rw [List.cons_append, Document.ofMembers, Document.ofMember, splitMembers, if_neg other,
      readable (n, v) List.mem_cons_self,
      ih (fun m later => others m (List.mem_cons_of_mem _ later))
        fun m later => readable m (List.mem_cons_of_mem _ later)]
    rfl

/-- So may the name of the kind among its fields. -/
theorem decodeKind_of_perm {members fields : List (String × Json)} {name : String}
    {kind : PartitionKind} {read : Document → Except Fault PartitionKind}
    (perm : members.Perm (("type", .str name) :: fields)) (others : ∀ m ∈ fields, m.1 ≠ "type")
    (known : Document.pick name kindReaders = .ok read)
    (reads : ∀ v : Json, v.Abridges fields [] → read (ofJson v) = .ok kind) :
    decodeKind (members.map fun m => (m.1, ofJson m.2)) = .ok kind := by
  have tags : members.filter (fun m => m.1 == "type") = [("type", .str name)] := by
    have none : fields.filter (fun m => m.1 == "type") = [] :=
      List.filter_eq_nil_iff.mpr fun m member => by simpa using others m member
    have kept := perm.filter fun m => m.1 == "type"
    rw [List.filter_cons_of_pos (by rfl), none] at kept
    exact List.perm_singleton.mp kept
  have untagged : (members.filter fun m => m.1 != "type").Perm fields := by
    have all : fields.filter (fun m => m.1 != "type") = fields :=
      List.filter_eq_self.mpr fun m member => by simpa using others m member
    have kept := perm.filter fun m => m.1 != "type"
    rwa [List.filter_cons_of_neg (by simp), all] at kept
  have read : read (ofJson (.obj (members.filter fun m => m.1 != "type"))) = .ok kind :=
    reads _ (Json.abridges_of_perm untagged)
  rw [ofJson, Document.ofMembers_eq_map] at read
  have tagged : (members.map fun m => (m.1, ofJson m.2)).filter (fun m => m.1 == "type") =
      [("type", .str name)] := by
    rw [List.filter_map]
    exact congrArg (List.map _) tags
  -- The one member named so tells the reader of the others.
  rw [decodeKind, tagged]
  show (do
    let read ← Document.pick name kindReaders
    read _) = _
  rw [known, List.filter_map, List.map_map]
  exact read

def partlyWindow (interval : Nat) (unit : IntervalUnit) (seen : List String) : Nat × IntervalUnit :=
  (if "interval" ∈ seen then interval else 0, if "unit" ∈ seen then unit else .hour)

theorem window_of_abridges {interval : Nat} {unit : IntervalUnit} {v : Json}
    (fits : interval < twoTo 32) (h : v.Abridges (windowMembers interval unit) []) :
    Document.asRecord .value windowFields (0, .hour) (ofJson v) = .ok (interval, unit) := by
  refine Field.asRecord_of_abridges (partlyWindow interval unit) ?_ h
  constructor
  case takes =>
    intro m member
    simp only [windowMembers, List.mem_cons, List.not_mem_nil, or_false] at member
    rcases member with rfl | rfl
    · exact Field.takes_of_read rfl (Document.asNat_int fits) fun seen => by simp [partlyWindow]
    · exact Field.takes_of_read rfl (IntervalUnit.decode_code unit) fun seen => by
        simp [partlyWindow]
  case distinct => simp [windowMembers]
  case needed => simp [windowFields, windowMembers, Field.needed]
  case whole =>
    intro seen given
    simp only [windowMembers, List.forall_mem_cons] at given
    obtain ⟨interval, unit, -⟩ := given
    rw [partlyWindow, if_pos (interval.resolve_right (by simp)), if_pos (unit.resolve_right (by simp))]

def partlyRange (start stop : Int) (seen : List String) : Int × Int :=
  (if "start" ∈ seen then start else 0, if "end" ∈ seen then stop else 0)

theorem range_of_abridges {start stop : Int} {v : Json}
    (fits : (-twoTo 63 ≤ start ∧ start < twoTo 63) ∧ -twoTo 63 ≤ stop ∧ stop < twoTo 63)
    (h : v.Abridges [("start", .int start), ("end", .int stop)] []) :
    Document.asRecord .value rangeFields (0, 0) (ofJson v) = .ok (start, stop) := by
  obtain ⟨⟨low, high⟩, low', high'⟩ := fits
  refine Field.asRecord_of_abridges (partlyRange start stop) ?_ h
  constructor
  case takes =>
    intro m member
    simp only [List.mem_cons, List.not_mem_nil, or_false] at member
    rcases member with rfl | rfl
    · exact Field.takes_of_read rfl (Document.asInt64_int low high) fun seen => by simp [partlyRange]
    · exact Field.takes_of_read rfl (Document.asInt64_int low' high') fun seen => by simp [partlyRange]
  case distinct => simp
  case needed => simp [rangeFields, Field.needed]
  case whole =>
    intro seen given
    simp only [List.forall_mem_cons] at given
    obtain ⟨start, stop, -⟩ := given
    rw [partlyRange, if_pos (start.resolve_right (by simp)), if_pos (stop.resolve_right (by simp))]

def partlyValues (values : List Json) (seen : List String) : List Json :=
  if "values" ∈ seen then values else []

theorem values_of_abridges {values : List Json} {v : Json} (ordered : ∀ v ∈ values, v.Ordered)
    (h : v.Abridges [("values", .arr values)] []) :
    Document.asRecord .value valuesFields [] (ofJson v) = .ok values := by
  have reads : Document.asList Document.toJson (ofJson (.arr values)) = .ok values := by
    have each : List.Forall₂ (fun v w => v = w) values values :=
      List.forall₂_same.mpr fun _ _ => rfl
    refine Document.asList_arr ?_ each
    rintro v member _ rfl
    exact Document.toJson_ofJson (ordered v member)
  refine Field.asRecord_of_abridges (partlyValues values) ?_ h
  constructor
  case takes =>
    intro m member
    obtain rfl := List.mem_singleton.mp member
    exact Field.takes_of_read rfl reads fun seen => by simp [partlyValues]
  case distinct => simp
  case needed => simp [valuesFields, Field.needed]
  case whole =>
    intro seen given
    exact if_pos ((given _ List.mem_cons_self).resolve_right (by simp))

theorem kindMembers_ne_column (kind : PartitionKind) : ∀ m ∈ kindMembers kind, m.1 ≠ "column" := by
  cases kind <;> simp [kindMembers, windowMembers]

theorem ordered_kindMembers {kind : PartitionKind} (fits : kind.Representable) :
    ∀ m ∈ kindMembers kind, m.2.Ordered := by
  cases kind with
  | columnValues values =>
    have items : Json.OrderedItems values := Json.orderedItems_iff.mpr fits
    simpa [kindMembers, Json.Ordered] using items
  | _ => simp [kindMembers, windowMembers, Json.Ordered]

theorem decodeKind_kindMembers {kind : PartitionKind} {members : List (String × Json)}
    (fits : kind.Representable) (perm : members.Perm (kindMembers kind)) :
    decodeKind (members.map fun m => (m.1, ofJson m.2)) = .ok kind := by
  cases kind with
  | timeUnit interval unit =>
    refine decodeKind_of_perm perm (by simp [windowMembers]) rfl fun v h => ?_
    rw [window_of_abridges fits h]
    rfl
  | ingestionTime interval unit =>
    refine decodeKind_of_perm perm (by simp [windowMembers]) rfl fun v h => ?_
    rw [window_of_abridges fits h]
    rfl
  | integerRange start stop =>
    refine decodeKind_of_perm perm (by simp) rfl fun v h => ?_
    rw [range_of_abridges fits h]
    rfl
  | columnValues values =>
    refine decodeKind_of_perm perm (by simp) rfl fun v h => ?_
    rw [values_of_abridges fits h]
    rfl

theorem decode_writtenAs {p : Partition} {v : Json} (fits : p.kind.Representable)
    (h : p.WrittenAs v) : decode (ofJson v) = .ok p := by
  obtain ⟨members, rfl, perm⟩ := Json.perm_of_abridges h
  obtain ⟨front, back, rfl, rest⟩ := exists_middle perm
  have others : ∀ m ∈ front ++ back, m.1 ≠ "column" := fun m member =>
    kindMembers_ne_column p.kind m (rest.mem_iff.mp member)
  have readable : ∀ m ∈ front ++ back, (ofJson m.2).toJson = .ok m.2 := fun m member =>
    Document.toJson_ofJson (ordered_kindMembers fits m (rest.mem_iff.mp member))
  rw [ofJson, decode, splitMembers_middle others readable]
  show (do return Partition.mk p.column (← decodeKind _) : Except Fault Partition) = _
  rw [decodeKind_kindMembers fits rest]
  rfl

end Partition

end Profiling
