import Profiling.Filter
import Profiling.Proofs.Json.Records
import Profiling.Table

/-!
# Tables and filters read back

A table or filter may be written with the members of its objects in any order, and without a member
that has a default and holds it. Each of these forms is read as the value.
-/

namespace Profiling

open Document (ofJson)

/-! ### Tables -/

namespace ColumnType

theorem decode_toJson (origin : Origin) (t : ColumnType) : decode origin (ofJson t.toJson) = .ok t := by
  cases t <;> rfl

end ColumnType

namespace Column

def WrittenAs (c : Column) (v : Json) : Prop :=
  v.Abridges [("name", .str c.name), ("data_type", c.type.toJson)] []

theorem writtenAs_toJson (c : Column) : c.WrittenAs c.toJson :=
  Json.abridges_of_perm (.refl _)

def partly (c : Column) (seen : List String) : Column where
  name := if "name" ∈ seen then c.name else ""
  type := if "data_type" ∈ seen then c.type else .integer

theorem decode_writtenAs (origin : Origin) {c : Column} {v : Json} (h : c.WrittenAs v) :
    decode origin (ofJson v) = .ok c := by
  refine Field.asRecord_of_abridges c.partly ?_ h
  constructor
  case takes =>
    intro m member
    simp only [List.mem_cons, List.not_mem_nil, or_false] at member
    rcases member with rfl | rfl
    · exact Field.takes_of_read rfl rfl fun seen => by simp [partly]
    · exact Field.takes_of_read rfl (ColumnType.decode_toJson origin _) fun seen => by simp [partly]
  case distinct => simp
  case needed => simp [fields, Field.needed]
  case whole =>
    intro seen given
    simp only [List.forall_mem_cons] at given
    obtain ⟨name, type, -⟩ := given
    rw [partly, if_pos (name.resolve_right (by simp)), if_pos (type.resolve_right (by simp))]

end Column

namespace TableKind

theorem decode_label (origin : Origin) (k : TableKind) : decode origin (.str k.label) = .ok k := by
  cases k <;> rfl

theorem eq_table_of_label {k : TableKind} (h : k.label = "table") : k = .table := by
  cases k with
  | table => rfl
  | view => exact absurd h (by decide)

end TableKind

namespace Table

def WrittenAs (t : Table) (v : Json) : Prop :=
  ∃ columns, List.Forall₂ Column.WrittenAs t.columns columns ∧
    v.Abridges
      [("schema", .ofOption .str t.schema), ("name", .str t.name), ("kind", .str t.kind.label),
        ("columns", .arr columns)]
      [("schema", .null), ("kind", .str "table")]

theorem writtenAs_toJson (t : Table) : t.WrittenAs t.toJson :=
  ⟨_, List.forall₂_map_right_iff.mpr (List.forall₂_same.mpr fun c _ => c.writtenAs_toJson),
    Json.abridges_of_perm (.refl _)⟩

def partly (t : Table) (seen : List String) : Table where
  schema := if "schema" ∈ seen then t.schema else none
  name := if "name" ∈ seen then t.name else ""
  kind := if "kind" ∈ seen then t.kind else .table
  columns := if "columns" ∈ seen then t.columns else []

theorem decode_writtenAs (origin : Origin) {t : Table} {v : Json} (h : t.WrittenAs v) :
    decode origin (ofJson v) = .ok t := by
  obtain ⟨columns, each, h⟩ := h
  refine Field.asRecord_of_abridges t.partly ?_ h
  constructor
  case takes =>
    intro m member
    simp only [List.mem_cons, List.not_mem_nil, or_false] at member
    rcases member with rfl | rfl | rfl | rfl
    · exact Field.takes_of_read rfl (Document.asOption_string _) fun seen => by simp [partly]
    · exact Field.takes_of_read rfl rfl fun seen => by simp [partly]
    · exact Field.takes_of_read rfl (TableKind.decode_label origin _) fun seen => by simp [partly]
    · exact Field.takes_of_read rfl
        (Document.asList_arr (fun _ _ _ => Column.decode_writtenAs origin) each)
        fun seen => by simp [partly]
  case distinct => simp
  case needed => simp [fields, Field.needed, Field.defaulted]
  case whole =>
    intro seen given
    simp only [List.forall_mem_cons] at given
    obtain ⟨schema, name, kind, columns, -⟩ := given
    have schema : "schema" ∈ seen ∨ t.schema = none :=
      schema.imp_right fun dropped => eq_none_of_ofOption_str (by simpa using dropped)
    have kind : "kind" ∈ seen ∨ t.kind = .table :=
      kind.imp_right fun dropped => TableKind.eq_table_of_label (by simpa using dropped)
    rw [partly, ite_of_default schema, if_pos (name.resolve_right (by simp)), ite_of_default kind,
      if_pos (columns.resolve_right (by simp))]

end Table

/-! ### Filters -/

namespace FilterOp

theorem decode_label (origin : Origin) (op : FilterOp) : decode origin (.str op.label) = .ok op := by
  cases op <;> rfl

end FilterOp

namespace FilterCondition

def WrittenAs (c : FilterCondition) (v : Json) : Prop :=
  v.Abridges [("column", .str c.column), ("op", .str c.op.label), ("value", c.value)]
    [("value", .null)]

theorem writtenAs_toJson (c : FilterCondition) : c.WrittenAs c.toJson :=
  Json.abridges_of_perm (.refl _)

def partly (c : FilterCondition) (seen : List String) : FilterCondition where
  column := if "column" ∈ seen then c.column else ""
  op := if "op" ∈ seen then c.op else .eq
  value := if "value" ∈ seen then c.value else .null

theorem decode_writtenAs (origin : Origin) {c : FilterCondition} {v : Json} (ordered : c.value.Ordered)
    (h : c.WrittenAs v) : decode origin (ofJson v) = .ok c := by
  refine Field.asRecord_of_abridges c.partly ?_ h
  constructor
  case takes =>
    intro m member
    simp only [List.mem_cons, List.not_mem_nil, or_false] at member
    rcases member with rfl | rfl | rfl
    · exact Field.takes_of_read rfl rfl fun seen => by simp [partly]
    · exact Field.takes_of_read rfl (FilterOp.decode_label origin _) fun seen => by simp [partly]
    · exact Field.takes_of_read rfl (Document.toJson_ofJson ordered) fun seen => by simp [partly]
  case distinct => simp
  case needed => simp [fields, Field.needed, Field.defaulted]
  case whole =>
    intro seen given
    simp only [List.forall_mem_cons] at given
    obtain ⟨column, op, value, -⟩ := given
    have value : "value" ∈ seen ∨ c.value = .null :=
      value.imp_right fun dropped => by simpa using dropped
    rw [partly, if_pos (column.resolve_right (by simp)), if_pos (op.resolve_right (by simp)),
      ite_of_default value]

end FilterCondition

namespace Filter

def WrittenAs (f : Filter) (v : Json) : Prop :=
  ∃ conditions, List.Forall₂ FilterCondition.WrittenAs f.conditions conditions ∧
    v.Abridges [("filters", .arr conditions), ("or_filter", .bool f.anyOf)]
      [("filters", .arr []), ("or_filter", .bool false)]

theorem writtenAs_toJson (f : Filter) : f.WrittenAs f.toJson :=
  ⟨_, List.forall₂_map_right_iff.mpr (List.forall₂_same.mpr fun c _ => c.writtenAs_toJson),
    Json.abridges_of_perm (.refl _)⟩

/-- The values that conditions compare with have their objects in order. -/
def Ordered (f : Filter) : Prop := ∀ c ∈ f.conditions, c.value.Ordered

def partly (f : Filter) (seen : List String) : Filter where
  conditions := if "filters" ∈ seen then f.conditions else []
  anyOf := if "or_filter" ∈ seen then f.anyOf else false

theorem decode_writtenAs (origin : Origin) {f : Filter} {v : Json} (ordered : f.Ordered)
    (h : f.WrittenAs v) : decode origin (ofJson v) = .ok f := by
  obtain ⟨conditions, each, h⟩ := h
  refine Field.asRecord_of_abridges f.partly ?_ h
  constructor
  case takes =>
    intro m member
    simp only [List.mem_cons, List.not_mem_nil, or_false] at member
    rcases member with rfl | rfl
    · exact Field.takes_of_read rfl
        (Document.asList_arr
          (fun c member _ => FilterCondition.decode_writtenAs origin (ordered c member)) each)
        fun seen => by simp [partly]
    · exact Field.takes_of_read rfl rfl fun seen => by simp [partly]
  case distinct => simp
  case needed => simp [fields, Field.defaulted]
  case whole =>
    intro seen given
    simp only [List.forall_mem_cons] at given
    obtain ⟨filters, anyOf, -⟩ := given
    have filters : "filters" ∈ seen ∨ f.conditions = [] :=
      filters.imp_right fun dropped => by
        obtain rfl : conditions = [] := by simpa using dropped
        exact List.forall₂_nil_right_iff.mp each
    have anyOf : "or_filter" ∈ seen ∨ f.anyOf = false :=
      anyOf.imp_right fun dropped => by simpa using dropped
    rw [partly, ite_of_default filters, ite_of_default anyOf]

end Filter

end Profiling
