import Profiling.Table.ColumnType

/-!
# Tables

A table with its columns, as a profile knows it, and its JSON form.
-/

namespace Profiling

structure Column where
  name : String
  type : ColumnType
deriving DecidableEq, Repr

inductive TableKind where
  | table
  | view
deriving DecidableEq, Repr

structure Table where
  schema : Option String := none
  name : String
  kind : TableKind := .table
  columns : List Column
deriving DecidableEq, Repr

def findColumn (columns : List Column) (name : String) : Option Column :=
  columns.find? (·.name == name)

namespace Column

def toJson (c : Column) : Json :=
  .obj [("name", .str c.name), ("data_type", c.type.toJson)]

def fields (origin : Origin) : List (Field Column) :=
  [.needed "name" Document.asString fun c name => { c with name },
   .needed "data_type" (ColumnType.decode origin) fun c type => { c with type }]

def decode (origin : Origin) : Document → Except Fault Column :=
  Document.asRecord origin (fields origin) ⟨"", .integer⟩

end Column

namespace TableKind

def label : TableKind → String
  | table => "table"
  | view => "view"

def decode (origin : Origin) : Document → Except Fault TableKind :=
  Document.asName origin [("table", table), ("view", view)]

end TableKind

namespace Table

def isView (t : Table) : Bool := t.kind == .view

def column? (t : Table) (name : String) : Option Column :=
  findColumn t.columns name

def label (t : Table) : String :=
  match t.schema with
  | some schema => schema ++ "." ++ t.name
  | none => t.name

def toJson (t : Table) : Json :=
  .obj [("schema", .ofOption .str t.schema), ("name", .str t.name), ("kind", .str t.kind.label),
    ("columns", .arr (t.columns.map Column.toJson))]

def fields (origin : Origin) : List (Field Table) :=
  [.defaulted "schema" (Document.asOption Document.asString) fun t schema => { t with schema },
   .needed "name" Document.asString fun t name => { t with name },
   .defaulted "kind" (TableKind.decode origin) fun t kind => { t with kind },
   .needed "columns" (Document.asList (Column.decode origin)) fun t columns => { t with columns }]

def decode (origin : Origin) : Document → Except Fault Table :=
  Document.asRecord origin (fields origin) ⟨none, "", .table, []⟩

end Table

end Profiling
