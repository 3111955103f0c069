import Profiling.Frame.CellType

/-!
# Queries over frames

The statements that the in-memory engine understands, as they are written. What their names stand
for depends on the frames, and is found out by `Query.plan`.
-/

namespace Profiling.Frame

inductive Comparison where
  | eq
  | notEq
  | lt
  | ltEq
  | gt
  | gtEq
deriving DecidableEq, Repr

inductive Arithmetic where
  | plus
  | minus
  | multiply
  | divide
  | modulo
deriving DecidableEq, Repr

inductive Phrase where
  /-- A name, or several with points between them. -/
  | name (parts : List String)
  | star
  | number (text : List Char)
  | string (s : String)
  | truth (b : Bool)
  | null
  | signed (negative : Bool) (p : Phrase)
  | compare (op : Comparison) (left right : Phrase)
  | calculate (op : Arithmetic) (left right : Phrase)
  | and (left right : Phrase)
  | or (left right : Phrase)
  | not (p : Phrase)
  | isNull (p : Phrase)
  | isTruth (p : Phrase) (b : Bool)
  | inList (p : Phrase) (items : List Phrase)
  | between (p low high : Phrase)
  | like (p pattern : Phrase)
  | cast (p : Phrase) (type : CellType)
  | call (function : String) (arguments : List Phrase)
  | nested (p : Phrase)

/-- What a query selects. -/
inductive Item where
  | all
  /-- All columns of a table. -/
  | table (parts : List String)
  | phrase (p : Phrase) (label : Option String)

structure SortKey where
  phrase : Phrase
  ascending : Bool

mutual

structure Query where
  ctes : List NamedQuery
  body : Body
  orderBy : List SortKey
  limit : Option Phrase
  offset : Option Phrase

structure NamedQuery where
  name : String
  query : Query

inductive Body where
  | select (items : List Item) (source : Source) (condition : Option Phrase)
    (groupBy : List Phrase)
  | nested (query : Query)

/-- What a query reads, with the name it has there. -/
inductive Source where
  | named (name : String) (label : Option String)
  | derived (query : Query) (label : Option String)

end

namespace Source

def label : Source → Option String
  | named _ l | derived _ l => l

def relabel (l : String) : Source → Source
  | named n _ => named n (some l)
  | derived q _ => derived q (some l)

end Source

end Profiling.Frame
