import Profiling.Frame.Plan
import Profiling.Frame.TemporalText

/-!
# Planning queries

`Query.plan` finds what the names of a query stand for. Names of tables are looked up in a scope,
which grows as the query is read: a derived table is a table from then on, also for later
statements, while common table expressions and labels of tables are known up to the end of the
statement. A query whose columns make no sense has no plan. That is an error of planning only where
its columns are looked at: by a query that reads it, by ORDER BY or by GROUP BY.
-/

namespace Profiling.Frame

/-- The tables that a statement can name. One without plan cannot be read. -/
structure Scope where
  /-- The tables that do not depend on the statement, and its derived tables. -/
  tables : Tables (Option Plan)
  ctes : List (String × Option Plan) := []
  /-- Further names of tables. -/
  labels : List (String × String) := []

namespace Scope

/-- The table that a name stands for in the statement. -/
def find? (s : Scope) (n : String) : Option (Option Plan) :=
  ((s.tables n).or (s.ctes.lookup n)).or ((s.labels.lookup n).bind s.tables)

def header? (s : Scope) (n : String) : Option Header := do
  return (← (← s.find? n)).header

end Scope

/-! ### Phrases -/

namespace Phrase

/-- The value of a number. One with a point is a float. -/
def number? (text : List Char) : Option (Cell × CellType) :=
  let n := digitsValue text
  if text.all Char.isDigit then
    if n < twoTo 63 then some (.int n, .int 64) else none
  else if text.contains '.' then
    let (mantissa, exponent) := (text.takeWhile fun c => c != 'e' && c != 'E',
      text.dropWhile fun c => c != 'e' && c != 'E')
    let whole := mantissa.takeWhile fun c => c != '.'
    let fraction := mantissa.drop (whole.length + 1)
    let scale : Int := match exponent.drop 1 with
      | '-' :: ds => -digitsValue ds
      | '+' :: ds => digitsValue ds
      | ds => digitsValue ds
    some (.float (ofDecimal (digitsValue (whole ++ fraction)) (scale - fraction.length)), .float64)
  else none
where
  /-- The float nearest to `coefficient · 10 ^ exponent`. -/
  ofDecimal (coefficient : Nat) (exponent : Int) : Float :=
    let top : Int := (natText coefficient).length + exponent
    if coefficient = 0 || top < -400 then 0
    else if 400 < top then 1.0 / 0.0
    else Float.ofScientific coefficient (exponent < 0) exponent.natAbs

/-- The value of a phrase that is one. -/
def constant? : Phrase → Option (Cell × CellType)
  | number text => number? text
  | string s => some (.string s, .string)
  | truth b => some (.bool b, .boolean)
  | null => some (.null, .null)
  | _ => none

def negate : Cell → Cell
  | .int n => .int (-n)
  | .float x => .float (-x)
  | c => c

def listItem? : Phrase → Option (Cell × CellType)
  | signed negative p => do
    let (c, type) ← constant? p
    return (if negative then negate c else c, type)
  | p => constant? p

/-- The type of a list and its items that are no nulls. They are all of one type. Of truth values
with a null among them only `true` counts. -/
def listItems? (ps : List Phrase) : Option (CellType × List Cell) := do
  let items ← ps.mapM listItem?
  match items.filter fun i => i.2 != .null with
  | [] => return (.null, [])
  | (c, type) :: rest =>
    if rest.all fun i => i.2 = type then
      let cells := c :: rest.map (·.1)
      return (type, if type = .boolean && cells.length < items.length then
        cells.filter (· == .bool true) else cells)
    else none

/-- The type of a term that is a column of dates or instants. -/
def temporalType? (h : Header) : Term → Option CellType
  | .column n => (h.lookup n).filter CellType.isTemporal
  | _ => none

/-- The term that another is compared with: a text stands for the date or the instant that it
shows if the other is a column of them. -/
def compared (h : Header) (left right : Term) : Term :=
  match temporalType? h left, right with
  | some type, .value (.string s) _ =>
    match TemporalText.compared? type s.toList with
    | some (some c) => .value c type
    | some none => .failure type
    | none => right
  | _, _ => right

def isIn? (h : Header) (t : Term) (ps : List Phrase) : Option Term := do
  let (type, cells) ← listItems? ps
  match temporalType? h t, type with
  | some temporal, .string =>
    let cells ← cells.mapM fun
      | .string s => TemporalText.listed? temporal s.toList
      | _ => none
    return .isIn t temporal cells
  | _, type => return .isIn t type cells

/-- The term that tells whether another is like a text. Without signs for other text it is a
comparison. -/
def isLike? (h : Header) (t pattern : Term) : Option Term :=
  match pattern with
  | .value (.string s) _ =>
    let cs := s.toList
    if cs.contains '%' || cs.contains '_' then some (.isLike t cs)
    else some (.compare .eq t (compared h t pattern))
  | _ => none

def signedTerm (negative : Bool) (t : Term) : Term :=
  match t with
  | .value (.int n) type => .value (.int (if negative then -n else n)) type
  | .value (.float x) type => .value (.float (if negative then -x else x)) type
  | t => .calculate (if negative then .minus else .plus) (.value (.int 0) (.int 64)) t

def isStar : Phrase → Bool
  | star => true
  | _ => false

def aggregate? (function : String) : Option Aggregate :=
  [("COUNT", .count), ("SUM", .sum), ("MIN", .min), ("MAX", .max)].lookup
    (String.ofList (function.toList.map Char.toUpper))

/-- The term of a name. One of two parts names a table and one of its columns. -/
def reference? (s : Scope) : List String → Option Term
  | [n] => some (.column n)
  | [t, n] => do
    if (← s.header? t).any (·.1 == n) then some (.column n) else none
  | _ => none

mutual

/-- The term that a phrase stands for over a header. -/
def term? (s : Scope) (h : Header) : Phrase → Option Term
  | name parts => reference? s parts
  | star => none
  | number text => (number? text).map fun (c, type) => .value c type
  | string t => some (.value (.string t) .string)
  | truth b => some (.value (.bool b) .boolean)
  | null => some (.value .null .null)
  | signed negative p => return signedTerm negative (← term? s h p)
  | compare op p q => do
    let t ← term? s h p
    return .compare op t (compared h t (← term? s h q))
  | calculate op p q => return .calculate op (← term? s h p) (← term? s h q)
  | and p q => return .and (← term? s h p) (← term? s h q)
  | or p q => return .or (← term? s h p) (← term? s h q)
  | not p => return .not (← term? s h p)
  | isNull p => return .isNull (← term? s h p)
  | isTruth p b => return .compare .eq (← term? s h p) (.value (.bool b) .boolean)
  | inList p items => do isIn? h (← term? s h p) items
  | between p low high => do
    let t ← term? s h p
    let low ← term? s h low
    let high ← term? s h high
    return .and (.compare .gtEq t (compared h t low)) (.compare .ltEq t (compared h t high))
  | like p pattern => do
    let t ← term? s h p
    isLike? h t (← term? s h pattern)
  | cast p type => return .cast (← term? s h p) type
  | call function arguments => do
    let a ← aggregate? function
    if a = .count && arguments.all isStar && arguments.length ≤ 1 then return .rowCount
    else if arguments.all isStar && arguments.length = 1 then
      return .aggregate a (.column Term.everyColumn)
    else match ← terms? s h arguments with
      | [t] => return .aggregate a t
      | _ => none
  | nested p => term? s h p

def terms? (s : Scope) (h : Header) : List Phrase → Option (List Term)
  | [] => some []
  | p :: rest => return (← term? s h p) :: (← terms? s h rest)

end

end Phrase

namespace Item

def isAll : Item → Bool
  | all => true
  | _ => false

def selected? (s : Scope) (h : Header) : Item → Option (List Selected)
  | all => some [⟨.column Term.everyColumn, none⟩]
  | table [t] => do
    let p ← (← s.tables t)
    return p.header.map fun (n, _) => ⟨.column n, none⟩
  | table _ => none
  | phrase p label => do return [⟨← p.term? s h, label⟩]

/-- The names of columns that an item keeps, judged by how it is written. -/
def keeps (s : Selected) : Option String :=
  match s with
  | ⟨_, some label⟩ => some label
  | ⟨.column n, none⟩ => some n
  | _ => none

end Item

/-! ### Queries -/

/-- Plans may fail, and what has been added to the scope by then stays there. -/
abbrev Planner := OptionT (StateM Scope)

/-- Goes on with a value if there is one. -/
def Planner.ask (a : Option α) : Planner α := OptionT.mk (pure a)

namespace Query

/-- A number of rows below a bound. -/
def rows? (bound : Nat) : Phrase → Option Nat
  | .number text =>
    let n := digitsValue text
    if text.all Char.isDigit && n < bound then some n else none
  | _ => none

/-- The rows that a query gives of those it has. -/
def range? (limit offset : Option Phrase) : Option (Nat × Option Nat) := do
  return ((← offset.mapM (rows? (twoTo 63))).getD 0, ← limit.mapM (rows? (twoTo 32)))

def order? (s : Scope) (keys : List SortKey) (p : Plan) : Option (Option Plan) := do
  let keys ← keys.mapM fun k => do return (← k.phrase.term? s p.header, k.ascending)
  return p.sort? keys

/-- What a group is made by: a term, or a selected term by its place. -/
def groupKey? (s : Scope) (h : Header) (items : List Selected) (p : Phrase) : Option Selected :=
  match p with
  | .number text => do
    let n ← rows? (twoTo 64) (.number text)
    if n = 0 then none else items[n]?
  | p => if p.constant?.isSome then none else do return ⟨← p.term? s h, none⟩

/-- The plan of a selection. It is `none` if planning fails, and `none` inside if the selection has
no plan. With ORDER BY, selected columns come in the order of the source, those of new names behind
them, and each is repeated for every row. -/
def select? (s : Scope) (items : List Item) (condition : Option Phrase) (groupBy : List Phrase)
    (orderBy : List SortKey) (source : Plan) : Option (Option Plan) := do
  let h := source.header
  let condition ← condition.mapM (Phrase.term? s h)
  let rows := match condition with
    | none => some source
    | some t => source.filter? t
  let selected := (← items.mapM (Item.selected? s h)).flatten
  if !groupBy.isEmpty then
    if items.any Item.isAll then none
    else do
      let keys ← groupBy.mapM (groupKey? s h selected)
      let grouped ← (← rows).group? keys selected
      if orderBy.isEmpty then return grouped else order? s orderBy (← grouped)
  else if orderBy.isEmpty then return do (← rows).select? selected
  else if items.any Item.isAll then do order? s orderBy (← (← rows).select? selected)
  else do
    let kept := selected.filterMap Item.keeps
    let dropped := (h.map (·.1)).filter fun n => !kept.contains n
    let ordered ← order? s orderBy (← (← rows).extend? selected)
    return ordered.map (Plan.drop dropped)

end Query

mutual

/-- Plans a query. Its common table expressions are left out unless it may have `named` ones. -/
def Query.plan (named : Bool) : Query → Planner (Option Plan)
  | ⟨ctes, body, orderBy, limit, offset⟩ => do
    if named then NamedQuery.planAll ctes
    let p ← Body.plan orderBy body
    let (skipped, count) ← Planner.ask (Query.range? limit offset)
    return if limit.isNone && offset.isNone then p else p.map (.slice skipped count)

/-- Plans common table expressions, each of which may name those before it. -/
def NamedQuery.planAll : List NamedQuery → Planner Unit
  | [] => pure ()
  | c :: rest => do
    NamedQuery.plan c
    NamedQuery.planAll rest

def NamedQuery.plan : NamedQuery → Planner Unit
  | ⟨name, query⟩ => do
    let p ← Query.plan true query
    modify fun s => { s with ctes := (name, p) :: s.ctes }

def Body.plan (orderBy : List SortKey) : Body → Planner (Option Plan)
  | .select items source condition groupBy => do
    let input ← Planner.ask (← Source.plan source)
    let scope ← get
    Planner.ask (Query.select? scope items condition groupBy orderBy input)
  | .nested query => Query.plan true query

/-- Finds a table, or plans a derived one, which has to have a name. -/
def Source.plan : Source → Planner (Option Plan)
  | .named name label => do
    let p ← Planner.ask ((← get).find? name)
    match label with
    | none => return p
    | some label => do
      modify fun s => { s with labels := (label, name) :: s.labels }
      return p
  | .derived query label => do
    let label ← Planner.ask label
    let p ← Query.plan false query
    modify fun s => { s with tables := s.tables.put label p }
    return p

end

end Profiling.Frame
