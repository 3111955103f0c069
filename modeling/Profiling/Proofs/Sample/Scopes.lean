import Profiling.Proofs.Sample.SystemSampling
import Profiling.Proofs.Sql.Lexeme

/-!
# Names of samples

The name of a table with something behind it is the name of no other relation in a sample: it is
written differently from the table's name, whatever that is. So each select of a sample, and each
statement over it, reads what it is meant to read.
-/

namespace Profiling

open Text

variable {d : Dialect} {scope : List String} {name : String}

/-! ### What names stand for -/

/-- What the source of a select stands for, unless it is the text of a query. -/
inductive Referent where
  | cte (name : String)
  | table (ref : TableRef)
deriving DecidableEq

def FromItem.meant? : FromItem → Option Referent
  | table ref _ => some (.table ref)
  | cte name => some (.cte name)
  | subquery .. => none

/-- The innermost of the declared names that is written like a name. -/
def Dialect.declared? (d : Dialect) (scope : List String) (name : String) : Option String :=
  scope.reverse.find? fun n => d.ident n = d.ident name

/-- What a dialect takes a source for. A name that stands alone is that of a table only if none that is
written like it is declared. -/
def FromItem.taken? (d : Dialect) (scope : List String) : FromItem → Option Referent
  | table ⟨none, name⟩ _ | cte name =>
    match d.declared? scope name with
    | some declared => some (.cte declared)
    | none => some (.table ⟨none, name⟩)
  | table ref _ => some (.table ref)
  | subquery .. => none

def Select.meant? (q : Select) : Option Referent := q.source.bind FromItem.meant?

def Select.taken? (d : Dialect) (scope : List String) (q : Select) : Option Referent :=
  q.source.bind (FromItem.taken? d scope)

def Referent.table? : Referent → Option TableRef
  | table ref => some ref
  | cte _ => none

mutual

/-- A select and all those that it is made of, each with the names that are declared for it. -/
def Select.scopes (scope : List String) : Select → List (List String × Select)
  | ⟨ctes, projection, source, selection, groupBy, orderBy, limit⟩ =>
    Cte.scopesOf scope ctes ++
      [(scope ++ ctes.map Cte.name, ⟨ctes, projection, source, selection, groupBy, orderBy, limit⟩)]

def Cte.scopes (scope : List String) : Cte → List (List String × Select)
  | ⟨_, query⟩ => Select.scopes scope query

/-- A query of a list reads the names in front of it. -/
def Cte.scopesOf (scope : List String) : List Cte → List (List String × Select)
  | [] => []
  | c :: cs => Cte.scopes scope c ++ Cte.scopesOf (scope ++ [c.name]) cs

end

theorem Select.scopes_eq (scope : List String) (q : Select) :
    q.scopes scope = Cte.scopesOf scope q.ctes ++ [(scope ++ q.ctes.map Cte.name, q)] := by
  cases q
  rfl

theorem Cte.scopesOf_cons (scope : List String) (name : String) (query : Select) (cs : List Cte) :
    scopesOf scope (⟨name, query⟩ :: cs) = query.scopes scope ++ scopesOf (scope ++ [name]) cs := rfl

theorem Cte.mem_scopesOf (scope : List String) (before : List Cte) (c : Cte) (after : List Cte) :
    (scope ++ before.map Cte.name ++ c.query.ctes.map Cte.name, c.query) ∈ scopesOf scope (before ++ c :: after) := by
  induction before generalizing scope with
  | nil =>
    refine List.mem_append_left _ ?_
    cases c with
    | mk name query =>
      rw [scopes, Select.scopes_eq]
      simp
  | cons b before ih =>
    refine List.mem_append_right _ ?_
    simpa using ih (scope ++ [b.name])

/-- Whether selects read, in a dialect, declared names and one table, as they are meant to, and the
table once. -/
structure ReadsAsMeant (d : Dialect) (ref : TableRef) (selects : List (List String × Select)) : Prop where
  taken : ∀ scope q, (scope, q) ∈ selects → q.taken? d scope = q.meant? ∧
    (q.meant? = some (.table ref) ∨ ∃ name ∈ scope, q.meant? = some (.cte name))
  once : selects.filterMap (fun p => p.2.meant?.bind Referent.table?) = [ref]

/-! ### Names that are written differently -/

theorem Text.doubleLone_append {q : Char} {s w : List Char} (noQuote : q ∉ w) (escaped : Bool) :
    doubleLone q escaped (s ++ w) = doubleLone q escaped s ++ w := by
  fun_induction doubleLone q escaped s with
  | case1 escaped => exact doubleLone_of_not_mem noQuote escaped
  | case2 rest ih => simp [doubleLone, ih]
  | case3 c rest other ih => simp [doubleLone, other, ih]
  | case4 =>
    cases w with
    | nil => simp [doubleLone]
    | cons c w =>
      rw [List.mem_cons, not_or] at noQuote
      obtain ⟨other, later⟩ := noQuote
      simp [doubleLone, Ne.symm other, doubleLone_of_not_mem later]
  | case5 c other =>
    cases w with
    | nil => simp [doubleLone, other]
    | cons e w => simp [doubleLone, other, doubleLone_of_not_mem noQuote]
  | case6 rest ih => simp [doubleLone, ih]
  | case7 e rest other ih => simp [doubleLone, other, ih]
  | case8 c e rest other ih =>
    rw [List.cons_append] at ih
    simp [doubleLone, other, ih]

theorem Dialect.ident_append_inj {w w' : String} (plain : d.nameQuote ∉ w.toList) (plain' : d.nameQuote ∉ w'.toList)
    (same : d.ident (name ++ w) = d.ident (name ++ w')) : w = w' := by
  rw [ident, ident, String.toList_append, String.toList_append, quoteName, quoteName, doubleLone_append plain,
    doubleLone_append plain'] at same
  exact String.toList_injective (by simpa using same)

def Sampler.sampleNames (t : Table) : List String := [taggedName t, sampleName t]

theorem Sampler.exists_suffix {t : Table} {n : String} (member : n ∈ t.name :: sampleNames t) :
    ∃ w ∈ ["", "_rnd", "_sample"], n = t.name ++ w := by
  simp only [sampleNames, List.mem_cons, List.not_mem_nil, or_false] at member
  rcases member with rfl | rfl | rfl
  · exact ⟨"", by decide, String.append_empty.symm⟩
  · exact ⟨"_rnd", by decide, rfl⟩
  · exact ⟨"_sample", by decide, rfl⟩

theorem Dialect.ident_sampleNames_inj {t : Table} {n n' : String} (member : n ∈ t.name :: Sampler.sampleNames t)
    (member' : n' ∈ t.name :: Sampler.sampleNames t) (same : d.ident n = d.ident n') : n = n' := by
  have plain : ∀ w ∈ ["", "_rnd", "_sample"], d.nameQuote ∉ w.toList := by cases d <;> decide
  obtain ⟨w, suffix, rfl⟩ := Sampler.exists_suffix member
  obtain ⟨w', suffix', rfl⟩ := Sampler.exists_suffix member'
  rw [ident_append_inj (plain w suffix) (plain w' suffix') same]

theorem Sampler.nodup_names (t : Table) : (t.name :: sampleNames t).Nodup := by
  simp [sampleNames, taggedName, sampleName, ← String.toList_inj]

/-! ### Taking names -/

theorem FromItem.taken?_table {t : Table} {clause : Option TableSample}
    (apart : ∀ n ∈ scope, d.ident n ≠ d.ident t.name) :
    (FromItem.table (.ofTable t) clause).taken? d scope = some (.table (.ofTable t)) := by
  have undeclared : d.declared? scope t.name = none := by
    refine List.find?_eq_none.mpr ?_
    intro n declared
    simpa using apart n (List.mem_reverse.mp declared)
  unfold TableRef.ofTable taken?
  cases t.schema with
  | none => simp only [undeclared]
  | some schema => rfl

/-- A table whose name is declared is out of reach, unless its schema stands in front of it. -/
example : (FromItem.table ⟨none, "orders"⟩ none).taken? .postgres ["orders"] = some (.cte "orders") ∧
    (FromItem.table ⟨some "crm", "orders"⟩ none).taken? .postgres ["orders"] =
      some (.table ⟨some "crm", "orders"⟩) := by
  decide

theorem FromItem.taken?_cte (declared : name ∈ scope) (alone : ∀ n ∈ scope, d.ident n = d.ident name → n = name) :
    (FromItem.cte name).taken? d scope = some (.cte name) := by
  have found : d.declared? scope name = some name := by
    obtain ⟨n, found⟩ : ∃ n, d.declared? scope name = some n := by
      refine Option.isSome_iff_exists.mp (List.find?_isSome.mpr ?_)
      exact ⟨name, List.mem_reverse.mpr declared, decide_eq_true rfl⟩
    have member : n ∈ scope := List.mem_reverse.mp (List.mem_of_find?_eq_some found)
    have written : d.ident n = d.ident name := by
      unfold Dialect.declared? at found
      simpa using List.find?_some found
    obtain rfl := alone n member written
    exact found
  simp only [taken?, found]

/-! ### Samples -/

structure Select.ReadsTable (q : Select) (t : Table) : Prop where
  ctes : q.ctes = []
  source : ∃ clause, q.source = some (.table (.ofTable t) clause)

structure Select.ReadsCte (q : Select) (name : String) : Prop where
  ctes : q.ctes = []
  source : q.source = some (.cte name)

/-- A sample is one select of the table, or one of another that tags the rows of the table. -/
inductive SampleForm (t : Table) : List Cte → Prop where
  | drawn {q : Select} (reads : q.ReadsTable t) : SampleForm t [⟨Sampler.sampleName t, q⟩]
  | tagged {q kept : Select} (reads : q.ReadsTable t) (keeps : kept.ReadsCte (Sampler.taggedName t)) :
    SampleForm t [⟨Sampler.taggedName t, q⟩, ⟨Sampler.sampleName t, kept⟩]

theorem Sampler.sampleForm (s : Sampler) (config : SampleConfig) (column : Option Column)
    (label condition : Option Expr) : SampleForm s.table (s.sampleCtes config (s.base column label condition)) := by
  cases config with
  | rows count => exact .drawn ⟨rfl, none, rfl⟩
  | percentage percent =>
    cases tags : s.drawsTags (.percentage percent) with
    | true =>
      rw [sampleCtes_of_tags tags]
      exact .tagged ⟨rfl, none, rfl⟩ ⟨rfl, rfl⟩
    | false =>
      rw [sampleCtes_of_no_tags tags]
      exact .drawn ⟨rfl, _, rfl⟩

structure SampleSource.Closed (source : SampleSource) (t : Table) : Prop where
  distinct : (source.ctes.map Cte.name).Nodup
  last : (source.ctes.map Cte.name).getLast? = some source.name
  earlier : ∀ before c after name, source.ctes = before ++ c :: after → c.query.source = some (.cte name) →
    name ∈ before.map Cte.name
  apart : ∀ c ∈ source.ctes, c.name ≠ t.name
  /-- The table is in reach where all names are declared, a query's own among them. -/
  uncaptured : ∀ d clause, (FromItem.table (.ofTable t) clause).taken? d (source.ctes.map Cte.name) =
    some (.table (.ofTable t))
  reads : ∀ d, ReadsAsMeant d (.ofTable t) (Cte.scopesOf [] source.ctes)

/-! ### What is read -/

namespace ReadsAsMeant

variable {ref : TableRef} {selects : List (List String × Select)} {q : Select} {t : Table}

theorem of_table (reads : q.ReadsTable t) : ReadsAsMeant d (.ofTable t) [([], q)] := by
  obtain ⟨clause, source⟩ := reads.source
  have meant : q.meant? = some (.table (.ofTable t)) := by
    rw [Select.meant?, source]
    rfl
  have taken : q.taken? d [] = some (.table (.ofTable t)) := by
    rw [Select.taken?, source, Option.bind_some, FromItem.taken?_table (List.forall_mem_nil _)]
  constructor
  · intro scope q' member
    obtain ⟨rfl, rfl⟩ := Prod.mk.inj (List.mem_singleton.mp member)
    exact ⟨taken.trans meant.symm, .inl meant⟩
  · simp [meant, Referent.table?]

/-- A select of a declared name adds nothing to the tables that are read. -/
theorem append_cte (h : ReadsAsMeant d ref selects) (source : q.source = some (.cte name)) (declared : name ∈ scope)
    (alone : ∀ n ∈ scope, d.ident n = d.ident name → n = name) : ReadsAsMeant d ref (selects ++ [(scope, q)]) := by
  have meant : q.meant? = some (.cte name) := by
    rw [Select.meant?, source]
    rfl
  have taken : q.taken? d scope = some (.cte name) := by
    rw [Select.taken?, source]
    exact FromItem.taken?_cte declared alone
  constructor
  · intro scope' q' member
    rcases List.mem_append.mp member with before | own
    · exact h.taken scope' q' before
    · obtain ⟨rfl, rfl⟩ := Prod.mk.inj (List.mem_singleton.mp own)
      exact ⟨taken.trans meant.symm, .inr ⟨name, declared, meant⟩⟩
  · rw [List.filterMap_append, h.once]
    simp [meant, Referent.table?]

end ReadsAsMeant

namespace SampleForm

variable {t : Table} {ctes : List Cte}

theorem names_sublist (form : SampleForm t ctes) : (ctes.map Cte.name).Sublist (Sampler.sampleNames t) := by
  cases form with
  | drawn reads => exact .cons _ (.refl _)
  | tagged reads keeps => exact .refl _

theorem flat (form : SampleForm t ctes) : ∀ c ∈ ctes, c.query.ctes = [] := by
  cases form with
  | drawn reads => simpa using reads.ctes
  | tagged reads keeps => simpa using ⟨reads.ctes, keeps.ctes⟩

theorem last (form : SampleForm t ctes) : (ctes.map Cte.name).getLast? = some (Sampler.sampleName t) := by
  cases form <;> rfl

theorem reads (form : SampleForm t ctes) (d : Dialect) : ReadsAsMeant d (.ofTable t) (Cte.scopesOf [] ctes) := by
  cases form with
  | drawn reads =>
    rw [Cte.scopesOf_cons, Select.scopes_eq, reads.ctes]
    exact .of_table reads
  | tagged reads keeps =>
    rw [Cte.scopesOf_cons, Cte.scopesOf_cons, Select.scopes_eq, Select.scopes_eq, reads.ctes, keeps.ctes]
    refine (ReadsAsMeant.of_table reads).append_cte keeps.source List.mem_cons_self ?_
    intro n member _
    exact List.mem_singleton.mp member

theorem earlier (form : SampleForm t ctes) {before after : List Cte} {c : Cte} (split : ctes = before ++ c :: after)
    (source : c.query.source = some (.cte name)) : name ∈ before.map Cte.name := by
  have member := Cte.mem_scopesOf [] before c after
  rw [form.flat c (by simp [split]), List.map_nil, List.append_nil, List.nil_append, ← split] at member
  have meant : c.query.meant? = some (.cte name) := by
    rw [Select.meant?, source]
    rfl
  obtain ⟨-, table | ⟨n, declared, other⟩⟩ := (form.reads .generic).taken _ _ member
  · rw [meant] at table
    cases table
  · rw [meant] at other
    cases other
    exact declared

theorem closed {source : SampleSource} (form : SampleForm t source.ctes) (named : source.name = Sampler.sampleName t) :
    source.Closed t := by
  obtain ⟨apart, distinct⟩ := List.nodup_cons.mp (Sampler.nodup_names t)
  have names := form.names_sublist.subset
  refine ⟨distinct.sublist form.names_sublist, ?_, ?_, ?_, ?_, form.reads⟩
  · rw [form.last, named]
  · intro before c after name split source
    exact form.earlier split source
  · intro c member same
    exact apart (same ▸ names (List.mem_map_of_mem member))
  · intro d clause
    refine FromItem.taken?_table ?_
    intro n member same
    obtain rfl := d.ident_sampleNames_inj (List.mem_cons_of_mem _ (names member)) List.mem_cons_self same
    exact apart (names member)

end SampleForm

/-- A sample declares its names one behind the other and reads the table once, and so does each statement
over it, whatever the name of the table. -/
theorem samples_are_closed {s : Sampler} {column : Option String} {now : Instant} {source : SampleSource}
    (built : s.getSampleQuery column now = .ok source) :
    source.Closed s.table ∧ ∀ (r : Runner) policy, r.sample = .sampled source → r.ReadsSample policy →
      ∀ entities args (later : Instant) q, r.statement policy entities args later = .ok q →
        ∀ d, ReadsAsMeant d (.ofTable s.table) (q.scopes []) := by
  obtain ⟨config, requested, condition, -, -, -, rfl⟩ := Sampler.source_of_getSampleQuery built
  have form : SampleForm s.table (s.source config requested condition).ctes :=
    s.sampleForm config requested (s.tag? config) condition
  refine ⟨form.closed rfl, ?_⟩
  rintro r policy bound ⟨custom, kind⟩ entities args later q statement d
  obtain ⟨reads, ctes⟩ := Runner.sources_of_statement statement
  rw [kind, Runner.target_of_sampled custom bound] at reads ctes
  have known : (Sampler.sampleName s.table) ∈ (s.source config requested condition).ctes.map Cte.name :=
    List.mem_of_getLast? form.last
  rw [Select.scopes_eq, ctes]
  refine (form.reads d).append_cte reads known ?_
  intro n member same
  have names := form.names_sublist.subset
  exact d.ident_sampleNames_inj (List.mem_cons_of_mem _ (names member)) (List.mem_cons_of_mem _ (names known)) same

theorem tenth_of_orders_closed :
    let table : Table := { name := "orders", columns := [⟨"id", .integer⟩] }
    let now := Instant.ofSeconds 0 0 (by decide)
    ∃ s source q, Sampler.create .postgres table { sampleConfig := some (.percentage 10) } = .ok s ∧
      s.getSampleQuery none now = .ok source ∧ source.ctes.map Cte.name = ["orders_rnd", "orders_sample"] ∧
      source.Closed table ∧
      ({ table, sample := .sampled source } : Runner).statement ⟨.sample, .all, true⟩ [] {} now = .ok q ∧
      ∀ d, ReadsAsMeant d ⟨none, "orders"⟩ (q.scopes []) := by
  intro table now
  obtain ⟨s, source, q, accepted, built, names, own, statement⟩ :
      ∃ s source q, Sampler.create .postgres table { sampleConfig := some (.percentage 10) } = .ok s ∧
        s.getSampleQuery none now = .ok source ∧ source.ctes.map Cte.name = ["orders_rnd", "orders_sample"] ∧
        s.table = table ∧
        ({ table, sample := .sampled source } : Runner).statement ⟨.sample, .all, true⟩ [] {} now = .ok q :=
    ⟨_, _, _, rfl, rfl, rfl, rfl, rfl⟩
  obtain ⟨closed, statements⟩ := samples_are_closed built
  rw [own] at closed statements
  exact ⟨s, source, q, accepted, built, names, closed, statement, statements _ _ rfl ⟨rfl, rfl⟩ _ _ _ _ statement⟩

end Profiling
