import Profiling.Proofs.Decimal.Digits
import Profiling.Proofs.Handle.Recorded
import Profiling.Proofs.Runner.Resolution

/-!
# Prebuilt statements

A fetch of one row of a prebuilt statement sets a limit of one in place of the statement's own. For a
handle that keeps to limits, that gives the first of the statement's rows unless its own limit was zero:
the statement has no rows then, and the fetch finds one all the same.
-/

namespace Profiling

variable {σ κ : Type} {budget : Option Duration}

def Select.unlimited (q : Select) : Select := { q with limit := none }

theorem Select.unlimited_of_none {q : Select} (limit : q.limit = none) : q.unlimited = q := by
  cases q
  cases limit
  rfl

theorem Select.withLimit_of_some {q : Select} {n : Nat} (limit : q.limit = some n) : q.withLimit n = q := by
  cases q
  cases limit
  rfl

theorem Select.toSql_withLimit_eq (q : Select) (d : Dialect) (n : Nat) :
    (q.withLimit n).toSql d = q.unlimited.toSql d ++ (" LIMIT " ++ String.ofList (natText n)) :=
  Select.toSql_withLimit (q := q.unlimited) rfl d n

/-- What a handle answers to a statement within a budget. -/
def Handle.answer (h : Handle σ κ) (budget : Option Duration) (q : Select) (st : σ) : Except QueryError (List Row) :=
  ((h.execute (q.toSql h.dialect) st).within budget).1

/-- Whether a handle answers a statement under a limit with as many of the first rows that it answers
without one. -/
def Handle.KeepsLimit (h : Handle σ κ) (budget : Option Duration) (q : Select) (st : σ) (n : Nat) : Prop :=
  h.answer budget (q.withLimit n) st = (h.answer budget q.unlimited st).map (List.take n)

/-! ### An engine that keeps to limits -/

def words (sql : String) : List (List Char) := sql.toList.splitOn ' '

/-- The rows that a limit leaves, behind the word that was read before. -/
def limitStep (read : List Char × List Row) (word : List Char) : List Char × List Row :=
  (word, if read.1 = "LIMIT".toList ∧ word.all Char.isDigit then read.2.take (digitsValue word) else read.2)

/-- An engine that has the same rows for every statement, and gives as many of them as the limits in the
statement allow. -/
def Engine.limiting (dialect : Dialect) (rows : List Row) : Engine Unit (List Row) where
  dialect
  execute sql st := (.ok ((words sql).foldl limitStep ([], rows)).2, st)
  openCursor sql st := (.ok ((words sql).foldl limitStep ([], rows)).2, st)
  fetch rest n := (.ok (rest.take n), rest.drop n)

theorem words_behind_limit (sql : String) (n : Nat) :
    words (sql ++ (" LIMIT " ++ String.ofList (natText n))) = words sql ++ ["LIMIT".toList, natText n] := by
  have digits : ' ' ∉ natText n := fun blank => absurd (isDigit_of_mem_natText blank) (by decide)
  have text : (sql ++ (" LIMIT " ++ String.ofList (natText n))).toList =
      sql.toList ++ ' ' :: ("LIMIT".toList ++ ' ' :: natText n) := by
    rw [String.toList_append, String.toList_append, String.toList_ofList (l := natText n)]
    rfl
  have word : ' ' ∉ "LIMIT".toList := by decide
  rw [words, text, List.splitOn_append_cons_self, List.splitOn_append_cons_self_of_not_mem word,
    List.splitOn_eq_singleton digits]
  rfl

/-- The limit behind a statement is the last one that is read. -/
theorem foldl_limitStep (read : List Char × List Row) (n : Nat) :
    (["LIMIT".toList, natText n].foldl limitStep read).2 = read.2.take n := by
  have number : (natText n).all Char.isDigit = true := List.all_eq_true.mpr fun _ => isDigit_of_mem_natText
  simp [limitStep, number, digitsValue_natText]

theorem Engine.answer_limiting (dialect : Dialect) (rows : List Row) (q : Select) (st : Unit) :
    (limiting dialect rows).toHandle.answer budget q st =
      .ok ((words (q.toSql dialect)).foldl limitStep ([], rows)).2 :=
  congrArg Prod.fst (Call.within_at_once budget st st _)

theorem Engine.keepsLimit_limiting (dialect : Dialect) (rows : List Row) (q : Select) (st : Unit) (n : Nat) :
    (limiting dialect rows).toHandle.KeepsLimit budget q st n := by
  rw [Handle.KeepsLimit, answer_limiting, answer_limiting, q.toSql_withLimit_eq, words_behind_limit, List.foldl_append,
    foldl_limitStep]
  rfl

namespace Runner

variable {r : Runner} {h : Handle σ κ} {q : Select} {st : σ}

/-! ### The first row -/

theorem selectAllFromQuery_eq (r : Runner) (h : Handle σ κ) (q : Select) (st : σ) :
    (r.selectAllFromQuery h q st).1 = h.answer r.timeout q st := rfl

theorem selectFirstFromQuery_eq (one : h.KeepsLimit r.timeout q st 1) :
    (r.selectFirstFromQuery h q st).1 = (h.answer r.timeout q.unlimited st).map List.head? := by
  have limited : (r.selectFirstFromQuery h q st).1 = (h.answer r.timeout (q.withLimit 1) st).map List.head? := rfl
  rw [limited, one]
  cases h.answer r.timeout q.unlimited st with
  | error e => rfl
  | ok rows => cases rows <;> rfl

theorem map_head?_eq_none {result : Except QueryError (List Row)} :
    result.map List.head? = .ok none ↔ result = .ok [] := by
  cases result with
  | error e => exact iff_of_false nofun nofun
  | ok rows => cases rows with
    | nil => exact iff_of_true rfl rfl
    | cons row rows => exact iff_of_false nofun nofun

/-- Under a limit that is not zero, the rows of a statement start with the one that it starts with
without a limit. -/
theorem map_head?_answer (own : ∀ n, q.limit = some n → h.KeepsLimit r.timeout q st n)
    (positive : q.limit ≠ some 0) :
    (h.answer r.timeout q st).map List.head? = (h.answer r.timeout q.unlimited st).map List.head? := by
  cases limit : q.limit with
  | none => rw [Select.unlimited_of_none limit]
  | some n =>
    have kept := own n limit
    rw [Handle.KeepsLimit, Select.withLimit_of_some limit] at kept
    rw [kept]
    cases h.answer r.timeout q.unlimited st with
    | error e => rfl
    | ok rows =>
      have zero : n ≠ 0 := fun zero => positive (zero ▸ limit)
      exact congrArg Except.ok ((List.head?_take).trans (if_neg zero))

/-- A fetch of one row of a prebuilt statement gives the first of the rows that a fetch of all of them
gives, and none exactly if there are none, unless the statement's own limit is zero: that gives way to
the limit of one, and the row is the first that the statement has without a limit. -/
theorem first_of_prebuilt (one : h.KeepsLimit r.timeout q st 1)
    (own : ∀ n, q.limit = some n → h.KeepsLimit r.timeout q st n) :
    (q.limit ≠ some 0 →
      (r.selectFirstFromQuery h q st).1 = (r.selectAllFromQuery h q st).1.map List.head? ∧
        ((r.selectFirstFromQuery h q st).1 = .ok none ↔ (r.selectAllFromQuery h q st).1 = .ok [])) ∧
    (q.limit = some 0 → ∀ rows, h.answer r.timeout q.unlimited st = .ok rows →
      (r.selectAllFromQuery h q st).1 = .ok [] ∧ (r.selectFirstFromQuery h q st).1 = .ok rows.head?) := by
  rw [selectFirstFromQuery_eq one, selectAllFromQuery_eq]
  constructor
  · intro positive
    have same := map_head?_answer own positive
    refine ⟨same.symm, ?_⟩
    rw [← same]
    exact map_head?_eq_none
  · intro zero rows unlimited
    have kept := own 0 zero
    rw [Handle.KeepsLimit, Select.withLimit_of_some zero, unlimited] at kept
    rw [unlimited]
    exact ⟨kept, rfl⟩

def orders (ids : List Int) : Handle Unit (List Row) :=
  (Engine.limiting .postgres (ids.map fun id => ⟨["id"], [.int id]⟩)).toHandle

def ofOrders : Runner where
  table := { name := "orders", columns := [⟨"id", .integer⟩] }

theorem answer_orders (ids : List Int) :
    (orders ids).answer none (ofOrders.buildQuery []) () = .ok (ids.map fun id => ⟨["id"], [.int id]⟩) := by
  have parts : words ((ofOrders.buildQuery []).toSql .postgres) =
      ["SELECT".toList, ['*'], "FROM".toList, "\"orders\"".toList] := by
    rw [words, Select.toSql, String.toList_ofList]
    decide
  rw [orders, Engine.answer_limiting, parts]
  rfl

theorem keepsLimit_orders (ids : List Int) (q : Select) (st : Unit) (n : Nat) :
    (orders ids).KeepsLimit none q st n := Engine.keepsLimit_limiting .postgres _ q st n

/-- Of the first two of three rows, the first. -/
theorem first_of_two :
    let q := (ofOrders.buildQuery []).withLimit 2
    (∀ n, (orders [7, 8, 9]).KeepsLimit none q () n) ∧ q.limit ≠ some 0 ∧
      (ofOrders.selectAllFromQuery (orders [7, 8, 9]) q ()).1 = .ok [⟨["id"], [.int 7]⟩, ⟨["id"], [.int 8]⟩] ∧
      (ofOrders.selectFirstFromQuery (orders [7, 8, 9]) q ()).1 = .ok (some ⟨["id"], [.int 7]⟩) := by
  intro q
  have keeps (n : Nat) : (orders [7, 8, 9]).KeepsLimit none q () n := keepsLimit_orders [7, 8, 9] q () n
  have positive : q.limit ≠ some 0 := by decide
  have all : (ofOrders.selectAllFromQuery (orders [7, 8, 9]) q ()).1 =
      .ok [⟨["id"], [.int 7]⟩, ⟨["id"], [.int 8]⟩] := by
    refine (keepsLimit_orders [7, 8, 9] (ofOrders.buildQuery []) () 2).trans ?_
    rw [Select.unlimited_of_none rfl, answer_orders]
    rfl
  refine ⟨keeps, positive, all, ?_⟩
  rw [((first_of_prebuilt (keeps 1) fun n _ => keeps n).1 positive).1, all]
  rfl

/-- A statement that asks for no rows has none, but a first one. -/
theorem first_of_none :
    let q := (ofOrders.buildQuery []).withLimit 0
    (∀ p st n, (orders [7]).KeepsLimit none p st n) ∧ (ofOrders.selectAllFromQuery (orders [7]) q ()).1 = .ok [] ∧
      (ofOrders.selectFirstFromQuery (orders [7]) q ()).1 = .ok (some ⟨["id"], [.int 7]⟩) := by
  intro q
  have unlimited : (orders [7]).answer none q.unlimited () = .ok [⟨["id"], [.int 7]⟩] := answer_orders [7]
  refine ⟨keepsLimit_orders [7], ?_, ?_⟩
  · refine (keepsLimit_orders [7] (ofOrders.buildQuery []) () 0).trans ?_
    rw [Select.unlimited_of_none rfl, answer_orders]
    rfl
  · rw [selectFirstFromQuery_eq (keepsLimit_orders [7] q () 1)]
    show ((orders [7]).answer none q.unlimited ()).map List.head? = _
    rw [unlimited]
    rfl

end Runner

end Profiling
