import Profiling.Proofs.Handle.Recorded

/-!
# Paging

Cursors that page through rows in order, whatever number of rows each fetch asks for, and handles
that give the rows of a statement at once and page by page.
-/

namespace Profiling

variable {σ κ α : Type} {budget : Option Duration}

/-- Whether a call comes to a value within the budget. -/
def Call.Gives (budget : Option Duration) (c : Call σ α) (a : α) : Prop :=
  c.inTime budget = true ∧ c.outcome = .ok a

theorem Call.within_of_gives {c : Call σ α} {a : α} (gives : c.Gives budget a) :
    c.within budget = (.ok a, c.state) := by
  obtain ⟨inTime, outcome⟩ := gives
  rw [within_of_inTime inTime, outcome]

theorem Call.gives_at_once (st st' : σ) (a : α) : (⟨st, ⟨0⟩, .ok a, st'⟩ : Call σ α).Gives budget a :=
  ⟨inTime_at_once budget st st' _, rfl⟩

namespace Handle

/-- Whether fetches keep a relation between cursors and the rows ahead of them: each gives the first
of the rows and leaves the others ahead. A cursor with no rows ahead closes without failure. -/
structure KeepsAhead (h : Handle σ κ) (budget : Option Duration) (ahead : κ → σ → List Row → Prop) :
    Prop where
  fetch : ∀ {cursor st rows}, ahead cursor st rows → ∀ size,
    (h.fetch cursor size st).Gives budget (rows.take size) ∧
      ahead (h.fetch cursor size st).state.cursor (h.fetch cursor size st).state.state (rows.drop size)
  close : ∀ {cursor st}, ahead cursor st [] → (h.close cursor st).Gives budget ()

/-- Whether a cursor pages through exactly these rows. -/
def Pages (h : Handle σ κ) (budget : Option Duration) (cursor : κ) (st : σ) (rows : List Row) : Prop :=
  ∃ ahead, h.KeepsAhead budget ahead ∧ ahead cursor st rows

/-- Whether a statement comes to these rows at once. -/
def Executes (h : Handle σ κ) (budget : Option Duration) (sql : String) (st : σ) (rows : List Row) :
    Prop :=
  (h.execute sql st).Gives budget rows

/-- Whether a statement gets a cursor that pages through these rows. -/
def OpensOn (h : Handle σ κ) (budget : Option Duration) (sql : String) (st : σ) (rows : List Row) :
    Prop :=
  ∃ cursor, (h.openCursor sql st).Gives budget cursor ∧
    h.Pages budget cursor (h.openCursor sql st).state rows

variable {h : Handle σ κ} {cursor : κ} {st : σ} {rows : List Row}

theorem Pages.fetch (pages : h.Pages budget cursor st rows) (size : Nat) :
    (h.fetch cursor size st).Gives budget (rows.take size) ∧
      h.Pages budget (h.fetch cursor size st).state.cursor (h.fetch cursor size st).state.state
        (rows.drop size) := by
  obtain ⟨ahead, keeps, here⟩ := pages
  obtain ⟨gives, next⟩ := keeps.fetch here size
  exact ⟨gives, ahead, keeps, next⟩

theorem Pages.close (pages : h.Pages budget cursor st []) : (h.close cursor st).Gives budget () := by
  obtain ⟨ahead, keeps, here⟩ := pages
  exact keeps.close here

end Handle

/-! ### The engine of some rows -/

namespace Engine

variable (dialect : Dialect) (rows : List Row) (sql : String) (st : Unit)

theorem executes_ofRows : (ofRows dialect rows).toHandle.Executes budget sql st rows :=
  Call.gives_at_once st st rows

/-- The cursor of such an engine is the list of the rows ahead. -/
theorem keepsAhead_ofRows :
    (ofRows dialect rows).toHandle.KeepsAhead budget fun cursor _ ahead => cursor = ahead where
  fetch := by
    rintro cursor st ahead rfl size
    exact ⟨Call.gives_at_once _ _ _, rfl⟩
  close _ := Call.gives_at_once _ _ _

theorem opensOn_ofRows : (ofRows dialect rows).toHandle.OpensOn budget sql st rows :=
  ⟨rows, Call.gives_at_once st st rows, _, keepsAhead_ofRows dialect rows, rfl⟩

end Engine

end Profiling
