/-!
# Results of steps that can fail

A computation of several steps comes to a value only if each of its steps does.
-/

namespace Profiling

variable {ε α β : Type} {x : Except ε α}

theorem ok_of_bind {f : α → Except ε β} {b : β} (h : x >>= f = .ok b) : ∃ a, x = .ok a ∧ f a = .ok b := by
  cases x with
  | error e => cases h
  | ok a => exact ⟨a, rfl, h⟩

theorem ok_of_map {f : α → β} {b : β} (built : x.map f = .ok b) : ∃ a, x = .ok a ∧ f a = b := by
  cases x with
  | error e => cases built
  | ok a => exact ⟨a, rfl, Except.ok.inj built⟩

theorem error_of_map {f : α → β} {e : ε} (failed : x.map f = .error e) : x = .error e := by
  cases x with
  | error own => exact congrArg _ (Except.error.inj failed)
  | ok a => cases failed

end Profiling
