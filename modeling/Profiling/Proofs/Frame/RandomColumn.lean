import Profiling.Proofs.Frame.Registry
import Profiling.Proofs.Sql.Mentions

/-!
# Statements that draw random numbers

Random numbers are read from a column that frames have only while a statement that names it is planned. A
statement names it if its select draws random numbers, and otherwise only if the name was in a text that was
put into it: no such name comes about where texts meet.
-/

namespace Profiling.Frame

variable {π : Type} {lib : Library π} {r : Registry π}

/-! ### Naming the column -/

/-- No name is registered twice, whatever statements ran. -/
theorem Library.Reaches.distinct {calls : List EngineCall} (reached : lib.Reaches calls r) :
    (r.frames.map (·.1)).Nodup := by
  induction reached with
  | start => exact List.nodup_nil
  | reorder _ same ih => exact (same.map _).nodup_iff.mp ih
  | @call _ r c _ ih =>
    cases c with
    | register name f => exact Library.distinct_register ih name f
    | execute sql =>
      have same : (lib.after r (.execute sql)).frames = r.frames := lib.frames_planIn r sql
      rwa [same]
    | openCursor sql =>
      have same : (lib.after r (.openCursor sql)).frames = r.frames := lib.frames_planIn r sql
      rwa [same]

end Profiling.Frame
