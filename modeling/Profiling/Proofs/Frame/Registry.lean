import Mathlib.Data.List.Nodup
import Profiling.Proofs.Frame.Tables

/-!
# Registered frames

The tables of a registry show each registered frame as it was registered last, whatever statements
were planned in between: the random columns that a statement sees are gone behind it. So a statement
comes to the same with the same frames, whatever ran before.
-/

namespace Profiling.Frame

variable {π : Type} {lib : Library π}

theorem lookup_of_mem {α : Type} {entries : List (String × α)} {name : String} {a : α}
    (distinct : (entries.map (·.1)).Nodup) (member : (name, a) ∈ entries) :
    entries.lookup name = some a := by
  induction entries with
  | nil => cases member
  | cons e rest ih =>
    obtain ⟨once, distinct⟩ := List.nodup_cons.mp distinct
    rcases List.mem_cons.mp member with rfl | later
    · exact List.lookup_cons_self
    · have differs : name ≠ e.1 := by
        intro same
        exact once (List.mem_map.mpr ⟨_, later, same⟩)
      rw [List.lookup_cons, beq_false_of_ne differs]
      exact ih distinct later

/-! ### Tables of frames -/

namespace Library

variable {frames : List (String × Frame)} {name : String}

theorem scanAll_of_not_mem (other : name ∉ frames.map (·.1)) (t : Tables π) :
    lib.scanAll frames t name = t name := by
  induction frames generalizing t with
  | nil => rfl
  | cons e rest ih =>
    obtain ⟨differs, later⟩ := not_or.mp (List.mem_cons.not.mp other)
    exact (ih later _).trans (if_neg differs)

theorem scanAll_of_mem {f : Frame} (distinct : (frames.map (·.1)).Nodup) (member : (name, f) ∈ frames)
    (t : Tables π) : lib.scanAll frames t name = some (lib.scan f) := by
  induction frames generalizing t with
  | nil => cases member
  | cons e rest ih =>
    obtain ⟨once, distinct⟩ := List.nodup_cons.mp distinct
    rcases List.mem_cons.mp member with rfl | later
    · exact (scanAll_of_not_mem once _).trans (if_pos rfl)
    · exact ih distinct later _

/-- Whether planning a statement leaves the tables as they are. -/
def KeepsTables (lib : Library π) (sql : String) : Prop := ∀ t, (lib.plan sql t).2 = t

end Library

/-! ### Random columns -/

section Tags

variable {frames : List (String × Frame)} {name : String} {f : Frame}

theorem height_randomSeries (draw : Nat → Float) (start count : Nat) :
    (randomSeries draw start count).height = count := by
  simp [randomSeries, Series.height]

def tags (draw : Nat → Float) : (start : Nat) → List (String × Frame) → List (String × Frame × Series)
  | _, [] => []
  | start, (name, f) :: rest => (name, f, randomSeries draw start f.height) :: tags draw (start + f.height) rest

def tagged (draw : Nat → Float) (start : Nat) (frames : List (String × Frame)) : List (String × Frame) :=
  (tags draw start frames).map fun (name, f, s) => (name, f.put s)

theorem names_tags (draw : Nat → Float) (start : Nat) (frames : List (String × Frame)) :
    (tags draw start frames).map (·.1) = frames.map (·.1) := by
  induction frames generalizing start with
  | nil => rfl
  | cons e rest ih => exact congrArg (e.1 :: ·) (ih _)

theorem names_tagged (draw : Nat → Float) (start : Nat) (frames : List (String × Frame)) :
    (tagged draw start frames).map (·.1) = frames.map (·.1) := by
  rw [tagged, List.map_map]
  exact names_tags draw start frames

theorem mem_tags (draw : Nat → Float) (start : Nat) (member : (name, f) ∈ frames) :
    ∃ s, (name, f, s) ∈ tags draw start frames := by
  induction frames generalizing start with
  | nil => cases member
  | cons e rest ih =>
    rcases List.mem_cons.mp member with rfl | later
    · exact ⟨_, List.mem_cons_self⟩
    · obtain ⟨s, there⟩ := ih (start + e.2.height) later
      exact ⟨s, List.mem_cons_of_mem _ there⟩

theorem Library.tagAll_eq (lib : Library π) (frames : List (String × Frame)) (r : Registry π) :
    ∃ drawn, lib.tagAll frames r =
      (.ok (), { r with tables := lib.scanAll (tagged r.draw r.drawn frames) r.tables, drawn }) := by
  induction frames generalizing r with
  | nil => exact ⟨r.drawn, rfl⟩
  | cons e rest ih =>
    obtain ⟨name, f⟩ := e
    -- The random column is made for the height of its frame, so no frame refuses it.
    have takes : f.withColumn? (randomSeries r.draw r.drawn f.height) =
        some (f.put (randomSeries r.draw r.drawn f.height)) := if_pos (height_randomSeries _ _ _)
    obtain ⟨drawn, later⟩ := ih
      { r with
        tables := r.tables.put name (lib.scan (f.put (randomSeries r.draw r.drawn f.height)))
        drawn := r.drawn + f.height }
    refine ⟨drawn, ?_⟩
    rw [Library.tagAll, takes]
    exact later

end Tags

/-! ### Planning -/

namespace Library

variable {r : Registry π} {sql : String}

/-- The tables that a statement is planned over. -/
def view (lib : Library π) (r : Registry π) (sql : String) : Tables π :=
  if namesRandom sql then lib.scanAll (tagged r.draw r.drawn r.frames) r.tables else r.tables

theorem planIn_eq (lib : Library π) (r : Registry π) (sql : String) :
    ∃ drawn, lib.planIn r sql = (orEngine (lib.plan sql (lib.view r sql)).1,
      { r with
        tables := if namesRandom sql then lib.scanAll r.frames (lib.plan sql (lib.view r sql)).2
          else (lib.plan sql (lib.view r sql)).2
        drawn }) := by
  unfold planIn view
  cases namesRandom sql with
  | false => exact ⟨r.drawn, rfl⟩
  | true =>
    obtain ⟨drawn, tagged⟩ := lib.tagAll_eq r.frames r
    refine ⟨drawn, ?_⟩
    simp only [if_true, tagged]

end Library

/-! ### Calls -/

inductive EngineCall where
  | register (name : String) (f : Frame)
  | execute (sql : String)
  | openCursor (sql : String)

def EngineCall.sql? : EngineCall → Option String
  | register .. => none
  | execute sql | openCursor sql => some sql

/-- The frame that was registered last under each name, the latest call being the first. -/
def registered : List EngineCall → String → Option Frame
  | [], _ => none
  | .register name f :: earlier, n => if n = name then some f else registered earlier n
  | _ :: earlier, n => registered earlier n

namespace Library

def after (lib : Library π) (r : Registry π) : EngineCall → Registry π
  | .register name f => lib.register r name f
  | .execute sql => (lib.engine.execute sql r).2
  | .openCursor sql => (lib.engine.openCursor sql r).2

/-- The registries that calls lead to, the latest call being the first. The frames of a registry
may come to stand in another order at any time. -/
inductive Reaches (lib : Library π) : List EngineCall → Registry π → Prop where
  | start (draw : Nat → Float) : lib.Reaches [] { draw }
  | reorder {calls : List EngineCall} {r : Registry π} {frames : List (String × Frame)} :
      lib.Reaches calls r → r.frames.Perm frames → lib.Reaches calls { r with frames }
  | call {calls : List EngineCall} {r : Registry π} (c : EngineCall) :
      lib.Reaches calls r → lib.Reaches (c :: calls) (lib.after r c)

def KeepsTablesIn (lib : Library π) (calls : List EngineCall) : Prop :=
  ∀ c ∈ calls, ∀ sql, c.sql? = some sql → lib.KeepsTables sql

theorem distinct_register {r : Registry π} (distinct : (r.frames.map (·.1)).Nodup) (name : String) (f : Frame) :
    ((lib.register r name f).frames.map (·.1)).Nodup := by
  have others : ((r.frames.filter (·.1 != name)).map (·.1)).Nodup := distinct.sublist (List.filter_sublist.map _)
  exact List.nodup_cons.mpr ⟨by simp, others⟩

theorem keepsTablesIn_register (lib : Library π) (name : String) (f : Frame) :
    lib.KeepsTablesIn [.register name f] := by
  intro c member sql isSql
  cases List.mem_singleton.mp member
  cases isSql

end Library

namespace Registry

/-- The random column that the frame of a name gets for the next statement. -/
def fresh (r : Registry π) (name : String) : Option Series :=
  ((tags r.draw r.drawn r.frames).lookup name).map (·.2)

/-- What a statement sees of some frames: one that names the random column sees each with a fresh one. -/
def seen (r : Registry π) (shown : String → Option Frame) (sql name : String) : Option Frame :=
  if namesRandom sql then (shown name).bind fun f => (r.fresh name).map f.put else shown name

structure Shows (lib : Library π) (r : Registry π) (shown : String → Option Frame) : Prop where
  tables : ∀ n, r.tables n = (shown n).map lib.scan
  frames : ∀ n f, (n, f) ∈ r.frames ↔ shown n = some f
  distinct : (r.frames.map (·.1)).Nodup

namespace Shows

variable {r : Registry π} {shown : String → Option Frame} {name sql : String} {f : Frame}

theorem not_mem_names (shows : r.Shows lib shown) (none : shown name = none) : name ∉ r.frames.map (·.1) := by
  intro member
  obtain ⟨⟨n, f⟩, there, rfl⟩ := List.mem_map.mp member
  rw [(shows.frames n f).mp there] at none
  cases none

theorem lookup_frames (shows : r.Shows lib shown) (name : String) : r.frames.lookup name = shown name := by
  cases found : shown name with
  | none =>
    rw [List.lookup_eq_none_iff]
    intro e member
    have differs : name ≠ e.1 := by
      rintro rfl
      exact shows.not_mem_names found (List.mem_map.mpr ⟨e, member, rfl⟩)
    exact bne_iff_ne.mpr differs
  | some f => exact lookup_of_mem shows.distinct ((shows.frames name f).mpr found)

/-- The registered frames, put over other tables under their names, come out as they were. -/
theorem scanAll_frames (shows : r.Shows lib shown) {t : Tables π} (others : ∀ n, shown n = none → t n = none) :
    lib.scanAll r.frames t = r.tables := by
  funext name
  rw [shows.tables]
  cases found : shown name with
  | none => exact (Library.scanAll_of_not_mem (shows.not_mem_names found) t).trans (others name found)
  | some f => exact Library.scanAll_of_mem shows.distinct ((shows.frames name f).mpr found) t

theorem view_eq (shows : r.Shows lib shown) (sql : String) :
    lib.view r sql = fun name => (r.seen shown sql name).map lib.scan := by
  funext name
  cases random : namesRandom sql with
  | false =>
    rw [Library.view, seen, random]
    exact shows.tables name
  | true =>
    have names := names_tagged r.draw r.drawn r.frames
    rw [Library.view, seen, if_pos random, if_pos random]
    cases found : shown name with
    | none =>
      -- A name without a frame has no table either, and gets none by the tagging.
      have other : name ∉ (tagged r.draw r.drawn r.frames).map (·.1) := names ▸ shows.not_mem_names found
      rw [Library.scanAll_of_not_mem other, shows.tables, found]
      rfl
    | some f =>
      obtain ⟨s, tag⟩ := mem_tags r.draw r.drawn ((shows.frames name f).mpr found)
      have there : (name, f.put s) ∈ tagged r.draw r.drawn r.frames := List.mem_map.mpr ⟨_, tag, rfl⟩
      have fresh : r.fresh name = some s := by
        rw [Registry.fresh, lookup_of_mem (names_tags r.draw r.drawn r.frames ▸ shows.distinct) tag]
        rfl
      rw [Library.scanAll_of_mem (names ▸ shows.distinct) there, fresh]
      rfl

theorem register (shows : r.Shows lib shown) (name : String) (f : Frame) :
    (lib.register r name f).Shows lib fun n => if n = name then some f else shown n where
  tables n := by
    by_cases same : n = name
    · simp [Library.register, Tables.put, same]
    · simp [Library.register, Tables.put, same, shows.tables]
  frames n g := by
    by_cases same : n = name
    · subst same
      simp [Library.register, eq_comm]
    · simp [Library.register, same, shows.frames]
  distinct := Library.distinct_register shows.distinct name f

theorem reorder (shows : r.Shows lib shown) {frames : List (String × Frame)} (same : r.frames.Perm frames) :
    ({ r with frames } : Registry π).Shows lib shown where
  tables := shows.tables
  frames n f := same.mem_iff.symm.trans (shows.frames n f)
  distinct := (same.map _).nodup_iff.mp shows.distinct

theorem planIn (shows : r.Shows lib shown) (keeps : lib.KeepsTables sql) :
    ∃ drawn, lib.planIn r sql = (orEngine (lib.plan sql (lib.view r sql)).1, { r with drawn }) := by
  obtain ⟨drawn, planned⟩ := lib.planIn_eq r sql
  refine ⟨drawn, planned.trans ?_⟩
  rw [keeps]
  cases random : namesRandom sql with
  | false =>
    rw [Library.view, random]
    rfl
  | true =>
    -- The frames come back over the tagged ones; elsewhere there was nothing to begin with.
    have others : ∀ n, shown n = none → lib.view r sql n = none := by
      intro n none
      have unseen : r.seen shown sql n = Option.none := by
        rw [seen, if_pos random, none]
        rfl
      rw [shows.view_eq]
      exact congrArg (Option.map lib.scan) unseen
    rw [if_pos rfl, shows.scanAll_frames others]

end Shows

end Registry

/-! ### Every reached registry -/

section Reached

variable {calls : List EngineCall} {r : Registry π} {shown : String → Option Frame} {sql : String}

namespace Library

theorem execute_eq (lib : Library π) (r : Registry π) (sql : String) : lib.engine.execute sql r =
    ((lib.planIn r sql).1.bind (fun p => orEngine (lib.collect? p)) >>= rows, (lib.planIn r sql).2) := rfl

theorem openCursor_eq (lib : Library π) (r : Registry π) (sql : String) :
    lib.engine.openCursor sql r = ((lib.planIn r sql).1.map .planned, (lib.planIn r sql).2) := rfl

theorem frames_planIn (lib : Library π) (r : Registry π) (sql : String) :
    (lib.planIn r sql).2.frames = r.frames := by
  obtain ⟨drawn, planned⟩ := lib.planIn_eq r sql
  rw [planned]

theorem fst_planIn (lib : Library π) (r : Registry π) (sql : String) :
    (lib.planIn r sql).1 = orEngine (lib.plan sql (lib.view r sql)).1 := by
  obtain ⟨drawn, planned⟩ := lib.planIn_eq r sql
  rw [planned]

end Library

namespace Registry

theorem Shows.of_planIn (shows : r.Shows lib shown) (keeps : lib.KeepsTables sql) :
    (lib.planIn r sql).2.Shows lib shown := by
  obtain ⟨drawn, planned⟩ := shows.planIn keeps
  rw [planned]
  exact ⟨shows.tables, shows.frames, shows.distinct⟩

theorem Shows.after (shows : r.Shows lib (registered calls)) (c : EngineCall)
    (keeps : ∀ sql, c.sql? = some sql → lib.KeepsTables sql) :
    (lib.after r c).Shows lib (registered (c :: calls)) := by
  cases c with
  | register name f => exact shows.register name f
  | execute sql => exact shows.of_planIn (keeps sql rfl)
  | openCursor sql => exact shows.of_planIn (keeps sql rfl)

theorem shows_of_reaches (reached : lib.Reaches calls r) (keeps : lib.KeepsTablesIn calls) :
    r.Shows lib (registered calls) := by
  induction reached with
  | start draw => exact ⟨fun _ => rfl, fun _ _ => by simp [registered], List.nodup_nil⟩
  | reorder _ same ih => exact (ih keeps).reorder same
  | call c _ ih =>
    have earlier := ih fun c' member => keeps c' (List.mem_cons_of_mem _ member)
    exact earlier.after c (keeps c List.mem_cons_self)

structure Settled (lib : Library π) (calls : List EngineCall) (r : Registry π) : Prop where
  /-- The tables show every frame as it was registered last, without a random column. -/
  tables : ∀ n, r.tables n = (registered calls n).map lib.scan
  frames : ∀ n, r.frames.lookup n = registered calls n
  executed : ∀ sql, (lib.engine.execute sql r).2.frames = r.frames
  opened : ∀ sql, (lib.engine.openCursor sql r).2.frames = r.frames
  /-- A statement that leaves tables as they are, whether it succeeds or fails, leaves these. -/
  kept : ∀ sql, lib.KeepsTables sql →
    (lib.engine.execute sql r).2.tables = r.tables ∧ (lib.engine.openCursor sql r).2.tables = r.tables
  planned : ∀ sql, (lib.planIn r sql).1 =
    orEngine (lib.plan sql fun n => (r.seen (registered calls) sql n).map lib.scan).1
  /-- A statement comes to the same after other calls that registered the same frames. -/
  alike : ∀ calls' r', lib.Reaches calls' r' → lib.KeepsTablesIn calls' →
    (∀ n, registered calls' n = registered calls n) →
    ∀ sql, (namesRandom sql → ∀ n, r'.fresh n = r.fresh n) →
      (lib.engine.execute sql r').1 = (lib.engine.execute sql r).1 ∧
      (lib.engine.openCursor sql r').1 = (lib.engine.openCursor sql r).1

theorem seen_congr {r' : Registry π} (fresh : namesRandom sql → ∀ n, r'.fresh n = r.fresh n) :
    r'.seen shown sql = r.seen shown sql := by
  funext name
  unfold seen
  cases random : namesRandom sql with
  | false => rfl
  | true => rw [fresh random]

theorem settled (reached : lib.Reaches calls r) (keeps : lib.KeepsTablesIn calls) : r.Settled lib calls where
  tables := (shows_of_reaches reached keeps).tables
  frames := (shows_of_reaches reached keeps).lookup_frames
  executed := lib.frames_planIn r
  opened := lib.frames_planIn r
  kept sql keeps' := by
    obtain ⟨drawn, planned⟩ := (shows_of_reaches reached keeps).planIn keeps'
    have same : (lib.planIn r sql).2.tables = r.tables := by rw [planned]
    exact ⟨same, same⟩
  planned sql := by rw [lib.fst_planIn, (shows_of_reaches reached keeps).view_eq]
  alike calls' r' reached' keeps' same sql fresh := by
    have shows := shows_of_reaches reached keeps
    have shows' := shows_of_reaches reached' keeps'
    rw [funext same] at shows'
    have views : lib.view r' sql = lib.view r sql := by
      rw [shows'.view_eq, shows.view_eq, seen_congr fresh]
    have plans : (lib.planIn r' sql).1 = (lib.planIn r sql).1 := by
      rw [lib.fst_planIn, lib.fst_planIn, views]
    simp only [Library.execute_eq, Library.openCursor_eq, plans, and_self]

end Registry

end Reached

/-! ### The library of queries -/

theorem keepsTables_library {sql : String} (flat : (Query.ofText? sql).all (·.derivedNames.isEmpty) = true) :
    library.KeepsTables sql := by
  intro t
  funext name
  refine Query.planText_keeps (fun q read => ?_) t
  rw [read] at flat
  rw [List.isEmpty_iff.mp flat]
  exact List.not_mem_nil

/-- Frames registered twice show as they were the second time, behind a statement that fails and one
that names the random column. -/
theorem Registry.people_settled :
    let people : Frame := ⟨[⟨"id", .int 64, [.int 1, .int 2]⟩]⟩
    let calls : List EngineCall := [
      .execute "SELECT \"__profiler_random\" FROM \"people\"",
      .openCursor "SELECT \"id\" FROM \"nobody\"",
      .register "people" people,
      .register "people" ⟨[]⟩]
    let start : Registry (Option Plan) := { draw := fun _ => 0 }
    ∃ r, library.Reaches calls r ∧ library.KeepsTablesIn calls ∧
      r.tables "people" = some (some (.frame people)) ∧ r.frames.lookup "people" = some people ∧
      (engine.execute "SELECT * FROM \"people\"" (start.register "people" people)).1 =
        (engine.execute "SELECT * FROM \"people\"" r).1 := by
  intro people calls start
  have keeps : library.KeepsTablesIn calls := by
    intro c member sql isSql
    simp only [calls, List.mem_cons, List.not_mem_nil, or_false] at member
    rcases member with rfl | rfl | rfl | rfl
    all_goals cases isSql
    · exact keepsTables_library (by decide +kernel)
    · exact keepsTables_library (by decide +kernel)
  have reached : library.Reaches calls _ := .call _ (.call _ (.call _ (.call _ (.start fun _ => 0))))
  have settled := settled reached keeps
  refine ⟨_, reached, keeps, settled.tables _, settled.frames _, ?_⟩
  have once : library.Reaches [.register "people" people] (start.register "people" people) := .call _ (.start _)
  have plain : namesRandom "SELECT * FROM \"people\"" = false := by decide
  refine (settled.alike _ _ once (library.keepsTablesIn_register _ _) ?_ _ ?_).1
  · intro n
    by_cases same : n = "people"
    · simp [registered, calls, same]
    · simp [registered, calls, same]
  · rw [plain]
    exact nofun

end Profiling.Frame
