import Profiling.Runner

/-!
# Sessions

Several streams of one handle, each open under a name until it is closed or dropped.
-/

namespace Profiling

structure Session (σ κ : Type) where
  state : σ
  streams : List (String × BatchStream κ) := []

namespace Session

def stream? (s : Session σ κ) (name : String) : Option (BatchStream κ) :=
  s.streams.lookup name

def put (s : Session σ κ) (name : String) (stream : BatchStream κ) : Session σ κ :=
  { s with streams := (name, stream) :: s.streams.filter (·.1 != name) }

def remove (s : Session σ κ) (name : String) : Session σ κ :=
  { s with streams := s.streams.filter (·.1 != name) }

def act (s : Session σ κ) (action : σ → α × σ) : α × Session σ κ :=
  let (a, state) := action s.state
  (a, { s with state })

/-- Drops the stream under a name, and tells whether there was one. -/
def dropStream (h : Handle σ κ) (s : Session σ κ) (name : String) : Bool × Session σ κ :=
  match s.stream? name with
  | none => (false, s)
  | some stream => (true, { s.remove name with state := stream.drop h s.state })

/-- Opens a stream under a name. One that is open under that name is dropped afterwards, or stays
if the new one cannot be opened. -/
def openStream (h : Handle σ κ) (s : Session σ κ) (name : String)
    (start : σ → Except QueryError (BatchStream κ) × σ) :
    Except QueryError Unit × Session σ κ :=
  match s.act start with
  | (.error e, s) => (.error e, s)
  | (.ok stream, s) => (.ok (), (s.dropStream h name).2.put name stream)

def nextBatch (h : Handle σ κ) (s : Session σ κ) (name : String) :
    Option (Except QueryError (Option (List Row)) × Session σ κ) :=
  (s.stream? name).map fun stream =>
    let (r, stream, state) := stream.nextBatch h s.state
    (r, { s.put name stream with state })

/-- More batches than a stream can have. -/
def drainLimit : Nat := twoTo 64

def drain (h : Handle σ κ) (s : Session σ κ) (name : String) :
    Option (Except QueryError (List Nat) × Session σ κ) :=
  (s.stream? name).map fun stream =>
    let (r, stream, state) := stream.drain h drainLimit s.state
    (r, { s.put name stream with state })

/-- Closes the stream under a name, which is open no longer even if closing it fails. -/
def closeStream (h : Handle σ κ) (s : Session σ κ) (name : String) :
    Option (Except QueryError Unit × Session σ κ) :=
  (s.stream? name).map fun stream =>
    let (r, state) := stream.close h s.state
    (r, { s.remove name with state })

end Session

end Profiling
