import Switchboard.Registry.Operation

/-!
# Scripts

What happens to a session from outside, as data. A session reads from a client; in between, other
parties may act on the registry, on the session's connection or on anything else in it. A script
lists all of this in order, and the end of the script is the end of the client's stream. What the
session writes goes into a sink, which may fail after some number of bytes.
-/

namespace Switchboard

/-- A failure of the transport or of the operating system below it. -/
inductive IoFault
  | reset
  | aborted
  | brokenPipe
  | timedOut
  | unexpectedEnd
  deriving Repr, DecidableEq

/-- The wording of the error. -/
def IoFault.message : IoFault → String
  | reset => "connection reset"
  | aborted => "connection aborted"
  | brokenPipe => "broken pipe"
  | timedOut => "timed out"
  | unexpectedEnd => "unexpected end of file"

/-- Something that another party does to the session's connection. -/
inductive Deed
  /-- Reclaim every connection, however short it has been idle. -/
  | reclaim
  | purge
  | close
  | peerClose
  | transition (target : State)
  | push (text : String)
  deriving Repr, DecidableEq

/-- The outcome of a deed. -/
inductive DeedOutcome
  | counted (count : Nat)
  | decided (outcome : Except Fault Bool)

namespace Deed

/-- Do a deed to a connection. -/
def perform (deed : Deed) (id : ConnectionId) (now : Instant) (r : Registry) :
    DeedOutcome × Registry :=
  match deed with
  | reclaim =>
    let (count, next) := r.reclaim 0 now
    (.counted count, next)
  | purge =>
    let (count, next) := r.purge
    (.counted count, next)
  | close =>
    let (outcome, next) := r.close id now
    (.decided outcome, next)
  | peerClose =>
    let (outcome, next) := r.peerClose id now
    (.decided outcome, next)
  | transition target =>
    let (outcome, next) := r.transition id target now
    (.decided outcome, next)
  | push text =>
    let (outcome, next) := r.send id text now
    (.decided outcome, next)

end Deed

/-- One thing that happens to a session. -/
inductive Event
  /-- The client sends bytes, which one read returns. -/
  | read (chunk : Bytes)
  /-- The client stays silent until the session looks after its connection. -/
  | silence
  /-- A read fails. -/
  | failure (fault : IoFault)
  /-- Another party does something to the session's connection while the session waits for the
  client. -/
  | deed (deed : Deed)
  /-- Another party makes use of the registry while the session waits for the client. -/
  | other (op : Operation)
  deriving Repr, DecidableEq

/-- The most bytes that one read returns. -/
def readCapacity : Nat := 4096

/-- Cut bytes into pieces of a size, the last one shorter, and put them after those already `cut`
(in reverse). -/
def piecesOnto (size : Nat) (cut : List Bytes) (bytes : Bytes) : List Bytes :=
  if _ended : bytes.drop size = [] ∨ size = 0 then (bytes :: cut).reverse
  else piecesOnto size (bytes.take size :: cut) (bytes.drop size)
termination_by bytes.length
decreasing_by
  have hsome : 0 < (bytes.drop size).length := List.length_pos_iff.2 fun hnil => _ended (.inl hnil)
  simp only [List.length_drop] at hsome ⊢
  omega

/-- Cut bytes into pieces of a size, the last one shorter; no bytes make one empty piece. -/
def piecesOf (size : Nat) (bytes : Bytes) : List Bytes :=
  piecesOnto size [] bytes

/-- The reads that it takes to receive bytes which a client sends at once. -/
def Event.reads (bytes : Bytes) : List Event :=
  (piecesOf readCapacity bytes).map read

/-- Where a session writes. A sink with a fault takes that many more bytes and then fails. -/
structure Sink where
  fault? : Option (Nat × IoFault)
  deriving Repr, DecidableEq

namespace Sink

/-- A sink that never fails. -/
def unlimited : Sink := ⟨none⟩

/-- Write bytes: those that were taken, the fault if not all were, and the sink afterwards. -/
def write (sink : Sink) (bytes : Bytes) : Bytes × Option IoFault × Sink :=
  match sink.fault? with
  | none => (bytes, none, sink)
  | some (room, fault) =>
    if bytes.length ≤ room then (bytes, none, ⟨some (room - bytes.length, fault)⟩)
    else (bytes.take room, some fault, ⟨some (0, fault)⟩)

end Sink

end Switchboard
