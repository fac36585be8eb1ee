import Switchboard.Connection.Latency
import Switchboard.Registry.Census
import Switchboard.Registry.Shards

/-!
# The registry

The registry owns every connection. It gives out ids, finds a connection by its id, opens and
closes it, carries data to and from it, and looks after the connections as a whole: it reclaims
those that have been idle for too long, removes those that are finished, and takes a census.

Every operation that names a connection answers `notFound` if it is not held. Otherwise the
operation is one on that connection alone, and every other connection stays as it is.
-/

namespace Switchboard

/-- Every connection, and the totals of those that have been removed. -/
structure Registry where
  /-- What new connections are made with. -/
  profile : Profile
  latency : Latency
  /-- The last id that has been given out. -/
  lastId : Nat
  shards : Shards Connection
  retired : Tally

namespace Registry

/-- A registry that has never held a connection. -/
def empty (profile : Profile) (latency : Latency) : Registry where
  profile := profile
  latency := latency
  lastId := 0
  shards := Shards.empty
  retired := Tally.zero

/-- The connection of an id, if it is held. -/
def get? (r : Registry) (id : ConnectionId) : Option Connection :=
  r.shards.get? id

/-- Act on one connection. -/
def act {α : Type} (r : Registry) (id : ConnectionId) (action : Connection → α × Connection) :
    Except Fault α × Registry :=
  match r.get? id with
  | some c =>
    let (answer, changed) := action c
    (.ok answer, { r with shards := r.shards.modify id fun _ => changed })
  | none => (.error (.notFound id), r)

/-- Look at one connection. -/
def look {α : Type} (r : Registry) (id : ConnectionId) (view : Connection → α) : Except Fault α :=
  match r.get? id with
  | some c => .ok (view c)
  | none => .error (.notFound id)

/-- Make a connection under the next id. -/
def create (r : Registry) (localEnd remoteEnd : Endpoint) (initialSequence : UInt32)
    (now : Instant) : ConnectionId × Registry :=
  let id : ConnectionId := ⟨r.lastId + 1⟩
  let c := Connection.fresh r.profile id localEnd remoteEnd initialSequence now
  (id, { r with lastId := r.lastId + 1, shards := r.shards.insert id c })

/-- Apply one step of the lifecycle; the flag says whether the table allowed it. -/
def transition (r : Registry) (id : ConnectionId) (target : State) (now : Instant) :
    Except Fault Bool × Registry :=
  r.act id fun c => c.advance target now

/-- Open a connection actively. -/
def establish (r : Registry) (id : ConnectionId) (now : Instant) : Except Fault Bool × Registry :=
  r.act id fun c => c.drive State.handshake now

/-- Wait for a peer to open the connection. -/
def listen (r : Registry) (id : ConnectionId) (now : Instant) : Except Fault Bool × Registry :=
  r.transition id .listen now

/-- Accept that a peer opens the connection. -/
def accept (r : Registry) (id : ConnectionId) (now : Instant) : Except Fault Bool × Registry :=
  r.act id fun c => c.drive State.passiveOpen now

/-- Send a line; the flag says whether data could flow. -/
def send (r : Registry) (id : ConnectionId) (text : String) (now : Instant) :
    Except Fault Bool × Registry :=
  r.act id fun c =>
    match c.send (encodeLine text) now with
    | .ok sent => (true, sent)
    | .error _ => (false, c)

/-- Hand received bytes to a connection; the number is that of the messages dispatched. Bytes for a
connection that is not held go nowhere. -/
def deliver (r : Registry) (id : ConnectionId) (chunk : Bytes) (now : Instant) : Nat × Registry :=
  match r.act id fun c => c.receive r.profile chunk now with
  | (.ok dispatched, heard) => (dispatched, heard)
  | (.error _, same) => (0, same)

/-- Close an established connection from this side. -/
def close (r : Registry) (id : ConnectionId) (now : Instant) : Except Fault Bool × Registry :=
  r.act id fun c => c.closeAlong State.teardown now

/-- Close an established connection after the peer has closed it. -/
def peerClose (r : Registry) (id : ConnectionId) (now : Instant) : Except Fault Bool × Registry :=
  r.act id fun c => c.closeAlong State.passiveClose now

/-- Collect the frames that a connection has transmitted. -/
def drainOutbound (r : Registry) (id : ConnectionId) : Except Fault (List Bytes) × Registry :=
  r.act id Connection.drainOutbound

/-- Collect the messages that a connection has dispatched. -/
def drainInbound (r : Registry) (id : ConnectionId) : Except Fault (List Message) × Registry :=
  r.act id Connection.drainInbound

/-- The state of a connection. -/
def state (r : Registry) (id : ConnectionId) : Except Fault State :=
  r.look id Connection.state

/-- The control block of a connection. -/
def block (r : Registry) (id : ConnectionId) : Except Fault Block :=
  r.look id Connection.block

/-- Whether a connection is held. -/
def contains (r : Registry) (id : ConnectionId) : Bool :=
  (r.get? id).isSome

/-- Every connection that is held. -/
def connections (r : Registry) : List Connection :=
  r.shards.values

/-- The ids of the connections that are held, in ascending order. -/
def ids (r : Registry) : List ConnectionId :=
  r.shards.keys.mergeSort fun a b => a.raw ≤ b.raw

/-- The number of connections that are held. -/
def size (r : Registry) : Nat :=
  r.shards.size

/-- Force closed every connection that, seen from `instant`, has been idle for at least
`threshold`, and count them. Idleness is measured from `instant`; the stamp is the present. -/
def reclaimAt (r : Registry) (instant : Instant) (threshold : Nat) (now : Instant) :
    Nat × Registry :=
  let reclaimed := r.connections.countP fun c => c.isStale instant threshold
  let sweep (c : Connection) : Connection :=
    if c.isStale instant threshold then (c.reclaim? now).getD c else c
  (reclaimed, { r with shards := r.shards.mapValues sweep })

/-- Force closed every connection that has been idle for at least `threshold` until now. -/
def reclaim (r : Registry) (threshold : Nat) (now : Instant) : Nat × Registry :=
  r.reclaimAt now threshold now

/-- Remove every connection that has been open and is closed again, and count them. Their figures
go into the tally. -/
def purge (r : Registry) : Nat × Registry :=
  let finished := r.connections.filter fun c => c.block.isFinished
  (finished.length,
    { r with
      retired := finished.foldl (fun tally c => tally.absorb c.block) r.retired
      shards := r.shards.retain fun c => !c.block.isFinished })

/-- The figures of the registry. -/
def census (r : Registry) : Census :=
  Census.take r.retired r.connections

/-- How a profile describes itself. -/
def describeProfile (p : Profile) : String :=
  let policy := match p.policy with
    | .reply => "Reply"
    | .silent => "Silent"
  "ConnectionConfig \x7b window_size: " ++ toString p.windowSize
    ++ ", buffer_size: " ++ toString p.bufferSize
    ++ ", max_frame_length: " ++ toString p.frameLimit
    ++ ", unknown_message_policy: " ++ policy ++ " \x7d"

/-- How a registry describes itself. -/
def describe (r : Registry) : String :=
  "ConnectionManager \x7b shards: " ++ toString shardCount
    ++ ", connections: " ++ toString r.size
    ++ ", config: " ++ describeProfile r.profile
    ++ ", latency: " ++ r.latency.describe ++ " \x7d"

end Registry

end Switchboard
