import Switchboard.Registry.Basic

/-!
# Operations

The public operations of a registry as data, so that what happens to a registry can be written
down as a history: a list of operations, each with the instant at which it happens. `perform` runs
one operation and `run` a whole history.
-/

namespace Switchboard

/-- An operation on a registry. -/
inductive Operation
  | create (localEnd remoteEnd : Endpoint) (initialSequence : UInt32)
  | establish (id : ConnectionId)
  | listen (id : ConnectionId)
  | accept (id : ConnectionId)
  | transition (id : ConnectionId) (target : State)
  | send (id : ConnectionId) (text : String)
  | deliver (id : ConnectionId) (chunk : Bytes)
  | close (id : ConnectionId)
  | peerClose (id : ConnectionId)
  | reclaim (instant : Instant) (threshold : Nat)
  | purge
  | drainOutbound (id : ConnectionId)
  | drainInbound (id : ConnectionId)
  | state (id : ConnectionId)
  | block (id : ConnectionId)
  | contains (id : ConnectionId)
  | ids
  | size
  | census
  deriving Repr, DecidableEq

/-- What an operation answers. -/
inductive Answer
  | created (id : ConnectionId)
  | decided (outcome : Except Fault Bool)
  | counted (count : Nat)
  | frames (outcome : Except Fault (List Bytes))
  | messages (outcome : Except Fault (List Message))
  | state (outcome : Except Fault State)
  | block (outcome : Except Fault Block)
  | held (isHeld : Bool)
  | ids (ids : List ConnectionId)
  | census (figures : Census)

/-- The connection that an operation names. -/
def Operation.target? : Operation → Option ConnectionId
  | establish id | listen id | accept id | transition id _ | send id _ | deliver id _ | close id
  | peerClose id | drainOutbound id | drainInbound id | state id | block id | contains id => some id
  | create .. | reclaim .. | purge | ids | size | census => none

namespace Registry

/-- Run one operation at an instant. -/
def perform (r : Registry) (now : Instant) : Operation → Answer × Registry
  | .create localEnd remoteEnd isn =>
    let (id, next) := r.create localEnd remoteEnd isn now
    (.created id, next)
  | .establish id =>
    let (outcome, next) := r.establish id now
    (.decided outcome, next)
  | .listen id =>
    let (outcome, next) := r.listen id now
    (.decided outcome, next)
  | .accept id =>
    let (outcome, next) := r.accept id now
    (.decided outcome, next)
  | .transition id target =>
    let (outcome, next) := r.transition id target now
    (.decided outcome, next)
  | .send id text =>
    let (outcome, next) := r.send id text now
    (.decided outcome, next)
  | .deliver id chunk =>
    let (dispatched, next) := r.deliver id chunk now
    (.counted dispatched, next)
  | .close id =>
    let (outcome, next) := r.close id now
    (.decided outcome, next)
  | .peerClose id =>
    let (outcome, next) := r.peerClose id now
    (.decided outcome, next)
  | .reclaim instant threshold =>
    let (count, next) := r.reclaimAt instant threshold now
    (.counted count, next)
  | .purge =>
    let (count, next) := r.purge
    (.counted count, next)
  | .drainOutbound id =>
    let (outcome, next) := r.drainOutbound id
    (.frames outcome, next)
  | .drainInbound id =>
    let (outcome, next) := r.drainInbound id
    (.messages outcome, next)
  | .state id => (.state (r.state id), r)
  | .block id => (.block (r.block id), r)
  | .contains id => (.held (r.contains id), r)
  | .ids => (.ids r.ids, r)
  | .size => (.counted r.size, r)
  | .census => (.census r.census, r)

/-- Run a history, earliest operation first, and list the answers. -/
def run (r : Registry) : List (Instant × Operation) → List Answer × Registry
  | [] => ([], r)
  | (now, operation) :: later =>
    let (answer, next) := r.perform now operation
    let (answers, last) := next.run later
    (answer :: answers, last)

end Registry

end Switchboard
