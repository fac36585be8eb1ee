import Switchboard.Connection.Block
import Switchboard.Connection.Queue
import Switchboard.Connection.Receiver

/-!
# Connections

A connection is a control block, a receiver, and two queues: the messages that have been
dispatched and not yet collected, and the frames that have been transmitted and not yet collected.

Data flows only while the block says so. A delivery is read completely: every message that it
completes is put into the inbox, and its answer, if there is one, is transmitted. Closing in order
frees the receiving side and keeps the outbox; a forced close frees everything.

Operations that can be refused leave a refused connection exactly as it was.
-/

namespace Switchboard

/-- A connection with everything that belongs to it. -/
structure Connection where
  block : Block
  receiver : Receiver
  /-- Messages dispatched. -/
  inbox : Queue Message
  /-- Frames transmitted. -/
  outbox : Queue Bytes
  deriving Repr, DecidableEq

/-- The frames that answer these messages under a policy, in order. -/
def Message.answers (policy : Policy) (messages : List Message) : List Bytes :=
  messages.filterMap fun m => (m.reply? policy).map Reply.encode

namespace Connection

/-- A connection that has just been made. -/
def fresh (profile : Profile) (id : ConnectionId) (localEnd remoteEnd : Endpoint)
    (initialSequence : UInt32) (now : Instant) : Connection where
  block := Block.fresh profile id localEnd remoteEnd initialSequence now
  receiver := Receiver.fresh
  inbox := Queue.empty
  outbox := Queue.empty

/-- The state of the connection. -/
def state (c : Connection) : State :=
  c.block.state

/-- Count frames as sent and put them into the outbox. -/
def transmit (c : Connection) (frames : List Bytes) (now : Instant) : Connection :=
  { c with
    block := frames.foldl (fun b frame => b.noteSent frame.length now) c.block
    outbox := c.outbox.append frames }

/-- Transmit one frame, refused with the reason unless data may flow. -/
def send (c : Connection) (frame : Bytes) (now : Instant) : Except Fault Connection :=
  if c.block.carriesData then .ok (c.transmit [frame] now)
  else .error (.notEstablished c.block.id c.block.state)

/-- Answer a message under the policy, if it has an answer and data may flow, and put it into the
inbox. -/
def dispatch (profile : Profile) (c : Connection) (message : Message) (now : Instant) :
    Connection :=
  let answered := match message.reply? profile.policy with
    | some reply =>
      match c.send reply.encode now with
      | .ok sent => sent
      | .error _ => c
    | none => c
  { answered with inbox := answered.inbox.append [message] }

/-- Dispatching a message does not feed back into the receiver. -/
@[simp]
theorem receiver_dispatch (profile : Profile) (c : Connection) (message : Message) (now : Instant) :
    (c.dispatch profile message now).receiver = c.receiver := by
  rw [dispatch]
  split
  · rw [send]
    cases c.block.carriesData <;> rfl
  · rfl

/-- Take the messages that the receiver holds out one by one, and dispatch each of them before
looking for the next. The number is that of the messages dispatched, after so many `before`. -/
def dispatchAll (profile : Profile) (c : Connection) (now : Instant) (before : Nat) :
    Nat × Connection :=
  match _found : c.receiver.next profile.frameLimit with
  | (some message, rest) =>
    ({ c with receiver := rest }.dispatch profile message now).dispatchAll profile now (before + 1)
  | (none, rest) => (before, { c with receiver := rest })
termination_by c.receiver.buffer.length
decreasing_by
  rw [receiver_dispatch]
  exact Receiver.next_some_length _found

/-- Take in a chunk of bytes and dispatch every message that it completes. Without effect unless
data may flow. The number is that of the messages dispatched. -/
def receive (profile : Profile) (c : Connection) (chunk : Bytes) (now : Instant) :
    Nat × Connection :=
  if c.block.carriesData then
    let heard : Connection :=
      { c with
        block := c.block.noteReceived chunk.length now
        receiver := { c.receiver with backlog := c.receiver.backlog.append chunk } }
    heard.dispatchAll profile now 0
  else (0, c)

/-- Collect the frames transmitted so far. -/
def drainOutbound (c : Connection) : List Bytes × Connection :=
  (c.outbox.toList, { c with outbox := Queue.empty })

/-- Collect the messages dispatched so far. -/
def drainInbound (c : Connection) : List Message × Connection :=
  (c.inbox.toList, { c with inbox := Queue.empty })

/-- Free the receiving side. Frames that were transmitted before can still be collected. -/
def release (c : Connection) : Connection :=
  { c with receiver := c.receiver.release, inbox := Queue.empty }

/-- Free both sides. -/
def abort (c : Connection) : Connection :=
  { c.release with outbox := Queue.empty }

/-- One step of the lifecycle. -/
def advance (c : Connection) (target : State) (now : Instant) : Bool × Connection :=
  match c.block.advance target now with
  | .ok block => (true, { c with block := block })
  | .error _ => (false, c)

/-- Pass through a list of states. -/
def drive (c : Connection) (path : List State) (now : Instant) : Bool × Connection :=
  let (arrived, block) := c.block.drive now path
  (arrived, { c with block := block })

/-- Close an established connection along a list of states. -/
def closeAlong (c : Connection) (path : List State) (now : Instant) : Bool × Connection :=
  if c.state = .established then
    match c.drive path now with
    | (true, closed) => (true, { closed with block := closed.block.markGracefullyClosed }.release)
    | (false, stranded) => (false, stranded)
  else (false, c)

/-- Whether nothing has happened on an open connection for at least `threshold`. -/
def isStale (c : Connection) (instant : Instant) (threshold : Nat) : Bool :=
  c.state ≠ .closed && threshold ≤ c.block.idleFor instant

/-- Force the connection closed; `none` if it is closed already. -/
def reclaim? (c : Connection) (now : Instant) : Option Connection :=
  (c.block.forceClose? now).map fun block => { c with block := block }.abort

end Connection

end Switchboard
