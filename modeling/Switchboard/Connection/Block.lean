import Switchboard.Clock
import Switchboard.Connection.Endpoint
import Switchboard.Lifecycle.State
import Switchboard.Wire.Frame
import Switchboard.Wire.Reply

/-!
# Control blocks

The control block of a connection records who is connected, how far the connection has come, what
has flowed through it and when it last did anything. A block changes by single steps of the
lifecycle, by being driven along a list of states, by a forced close, and by notes of traffic.

Time is an argument: each operation is told the instant at which it happens.
-/

namespace Switchboard

/-- The number of a connection; it is never given out twice. -/
structure ConnectionId where
  raw : Nat
  deriving Repr, DecidableEq, Inhabited

/-- The text of an id. -/
def ConnectionId.text (id : ConnectionId) : String :=
  "conn_" ++ toString id.raw

/-- What new connections are made with. -/
structure Profile where
  windowSize : UInt32 := 65536
  bufferSize : Nat := 8192
  frameLimit : Nat := defaultFrameLimit
  policy : Policy := Policy.default
  deriving Repr, DecidableEq

/-- Why an operation on a connection is refused. -/
inductive Fault
  | notFound (id : ConnectionId)
  | invalidTransition (source target : State)
  | notEstablished (id : ConnectionId) (state : State)
  deriving Repr, DecidableEq

/-- The wording of the error. -/
def Fault.message : Fault → String
  | notFound id => "connection " ++ id.text ++ " not found"
  | invalidTransition source target =>
    "invalid transition " ++ source.name ++ " -> " ++ target.name
  | notEstablished id state =>
    "connection " ++ id.text ++ " is not established (state: " ++ state.name ++ ")"

/-- The control block of one connection. Counters only ever grow; the sequence number counts sent
bytes from `initialSequence` on, modulo 2^32. -/
structure Block where
  id : ConnectionId
  localEnd : Endpoint
  remoteEnd : Endpoint
  windowSize : UInt32
  bufferSize : Nat
  initialSequence : UInt32
  createdAt : Instant
  state : State
  lastActivity : Instant
  bytesSent : Nat
  bytesReceived : Nat
  packetsSent : Nat
  packetsReceived : Nat
  sequence : UInt32
  transitions : Nat
  timedOut : Bool
  gracefullyClosed : Bool
  deriving Repr, DecidableEq

namespace Block

/-- The smallest initial sequence number that is drawn for a new connection. -/
def leastInitialSequence : Nat := 1000

/-- The greatest initial sequence number that is drawn for a new connection. -/
def greatestInitialSequence : Nat := 999999

/-- The block of a connection that has just been made: closed, and without any history. -/
def fresh (profile : Profile) (id : ConnectionId) (localEnd remoteEnd : Endpoint)
    (initialSequence : UInt32) (now : Instant) : Block where
  id := id
  localEnd := localEnd
  remoteEnd := remoteEnd
  windowSize := profile.windowSize
  bufferSize := profile.bufferSize
  initialSequence := initialSequence
  createdAt := now
  state := State.initial
  lastActivity := now
  bytesSent := 0
  bytesReceived := 0
  packetsSent := 0
  packetsReceived := 0
  sequence := initialSequence
  transitions := 0
  timedOut := false
  gracefullyClosed := false

/-- How far the sequence number is from where it began, modulo 2^32. -/
def sequenceAdvance (b : Block) : UInt32 :=
  b.sequence - b.initialSequence

/-- Whether data may flow. -/
def carriesData (b : Block) : Bool :=
  b.state.carriesData

/-- How long nothing has happened; nothing, if the last activity lies ahead. -/
def idleFor (b : Block) (now : Instant) : Nat :=
  now - b.lastActivity

/-- Stamp the block with the present, which is never before its creation. -/
def touch (b : Block) (now : Instant) : Block :=
  { b with lastActivity := max now b.createdAt }

/-- Enter a state, whatever the table says. -/
def enter (b : Block) (target : State) (now : Instant) : Block :=
  { b with state := target, transitions := b.transitions + 1 }.touch now

/-- One step of the lifecycle, refused unless the table allows it. -/
def advance (b : Block) (target : State) (now : Instant) : Except Fault Block :=
  if b.state.leadsTo target then .ok (b.enter target now)
  else .error (.invalidTransition b.state target)

/-- Pass through a list of states, stopping before the first step that the table forbids. The
block stays where it got to; the flag says whether it got to the end. -/
def drive (b : Block) (now : Instant) : List State → Bool × Block
  | [] => (true, b)
  | target :: path =>
    match b.advance target now with
    | .ok next => next.drive now path
    | .error _ => (false, b)

/-- Close whatever the state, and remember that it was forced; nothing to do if already closed. -/
def forceClose? (b : Block) (now : Instant) : Option Block :=
  if b.state = .closed then none
  else some { b.enter .closed now with timedOut := true }

/-- Remember that the connection was taken down in order. -/
def markGracefullyClosed (b : Block) : Block :=
  { b with gracefullyClosed := true }

/-- Count one frame of this many bytes as sent. -/
def noteSent (b : Block) (size : Nat) (now : Instant) : Block :=
  { b with
    bytesSent := b.bytesSent + size
    packetsSent := b.packetsSent + 1
    sequence := b.sequence + UInt32.ofNat size }.touch now

/-- Count one delivery of this many bytes as received. -/
def noteReceived (b : Block) (size : Nat) (now : Instant) : Block :=
  { b with
    bytesReceived := b.bytesReceived + size
    packetsReceived := b.packetsReceived + 1 }.touch now

/-- Whether the connection has been open and is closed again. -/
def isFinished (b : Block) : Bool :=
  b.state = .closed && 0 < b.transitions

end Block

end Switchboard
