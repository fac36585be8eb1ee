import Switchboard.Session.Script

/-!
# Sessions

A session serves one client. It opens a connection of its own and then, again and again, looks
whether the connection is still open, reads from the client, delivers what it has read, and writes
back everything that the connection has transmitted. A silent client is left after a while, so
that a connection which was closed by somebody else is noticed.

What is read comes into the session's read buffer, behind what may still be there. It is delivered
as a copy of the whole buffer, which is then cleared.

However the session ends, it finally closes its connection; if the connection is not established
any more, that changes nothing. The account of a session lists what it read and wrote, in order.
-/

namespace Switchboard

/-- How long a session waits for a silent client before it looks after its connection, in
milliseconds. -/
def pollInterval : Nat := 250

/-- Why a session ends. -/
inductive SessionFault
  | io (fault : IoFault)
  | connection (fault : Fault)
  | clientDisconnected
  | handshakeRefused (id : ConnectionId)
  | reclaimed (id : ConnectionId) (state : State)
  deriving Repr, DecidableEq

/-- The wording of the error. -/
def SessionFault.message : SessionFault → String
  | io fault => "I/O error: " ++ fault.message
  | connection fault => "connection error: " ++ fault.message
  | clientDisconnected => "Client disconnected"
  | handshakeRefused id => "handshake refused for " ++ id.text
  | reclaimed id state =>
    "connection " ++ id.text ++ " closed by manager (state: " ++ state.name ++ ")"

/-- The bytes that a session has read and not handed on yet. -/
structure ReadBuffer where
  bytes : Bytes
  deriving Repr, DecidableEq

namespace ReadBuffer

/-- A buffer without bytes. -/
def empty : ReadBuffer := ⟨[]⟩

/-- Put bytes behind those that are there. -/
def append (b : ReadBuffer) (chunk : Bytes) : ReadBuffer :=
  { b with bytes := b.bytes ++ chunk }

/-- Let go of all bytes. -/
def clear (b : ReadBuffer) : ReadBuffer :=
  { b with bytes := [] }

end ReadBuffer

/-- A session: its connection, and what it has read. -/
structure Session where
  id : ConnectionId
  buffer : ReadBuffer
  deriving Repr, DecidableEq

/-- One line of the account of a session. -/
inductive Note
  | read (size : Nat)
  | wrote (bytes : Bytes)
  | waited
  | readFailed (fault : IoFault)
  | deed (outcome : DeedOutcome)
  | endOfStream

/-- The registry, the sink, and the account so far (last note first). -/
structure Exchange where
  registry : Registry
  sink : Sink
  account : List Note

namespace Exchange

/-- Add a note to the account. -/
def note (x : Exchange) (n : Note) : Exchange :=
  { x with account := n :: x.account }

/-- Write bytes to the client and note those that the sink took, if any. -/
def write (x : Exchange) (bytes : Bytes) : Option IoFault × Exchange :=
  let (taken, fault, sink) := x.sink.write bytes
  let written := { x with sink := sink }
  (fault, if taken.isEmpty then written else written.note (.wrote taken))

end Exchange

namespace Session

/-- Make a connection for a client and open it. -/
def start (localEnd remoteEnd : Endpoint) (initialSequence : UInt32) (now : Instant)
    (r : Registry) : Except SessionFault ConnectionId × Registry :=
  let (id, r) := r.create localEnd remoteEnd initialSequence now
  match r.establish id now with
  | (.ok true, opened) => (.ok id, opened)
  | (.ok false, refused) => (.error (.handshakeRefused id), refused)
  | (.error fault, same) => (.error (.connection fault), same)

/-- What prevents the session from going on, if anything does. -/
def obstacle? (id : ConnectionId) (r : Registry) : Option SessionFault :=
  match r.state id with
  | .ok s => if s.carriesData then none else some (.reclaimed id s)
  | .error fault => some (.connection fault)

/-- Write to the client every frame that the connection has transmitted. -/
def flush (id : ConnectionId) (x : Exchange) : Option SessionFault × Exchange :=
  match x.registry.drainOutbound id with
  | (.error fault, _) => (some (.connection fault), x)
  | (.ok frames, drained) =>
    let (fault, x) := { x with registry := drained }.write frames.flatten
    (fault.map .io, x)

/-- Deliver what was read, collect the messages, and write back what was transmitted. -/
def respond (id : ConnectionId) (data : Bytes) (now : Instant) (x : Exchange) :
    Option SessionFault × Exchange :=
  let (_, heard) := x.registry.deliver id data now
  match heard.drainInbound id with
  | (.error fault, same) => (some (.connection fault), { x with registry := same })
  | (.ok _, collected) => flush id { x with registry := collected }

/-- Serve a client through the rest of a script, in which every event has its instant. The flag says
whether the session is about to look after its connection; while it waits in a read it does not. -/
def serve : (s : Session) → (looks : Bool) → List (Instant × Event) → Exchange →
    SessionFault × Exchange
  | s, looks, script, x =>
    match if looks then obstacle? s.id x.registry else none with
    | some fault => (fault, x)
    | none =>
      match script with
      | [] => (.clientDisconnected, x.note .endOfStream)
      | (_, .failure fault) :: _ => (.io fault, x.note (.readFailed fault))
      | (_, .silence) :: later => serve s true later (x.note .waited)
      | (now, .deed deed) :: later =>
        let (outcome, registry) := deed.perform s.id now x.registry
        serve s false later ({ x with registry := registry }.note (.deed outcome))
      | (now, .other op) :: later =>
        serve s false later { x with registry := (x.registry.perform now op).2 }
      | (now, .read chunk) :: later =>
        let x := x.note (.read chunk.length)
        let filled := s.buffer.append chunk
        if chunk.isEmpty then (.clientDisconnected, x)
        else
          match respond s.id filled.bytes now x with
          | (some fault, x) => (fault, x)
          | (none, x) => serve { s with buffer := filled.clear } true later x

/-- A session with this connection that has nothing in its read buffer. -/
def ofId (id : ConnectionId) : Session :=
  ⟨id, ReadBuffer.empty⟩

/-- Serve a client through a whole script, beginning with nothing read, and at the `closing` instant
close the connection, if it is still established. -/
def run (id : ConnectionId) (script : List (Instant × Event)) (closing : Instant) (x : Exchange) :
    SessionFault × Exchange :=
  let (fault, x) := serve (ofId id) true script x
  (fault, { x with registry := (x.registry.close id closing).2 })

end Session

end Switchboard
