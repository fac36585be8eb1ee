import Switchboard.Proofs.Connection.Listening
import Switchboard.Proofs.Registry.Moments
import Switchboard.Session.Service

/-!
# Opening and closing a session's connection

A session makes a connection and opens it, which takes three steps and does nothing else
(`start_fresh`). What a closing in order makes of the connection, when nothing but deliveries and
frames has come in between, is all that can be said of it at the end (`isClosed_closedAlong`): its
counters are those of the traffic, and it keeps nothing.
-/

namespace Switchboard

/-- The frames that answer a stream. -/
def Profile.replies (profile : Profile) (stream : Bytes) : List Bytes :=
  Message.answers profile.policy ((Lines.ofStream stream).messages profile.frameLimit)

namespace Registry

/-- A sound registry made with a profile holds a connection under an id. -/
structure Holds (r : Registry) (profile : Profile) (id : ConnectionId) (c : Connection) : Prop where
  isSound : r.IsSound
  profile_eq : r.profile = profile
  get?_eq : r.get? id = some c

variable {r : Registry} {profile : Profile} {id : ConnectionId} {c : Connection}

/-- After an operation on the connection the registry holds what has become of it. -/
theorem Holds.perform (h : r.Holds profile id c) (op : Operation) (now : Instant)
    (hop : op.target? = some id) :
    (r.perform now op).2.Holds profile id (op.apply profile now c) where
  isSound := isSound_perform h.isSound now op
  profile_eq := (profile_perform h.isSound now op).trans h.profile_eq
  get?_eq := by
    rw [get?_target h.isSound now hop, h.get?_eq, Option.map_some, h.profile_eq]

end Registry

namespace Session

variable {profile : Profile} {id : ConnectionId}

/-- A connection that has just been opened by a session. -/
structure IsOpened (c : Connection) : Prop where
  state_eq : c.state = .established
  receiver_eq : c.receiver = Receiver.fresh
  inbox_eq : c.inbox = Queue.empty
  outbox_eq : c.outbox = Queue.empty
  bytesReceived_eq : c.block.bytesReceived = 0
  packetsReceived_eq : c.block.packetsReceived = 0
  bytesSent_eq : c.block.bytesSent = 0
  packetsSent_eq : c.block.packetsSent = 0
  transitions_eq : c.block.transitions = 3
  timedOut_eq : c.block.timedOut = false

/-- Opening a connection as it has been made takes three steps and does nothing else. -/
theorem isOpened_fresh (profile : Profile) (id : ConnectionId) (localEnd remoteEnd : Endpoint)
    (isn : UInt32) (making opening : Instant) :
    IsOpened ((Connection.fresh profile id localEnd remoteEnd isn making).enterAll opening
      State.handshake) := by
  constructor <;> rfl

section Opening

variable {r : Registry} (localEnd remoteEnd : Endpoint) (isn : UInt32) (now : Instant)

/-- A connection that has just been made is held. -/
theorem holds_create (h : r.IsSound) :
    (r.create localEnd remoteEnd isn now).2.Holds r.profile ⟨r.lastId + 1⟩
      (Connection.fresh r.profile ⟨r.lastId + 1⟩ localEnd remoteEnd isn now) where
  isSound := Registry.isSound_perform h now (.create localEnd remoteEnd isn)
  profile_eq := rfl
  get?_eq := (Registry.get?_perform h now (.create localEnd remoteEnd isn)).2
    (.inl List.mem_cons_self)

/-- Establishing opens a closed connection. -/
theorem establish_of_holds {c : Connection} (hheld : r.Holds profile id c)
    (hclosed : c.state = .closed) :
    (r.establish id now).1 = .ok true ∧
      (r.establish id now).2.Holds profile id (c.enterAll now State.handshake) := by
  have hdrive := Connection.drive_handshake now c
  rw [if_pos hclosed] at hdrive
  have hopened := hheld.perform (.establish id) now rfl
  rw [Operation.apply, hdrive] at hopened
  refine ⟨?_, hopened⟩
  simp only [Registry.establish, Registry.act, hheld.get?_eq, hdrive]

/-- Where the connection can be opened, a session makes it and opens it. -/
theorem start_eq (hanswer : ((r.create localEnd remoteEnd isn now).2.establish ⟨r.lastId + 1⟩
      now).1 = .ok true) :
    start localEnd remoteEnd isn now r = (.ok ⟨r.lastId + 1⟩,
      ((r.create localEnd remoteEnd isn now).2.establish ⟨r.lastId + 1⟩ now).2) := by
  have hid : (r.create localEnd remoteEnd isn now).1 = ⟨r.lastId + 1⟩ := rfl
  simp only [start, hid]
  generalize (r.create localEnd remoteEnd isn now).2.establish ⟨r.lastId + 1⟩ now = outcome
    at hanswer ⊢
  obtain ⟨answer, opened⟩ := outcome
  obtain rfl : answer = .ok true := hanswer
  rfl

/-- A session makes a connection and opens it. -/
theorem start_fresh (h : r.IsSound) :
    ∃ opened, start localEnd remoteEnd isn now r = (.ok ⟨r.lastId + 1⟩, opened) ∧
      opened.Holds r.profile ⟨r.lastId + 1⟩
        ((Connection.fresh r.profile ⟨r.lastId + 1⟩ localEnd remoteEnd isn now).enterAll now
          State.handshake) := by
  have hcreated := holds_create localEnd remoteEnd isn now h
  obtain ⟨hanswer, hopened⟩ := establish_of_holds now hcreated rfl
  exact ⟨_, start_eq localEnd remoteEnd isn now hanswer, hopened⟩

end Opening

/-- A connection that a session has closed in order, after these deliveries and frames. -/
structure IsClosed (received sent : List Bytes) (c : Connection) : Prop where
  state_eq : c.state = .closed
  gracefullyClosed_eq : c.block.gracefullyClosed = true
  timedOut_eq : c.block.timedOut = false
  transitions_eq : c.block.transitions = 7
  bytesReceived_eq : c.block.bytesReceived = received.flatten.length
  packetsReceived_eq : c.block.packetsReceived = received.length
  bytesSent_eq : c.block.bytesSent = sent.flatten.length
  packetsSent_eq : c.block.packetsSent = sent.length
  inbox_eq : c.inbox.toList = []
  outbox_eq : c.outbox.toList = []
  buffer_eq : c.receiver.buffer = []
  discarding_eq : c.receiver.discarding = false

/-- Closing in order ends what opening began. -/
theorem isClosed_closedAlong {received sent : List Bytes} {first c : Connection}
    (hopened : IsOpened first) (hcarried : first.block.Carried received sent c.block)
    (houtbox : c.outbox.toList = []) (now : Instant) :
    IsClosed received sent (c.closedAlong now State.teardown) := by
  have hbytesReceived := hcarried.bytesReceived_eq
  have hpacketsReceived := hcarried.packetsReceived_eq
  have hbytesSent := hcarried.bytesSent_eq
  have hpacketsSent := hcarried.packetsSent_eq
  rw [hopened.bytesReceived_eq, Nat.zero_add] at hbytesReceived
  rw [hopened.packetsReceived_eq, Nat.zero_add] at hpacketsReceived
  rw [hopened.bytesSent_eq, Nat.zero_add] at hbytesSent
  rw [hopened.packetsSent_eq, Nat.zero_add] at hpacketsSent
  have hblock := Connection.block_closedAlong now c State.teardown
  constructor
  · rw [Connection.state, hblock]
    rfl
  · rw [hblock]
  · rw [hblock, hcarried.timedOut_eq, hopened.timedOut_eq]
  · rw [hblock, hcarried.transitions_eq, hopened.transitions_eq]
    rfl
  · rw [hblock, hbytesReceived]
  · rw [hblock, hpacketsReceived]
  · rw [hblock, hbytesSent]
  · rw [hblock, hpacketsSent]
  · rfl
  · rw [Connection.outbox_closedAlong, houtbox]
  · rfl
  · rfl

end Session

end Switchboard
