import Switchboard.Connection.Basic
import Switchboard.Proofs.Stream.Reassembly

/-!
# Transfers

What receiving and transmitting do to a connection, in closed form. A block that has *carried* some
deliveries and some frames has counted all of them and is otherwise as it was, its stamp aside;
carrying can be composed.

A connection dispatches its messages one by one, and transmits the answer to each before it looks
for the next. Transmitting does not reach the receiver, so this comes to the same as taking all
messages out first (`receive_eq`). A delivery then carries the chunk and the answers to the messages
that the receiver makes of it (`receive_of_carriesData`), and if the receiver follows a stream,
these are the messages that the stream has in addition (`receive_follows`).
-/

namespace Switchboard

namespace Block

/-- From one block to another, deliveries have been received and frames have been sent, and nothing
else has happened. -/
structure Carried (received sent : List Bytes) (b after : Block) : Prop where
  id_eq : after.id = b.id
  state_eq : after.state = b.state
  bytesReceived_eq : after.bytesReceived = b.bytesReceived + received.flatten.length
  packetsReceived_eq : after.packetsReceived = b.packetsReceived + received.length
  bytesSent_eq : after.bytesSent = b.bytesSent + sent.flatten.length
  packetsSent_eq : after.packetsSent = b.packetsSent + sent.length
  sequence_eq : after.sequence = b.sequence + UInt32.ofNat sent.flatten.length
  transitions_eq : after.transitions = b.transitions
  timedOut_eq : after.timedOut = b.timedOut
  gracefullyClosed_eq : after.gracefullyClosed = b.gracefullyClosed

namespace Carried

variable {received later sent answered : List Bytes} {b middle after : Block}

/-- Without traffic a block stays as it is. -/
theorem refl (b : Block) : Carried [] [] b b := by
  constructor <;> simp

/-- Traffic adds up. -/
theorem trans (first : Carried received sent b middle)
    (second : Carried later answered middle after) :
    Carried (received ++ later) (sent ++ answered) b after where
  id_eq := second.id_eq.trans first.id_eq
  state_eq := second.state_eq.trans first.state_eq
  bytesReceived_eq := by
    rw [second.bytesReceived_eq, first.bytesReceived_eq, List.flatten_append, List.length_append,
      Nat.add_assoc]
  packetsReceived_eq := by
    rw [second.packetsReceived_eq, first.packetsReceived_eq, List.length_append, Nat.add_assoc]
  bytesSent_eq := by
    rw [second.bytesSent_eq, first.bytesSent_eq, List.flatten_append, List.length_append,
      Nat.add_assoc]
  packetsSent_eq := by
    rw [second.packetsSent_eq, first.packetsSent_eq, List.length_append, Nat.add_assoc]
  sequence_eq := by
    rw [second.sequence_eq, first.sequence_eq, List.flatten_append, List.length_append,
      UInt32.ofNat_add, UInt32.add_assoc]
  transitions_eq := second.transitions_eq.trans first.transitions_eq
  timedOut_eq := second.timedOut_eq.trans first.timedOut_eq
  gracefullyClosed_eq := second.gracefullyClosed_eq.trans first.gracefullyClosed_eq

end Carried

/-- Noting a delivery carries it. -/
theorem carried_noteReceived (b : Block) (chunk : Bytes) (now : Instant) :
    Carried [chunk] [] b (b.noteReceived chunk.length now) := by
  constructor <;> simp [noteReceived, touch]

/-- Noting a frame carries it. -/
theorem carried_noteSent (b : Block) (frame : Bytes) (now : Instant) :
    Carried [] [frame] b (b.noteSent frame.length now) := by
  constructor <;> simp [noteSent, touch]

/-- Noting frames one after the other carries all of them. -/
theorem carried_foldl_noteSent (frames : List Bytes) (b : Block) (now : Instant) :
    Carried [] frames b (frames.foldl (fun b frame => b.noteSent frame.length now) b) := by
  induction frames generalizing b with
  | nil => exact Carried.refl b
  | cons frame rest ih => exact (carried_noteSent b frame now).trans (ih _)

end Block

namespace Connection

variable (profile : Profile) {c : Connection} (chunk : Bytes) (now : Instant)

/-- Transmitting frames puts them behind those in the outbox. -/
theorem outbox_transmit (c : Connection) (frames : List Bytes) (now : Instant) :
    (c.transmit frames now).outbox.toList = c.outbox.toList ++ frames := by
  simp [transmit]

/-- Transmitting frames carries them. -/
theorem carried_transmit (c : Connection) (frames : List Bytes) (now : Instant) :
    Block.Carried [] frames c.block (c.transmit frames now).block :=
  Block.carried_foldl_noteSent frames c.block now

/-- Transmitting frames one after the other is transmitting all of them. -/
theorem transmit_transmit (c : Connection) (first later : List Bytes) (now : Instant) :
    (c.transmit first now).transmit later now = c.transmit (first ++ later) now := by
  simp only [transmit, List.foldl_append, Queue.append_append]

/-- The connection after messages have been put into the inbox and answered. -/
def absorb (c : Connection) (messages : List Message) : Connection :=
  { c with inbox := c.inbox.append messages }.transmit (Message.answers profile.policy messages) now

/-- Answers follow the order of the messages. -/
theorem answers_append (policy : Policy) (first second : List Message) :
    Message.answers policy (first ++ second) =
      Message.answers policy first ++ Message.answers policy second :=
  List.filterMap_append

/-- Messages can be answered one part after the other, or after all of them are in the inbox. -/
theorem absorb_absorb (c : Connection) (first later : List Message) :
    (c.absorb profile now first).absorb profile now later =
      c.absorb profile now (first ++ later) := by
  rw [absorb, absorb, absorb, answers_append, ← transmit_transmit, ← Queue.append_append]
  rfl

/-- Where data may flow, no answer is refused. -/
theorem dispatch_of_carriesData (h : c.block.carriesData = true) (message : Message) :
    c.dispatch profile message now = c.absorb profile now [message] := by
  rw [dispatch, absorb, Message.answers]
  cases hreply : message.reply? profile.policy with
  | none =>
    simp [hreply, transmit, Queue.append]
  | some reply =>
    simp [hreply, send, h, transmit]

/-- Answering keeps the data flowing. -/
theorem carriesData_absorb (h : c.block.carriesData = true) (messages : List Message) :
    (c.absorb profile now messages).block.carriesData = true := by
  rw [absorb, Block.carriesData, (carried_transmit _ _ now).state_eq]
  exact h

/-- Dispatching the messages one by one, each answered before the next one is looked for, is taking
all of them out before the first one is answered. -/
theorem dispatchAll_of_carriesData (before : Nat) (taken : List Message)
    (h : c.block.carriesData = true) :
    ∃ messages rest,
      c.receiver.extractOnto profile.frameLimit taken = (taken.reverse ++ messages, rest) ∧
      c.dispatchAll profile now before =
        (before + messages.length, { c with receiver := rest }.absorb profile now messages) := by
  fun_induction dispatchAll profile c now before generalizing taken with
  | case1 c before message rest hnext ih =>
    rw [dispatch_of_carriesData profile now (c := { c with receiver := rest }) h] at ih ⊢
    obtain ⟨messages, last, hextract, hdispatch⟩ :=
      ih (message :: taken) (carriesData_absorb profile now h [message])
    refine ⟨message :: messages, last, ?_, ?_⟩
    · rw [Receiver.extractOnto_of_some taken hnext]
      refine hextract.trans ?_
      rw [List.reverse_cons, List.append_assoc, List.singleton_append]
    · rw [hdispatch, List.length_cons, Nat.add_assoc, Nat.add_comm 1]
      exact congrArg (Prod.mk _) (absorb_absorb profile now { c with receiver := last } [message] _)
  | case2 c before rest hnext =>
    refine ⟨[], rest, ?_, rfl⟩
    rw [Receiver.extractOnto_of_none taken hnext, List.append_nil]

/-- A delivery takes in a chunk and absorbs all messages that the receiver makes of it: what is
transmitted meanwhile does not feed back into the framing. -/
theorem receive_eq (h : c.block.carriesData = true) :
    c.receive profile chunk now = ((c.receiver.feed profile.frameLimit chunk).1.length,
      { c with
        block := c.block.noteReceived chunk.length now
        receiver := (c.receiver.feed profile.frameLimit chunk).2 }.absorb profile now
          (c.receiver.feed profile.frameLimit chunk).1) := by
  obtain ⟨messages, rest, hextract, hdispatch⟩ := dispatchAll_of_carriesData profile now
    (c := { c with
      block := c.block.noteReceived chunk.length now
      receiver := { c.receiver with backlog := c.receiver.backlog.append chunk } }) 0 [] h
  have hfeed : c.receiver.feed profile.frameLimit chunk = (messages, rest) := hextract
  rw [receive, if_pos h, hdispatch, hfeed, Nat.zero_add]

/-- Where no data may flow, a delivery is without effect. -/
theorem receive_of_not_carriesData (h : c.block.carriesData = false) :
    c.receive profile chunk now = (0, c) := by
  simp [receive, h]

/-- A delivery is read completely, every message is dispatched, and the answers are transmitted. -/
theorem receive_of_carriesData (h : c.block.carriesData = true) :
    ∃ block, c.receive profile chunk now =
        ((c.receiver.feed profile.frameLimit chunk).1.length,
          { block := block
            receiver := (c.receiver.feed profile.frameLimit chunk).2
            inbox := c.inbox.append (c.receiver.feed profile.frameLimit chunk).1
            outbox := c.outbox.append
              (Message.answers profile.policy (c.receiver.feed profile.frameLimit chunk).1) }) ∧
      Block.Carried [chunk]
        (Message.answers profile.policy (c.receiver.feed profile.frameLimit chunk).1)
        c.block block := by
  refine ⟨_, ?_, (Block.carried_noteReceived c.block chunk now).trans
    (Block.carried_foldl_noteSent _ _ now)⟩
  rw [receive_eq profile chunk now h]
  rfl

/-- A delivery to a connection whose receiver follows a stream dispatches the messages that the
longer stream has in addition, and transmits the answers to them. -/
theorem receive_follows {before : Nat} {stream : Bytes} (h : c.block.carriesData = true)
    (hstream : c.receiver.Follows profile.frameLimit before stream) :
    ∃ messages, (Lines.ofStream (stream ++ chunk)).messages profile.frameLimit =
        (Lines.ofStream stream).messages profile.frameLimit ++ messages ∧
      (c.receive profile chunk now).1 = messages.length ∧
      (c.receive profile chunk now).2.inbox.toList = c.inbox.toList ++ messages ∧
      (c.receive profile chunk now).2.outbox.toList =
        c.outbox.toList ++ Message.answers profile.policy messages ∧
      (c.receive profile chunk now).2.receiver.Follows profile.frameLimit before
        (stream ++ chunk) ∧
      Block.Carried [chunk] (Message.answers profile.policy messages) c.block
        (c.receive profile chunk now).2.block := by
  obtain ⟨hmessages, hfollows⟩ := Receiver.follows_feed hstream chunk
  obtain ⟨block, hreceive, hcarried⟩ := receive_of_carriesData profile chunk now h
  refine ⟨(c.receiver.feed profile.frameLimit chunk).1, hmessages, ?_⟩
  rw [hreceive]
  exact ⟨rfl, by simp, by simp, hfollows, hcarried⟩

end Connection

end Switchboard
