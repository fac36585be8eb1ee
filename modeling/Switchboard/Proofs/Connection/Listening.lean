import Mathlib.Algebra.GroupWithZero.Nat
import Switchboard.Proofs.Connection.Transfer

/-!
# Listening to a stream

An open connection hears a stream in chunks that are cut anywhere, and in between somebody collects
what has been dispatched and transmitted so far. Main statement: what is dispatched, transmitted,
dropped, kept and counted are functions of the lines of the whole stream (`listen_heard`). Neither
the cuts nor the times of collecting have any influence; empty chunks only count as deliveries.
-/

namespace Switchboard

/-- What happens to a connection that is listened to. -/
inductive Turn
  | hear (chunk : Bytes) (now : Instant)
  | collectMessages
  | collectFrames
  deriving Repr, DecidableEq

/-- The chunk that is heard in a turn, if there is one. -/
def Turn.chunk? : Turn → Option Bytes
  | hear chunk _ => some chunk
  | collectMessages => none
  | collectFrames => none

/-- The chunks that are heard, in order. -/
def Turn.chunks (turns : List Turn) : List Bytes :=
  turns.filterMap Turn.chunk?

/-- What somebody who listens gets to see: the number of messages of each delivery, and everything
that is collected. -/
structure Transcript where
  counts : List Nat
  messages : List Message
  frames : List Bytes
  deriving Repr, DecidableEq

namespace Connection

/-- Take the turns one after the other. -/
def listen (profile : Profile) : List Turn → Connection → Transcript × Connection
  | [], c => (⟨[], [], []⟩, c)
  | .hear chunk now :: later, c =>
    let (count, heard) := c.receive profile chunk now
    let (seen, last) := listen profile later heard
    ({ seen with counts := count :: seen.counts }, last)
  | .collectMessages :: later, c =>
    let (messages, drained) := c.drainInbound
    let (seen, last) := listen profile later drained
    ({ seen with messages := messages ++ seen.messages }, last)
  | .collectFrames :: later, c =>
    let (frames, drained) := c.drainOutbound
    let (seen, last) := listen profile later drained
    ({ seen with frames := frames ++ seen.frames }, last)

/-- A connection that has a block and has received and transmitted nothing. -/
def untouched (block : Block) : Connection where
  block := block
  receiver := Receiver.fresh
  inbox := Queue.empty
  outbox := Queue.empty

/-- What is seen and left after the turns, if these messages have been dispatched in them. -/
structure Dispatched (profile : Profile) (before : Nat) (stream : Bytes) (turns : List Turn)
    (messages : List Message) (c : Connection) (seen : Transcript) (last : Connection) :
    Prop where
  counts_sum : seen.counts.sum = messages.length
  inbox_eq : seen.messages ++ last.inbox.toList = c.inbox.toList ++ messages
  outbox_eq : seen.frames ++ last.outbox.toList =
    c.outbox.toList ++ Message.answers profile.policy messages
  follows : last.receiver.Follows profile.frameLimit before (stream ++ (Turn.chunks turns).flatten)
  carried : Block.Carried (Turn.chunks turns) (Message.answers profile.policy messages)
    c.block last.block

/-- Whatever the turns are, the messages that the stream has in addition are dispatched. -/
theorem listen_dispatched (profile : Profile) (turns : List Turn) {before : Nat} {stream : Bytes}
    {c : Connection} (hopen : c.block.carriesData = true)
    (hstream : c.receiver.Follows profile.frameLimit before stream) :
    ∃ messages, (Lines.ofStream (stream ++ (Turn.chunks turns).flatten)).messages
          profile.frameLimit =
        (Lines.ofStream stream).messages profile.frameLimit ++ messages ∧
      Dispatched profile before stream turns messages c (c.listen profile turns).1
        (c.listen profile turns).2 := by
  induction turns generalizing c stream with
  | nil =>
    refine ⟨[], by simp [Turn.chunks], ?_⟩
    constructor
    · rfl
    · simp [listen]
    · simp [listen, Message.answers]
    · simpa [listen, Turn.chunks] using hstream
    · exact Block.Carried.refl c.block
  | cons turn later ih =>
    cases turn with
    | hear chunk now =>
      obtain ⟨first, hfirst, hcount, hinbox, houtbox, hfollows, hcarried⟩ :=
        receive_follows profile chunk now hopen hstream
      have hstill : (c.receive profile chunk now).2.block.carriesData = true := by
        rw [Block.carriesData, hcarried.state_eq]
        exact hopen
      obtain ⟨second, hsecond, hrest⟩ := ih hstill hfollows
      have hchunks : Turn.chunks (.hear chunk now :: later) = chunk :: Turn.chunks later := rfl
      refine ⟨first ++ second, ?_, ?_⟩
      · rw [hchunks, List.flatten_cons, ← List.append_assoc, hsecond, hfirst, List.append_assoc]
      · constructor
        · simp [listen, hcount, hrest.counts_sum]
        · simp [listen, hrest.inbox_eq, hinbox]
        · simp [listen, hrest.outbox_eq, houtbox, answers_append]
        · rw [hchunks, List.flatten_cons, ← List.append_assoc]
          exact hrest.follows
        · rw [answers_append]
          exact hcarried.trans hrest.carried
    | collectMessages =>
      obtain ⟨messages, hmessages, hrest⟩ :=
        ih (c := c.drainInbound.2) hopen hstream
      refine ⟨messages, hmessages, ?_⟩
      constructor
      · exact hrest.counts_sum
      · simpa [listen, drainInbound] using hrest.inbox_eq
      · exact hrest.outbox_eq
      · exact hrest.follows
      · exact hrest.carried
    | collectFrames =>
      obtain ⟨messages, hmessages, hrest⟩ :=
        ih (c := c.drainOutbound.2) hopen hstream
      refine ⟨messages, hmessages, ?_⟩
      constructor
      · exact hrest.counts_sum
      · exact hrest.inbox_eq
      · simpa [listen, drainOutbound] using hrest.outbox_eq
      · exact hrest.follows
      · exact hrest.carried

/-- What comes of a stream is a function of its lines, and no byte of it is counted twice. -/
theorem listen_heard (profile : Profile) (block : Block) (turns : List Turn)
    (hopen : block.state = .established) :
    let stream := (Turn.chunks turns).flatten
    let lines := Lines.ofStream stream
    let limit := profile.frameLimit
    let messages := (lines.ended.filter fun line => line.length ≤ limit).map Message.ofFrame
    let seen := ((untouched block).listen profile turns).1
    let last := ((untouched block).listen profile turns).2
    (lines.stream = stream ∧ lines.IsCut) ∧
      seen.messages ++ last.inbox.toList = messages ∧
      seen.frames ++ last.outbox.toList = Message.answers profile.policy messages ∧
      last.receiver.dropped = (lines.ended.countP fun line => limit < line.length) +
        (if limit < lines.tail.length then 1 else 0) ∧
      last.receiver.buffered = (if limit < lines.tail.length then 0 else lines.tail.length) ∧
      last.receiver.buffer = (if limit < lines.tail.length then [] else lines.tail) ∧
      last.receiver.discarding = decide (limit < lines.tail.length) ∧
      seen.counts.sum = messages.length ∧
      Block.Carried (Turn.chunks turns) (Message.answers profile.policy messages)
        block last.block := by
  have hcarries : (untouched block).block.carriesData = true := by
    simp [untouched, Block.carriesData, State.carriesData, hopen]
  obtain ⟨messages, hmessages, hall⟩ := listen_dispatched profile turns hcarries
    (Receiver.isClean_fresh.follows profile.frameLimit)
  rw [List.nil_append] at hmessages
  have hsame : (Lines.ofStream (Turn.chunks turns).flatten).messages profile.frameLimit =
      messages := hmessages
  have hfollows := hall.follows
  rw [List.nil_append] at hfollows
  refine ⟨Lines.ofStream_eq_iff.1 rfl, ?_⟩
  change _ = Lines.messages _ _ ∧ _ = Message.answers _ (Lines.messages _ _) ∧ _ ∧ _ ∧ _ ∧ _ ∧
    _ = (Lines.messages _ _).length ∧ Block.Carried _ (Message.answers _ (Lines.messages _ _)) _ _
  rw [hsame]
  refine ⟨hall.inbox_eq, hall.outbox_eq, ?_, ?_, hfollows.buffer_eq, hfollows.discarding_eq,
    hall.counts_sum, hall.carried⟩
  · rw [hfollows.dropped_eq]
    exact Nat.zero_add _
  · rw [Receiver.buffered_eq, hfollows.buffer_eq, Lines.waiting]
    split <;> rfl

/-- Two lines come out of a stream that is cut inside a verb and inside an oversize line, and
collected from before it is complete. -/
theorem listen_heard_cut_inside_lines :
    let profile : Profile := { frameLimit := 8 }
    let block : Block :=
      { Block.fresh profile ⟨1⟩ ⟨"127.0.0.1", 8000⟩ ⟨"10.0.0.1", 80⟩ 1000 0 with
        state := .established }
    let turns : List Turn :=
      [.hear (Utf8.encode "ECHO a\nPI") 1, .collectFrames, .hear [] 2,
        .hear (Utf8.encode "NG b\nDATA 0123") 3, .collectMessages,
        .hear (Utf8.encode "4567") 4, .hear (Utf8.encode "89\nxx") 5]
    let seen := ((untouched block).listen profile turns).1
    let last := ((untouched block).listen profile turns).2
    block.state = .established ∧
      seen.messages ++ last.inbox.toList = [.echo "a", .ping "b"] ∧
      seen.frames ++ last.outbox.toList =
        [Utf8.encode "ECHO_REPLY a\n", Utf8.encode "PONG b\n"] ∧
      last.receiver.dropped = 1 ∧ last.receiver.buffered = 2 := by
  intro profile block turns seen last
  obtain ⟨-, hmessages, hframes, hdropped, hbuffered, -⟩ := listen_heard profile block turns rfl
  refine ⟨rfl, hmessages.trans ?_, hframes.trans ?_, hdropped.trans ?_, hbuffered.trans ?_⟩ <;>
    decide +kernel

end Connection

end Switchboard
