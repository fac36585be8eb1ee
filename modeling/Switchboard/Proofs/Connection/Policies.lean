import Mathlib.Data.List.Basic
import Switchboard.Proofs.Connection.Listening
import Switchboard.Proofs.Text.RoundTrip

/-!
# What the policy decides

The policy for unknown lines is asked only when an answer is made. Being silent leaves out the answers
that begin with `UNKNOWN`, and no answer of another kind begins so (`answers_silent`). What comes in is
read without the policy: how many messages each chunk completes, and what is left of it, is a function
of the chunks and the limit (`listen_feedEach`).

Main statement: two connections that differ only in the policy and hear the same chunks tell each other
apart by the `UNKNOWN` answers and what is counted for them, and by nothing else
(`policy_decides_unknown`).
-/

namespace Switchboard

/-- The frame begins with the bytes of `UNKNOWN` and a space. -/
def Frame.saysUnknown (frame : Bytes) : Bool :=
  (Utf8.encode "UNKNOWN ").isPrefixOf frame

/-- Only the answer to an unknown line begins so; the others begin with another byte. -/
theorem Reply.saysUnknown_encode (r : Reply) :
    Frame.saysUnknown r.encode = true ↔ ∃ line, r = .unknown line := by
  have hbytes : Utf8.encode "UNKNOWN " = 0x55 :: (Utf8.encode "UNKNOWN ").tail := by decide
  have hpong : Utf8.encode "PONG " = 0x50 :: (Utf8.encode "PONG ").tail := by decide
  have hecho : Utf8.encode "ECHO_REPLY " = 0x45 :: (Utf8.encode "ECHO_REPLY ").tail := by decide
  have hack : Utf8.encode "ACK " = 0x41 :: (Utf8.encode "ACK ").tail := by decide
  rw [Frame.saysUnknown, encode, encodeLine]
  cases r with
  | pong argument =>
    rw [text, Utf8.encode_append, hbytes, hpong]
    simp
  | echoReply argument =>
    rw [text, Utf8.encode_append, hbytes, hecho]
    simp
  | ack size =>
    rw [text, Utf8.encode_append, hbytes, hack]
    simp
  | unknown line =>
    rw [text, Utf8.encode_append, List.append_assoc, List.isPrefixOf_iff_prefix]
    simp

namespace Message

/-- Being silent leaves out the answer that begins with `UNKNOWN`. -/
theorem answer_silent (m : Message) :
    (m.reply? .silent).map Reply.encode =
      ((m.reply? .reply).map Reply.encode).filter fun frame => !Frame.saysUnknown frame := by
  have hother : ∀ r : Reply, (∀ line, r ≠ .unknown line) → Frame.saysUnknown r.encode = false := by
    intro r hr
    rw [Bool.eq_false_iff]
    intro hsays
    obtain ⟨line, hline⟩ := r.saysUnknown_encode.1 hsays
    exact hr line hline
  cases m with
  | ping argument => simp [reply?, Option.filter, hother (.pong argument)]
  | echo argument => simp [reply?, Option.filter, hother (.echoReply argument)]
  | data body size => simp [reply?, Option.filter, hother (.ack size)]
  | other line =>
    have hunknown : Frame.saysUnknown (Reply.unknown line).encode = true :=
      (Reply.saysUnknown_encode _).2 ⟨line, rfl⟩
    by_cases hreply : (other line).isReply = true
    · simp [reply?, hreply]
    · simp [reply?, hreply, Option.filter, hunknown]

/-- What is answered in silence are the other answers, in the same order. -/
theorem answers_silent (messages : List Message) :
    answers .silent messages =
      (answers .reply messages).filter fun frame => !Frame.saysUnknown frame := by
  rw [answers, answers, List.filter_filterMap]
  exact List.filterMap_congr fun m _ => m.answer_silent

end Message

/-- If of two blocks one has carried some frames and the other one all but some of them, the former has
carried these in addition. -/
theorem Block.Carried.of_filter {received frames : List Bytes} {b full part : Block}
    (p : Bytes → Bool) (hfull : Carried received frames b full)
    (hpart : Carried received (frames.filter fun frame => !p frame) b part) :
    Carried [] (frames.filter p) part full := by
  have hperm := List.filter_append_perm p frames
  have hlength : frames.flatten.length =
      (frames.filter fun frame => !p frame).flatten.length + (frames.filter p).flatten.length := by
    rw [← hperm.flatten.length_eq, List.flatten_append, List.length_append, Nat.add_comm]
  have hcount : frames.length =
      (frames.filter fun frame => !p frame).length + (frames.filter p).length := by
    rw [← hperm.length_eq, List.length_append, Nat.add_comm]
  constructor
  · rw [hfull.id_eq, hpart.id_eq]
  · rw [hfull.state_eq, hpart.state_eq]
  · rw [hfull.bytesReceived_eq, hpart.bytesReceived_eq]
    rfl
  · rw [hfull.packetsReceived_eq, hpart.packetsReceived_eq]
    rfl
  · rw [hfull.bytesSent_eq, hpart.bytesSent_eq, hlength, Nat.add_assoc]
  · rw [hfull.packetsSent_eq, hpart.packetsSent_eq, hcount, Nat.add_assoc]
  · rw [hfull.sequence_eq, hpart.sequence_eq, hlength, UInt32.ofNat_add, UInt32.add_assoc]
  · rw [hfull.transitions_eq, hpart.transitions_eq]
  · rw [hfull.timedOut_eq, hpart.timedOut_eq]
  · rw [hfull.gracefullyClosed_eq, hpart.gracefullyClosed_eq]

/-- Take in chunks one after the other: how many messages each of them completes, and the receiver
afterwards. -/
def Receiver.feedEach (limit : Nat) : List Bytes → Receiver → List Nat × Receiver
  | [], r => ([], r)
  | chunk :: later, r =>
    let fed := r.feed limit chunk
    let rest := fed.2.feedEach limit later
    (fed.1.length :: rest.1, rest.2)

namespace Connection

/-- What each delivery returns, and what is left in the receiver, is a function of the chunks and the
limit. -/
theorem listen_feedEach (profile : Profile) (turns : List Turn) {c : Connection}
    (hopen : c.block.carriesData = true) :
    ((c.listen profile turns).1.counts, (c.listen profile turns).2.receiver) =
      c.receiver.feedEach profile.frameLimit (Turn.chunks turns) := by
  induction turns generalizing c with
  | nil => rfl
  | cons turn later ih =>
    cases turn with
    | hear chunk now =>
      obtain ⟨block, hreceive, hcarried⟩ := receive_of_carriesData profile chunk now hopen
      have hstill : (c.receive profile chunk now).2.block.carriesData = true := by
        rw [hreceive, Block.carriesData, hcarried.state_eq]
        exact hopen
      have hreceiver : (c.receive profile chunk now).2.receiver =
          (c.receiver.feed profile.frameLimit chunk).2 := by rw [hreceive]
      have hlater := ih hstill
      rw [hreceiver] at hlater
      have hchunks : Turn.chunks (.hear chunk now :: later) = chunk :: Turn.chunks later := rfl
      simp only [hchunks, Receiver.feedEach, ← hlater, listen, hreceive]
    | collectMessages => exact ih (c := c.drainInbound.2) hopen
    | collectFrames => exact ih (c := c.drainOutbound.2) hopen

/-- Two connections begin alike, hear the same chunks, and differ in the policy for unknown lines. Each
delivery returns the same number to both, they dispatch the same messages and keep the same bytes, drop
the same frames and count the same traffic coming in. What the silent one transmits is what the other
one does without the frames that begin with `UNKNOWN`, in the same order, and these frames are what the
other one has sent in addition. When somebody collects and what the clock says has no influence. -/
theorem policy_decides_unknown (profile : Profile) (block : Block) (turns turns' : List Turn)
    (hopen : block.state = .established) (hchunks : Turn.chunks turns' = Turn.chunks turns) :
    let loud := (untouched block).listen { profile with policy := .reply } turns
    let silent := (untouched block).listen { profile with policy := .silent } turns'
    let frames := loud.1.frames ++ loud.2.outbox.toList
    silent.1.counts = loud.1.counts ∧
      silent.1.messages ++ silent.2.inbox.toList = loud.1.messages ++ loud.2.inbox.toList ∧
      silent.2.receiver = loud.2.receiver ∧
      silent.1.frames ++ silent.2.outbox.toList =
        (frames.filter fun frame => !Frame.saysUnknown frame) ∧
      silent.2.block.bytesReceived = loud.2.block.bytesReceived ∧
      silent.2.block.packetsReceived = loud.2.block.packetsReceived ∧
      Block.Carried [] (frames.filter Frame.saysUnknown) silent.2.block loud.2.block := by
  intro loud silent frames
  have hcarries : (untouched block).block.carriesData = true := decide_eq_true hopen
  have hclean := Receiver.isClean_fresh.follows profile.frameLimit
  obtain ⟨messages, hmessages, hloud⟩ :=
    listen_dispatched { profile with policy := .reply } turns hcarries hclean
  obtain ⟨messages', hmessages', hsilent⟩ :=
    listen_dispatched { profile with policy := .silent } turns' hcarries hclean
  -- The stream is the same, and so are the messages.
  obtain rfl : messages' = messages := by
    rw [hchunks, hmessages] at hmessages'
    exact (List.append_cancel_left hmessages').symm
  have hfed : (silent.1.counts, silent.2.receiver) = (loud.1.counts, loud.2.receiver) := by
    rw [listen_feedEach _ turns' hcarries, listen_feedEach _ turns hcarries, hchunks]
  have hframes : frames = Message.answers .reply messages' := hloud.outbox_eq
  have hcarried := hsilent.carried
  rw [hchunks, Message.answers_silent, ← hframes] at hcarried
  have hloudCarried := hloud.carried
  rw [← hframes] at hloudCarried
  refine ⟨congrArg Prod.fst hfed, ?_, congrArg Prod.snd hfed, ?_, ?_, ?_,
    hloudCarried.of_filter Frame.saysUnknown hcarried⟩
  · exact hsilent.inbox_eq.trans hloud.inbox_eq.symm
  · rw [hframes, ← Message.answers_silent]
    exact hsilent.outbox_eq
  · rw [hcarried.bytesReceived_eq, hloudCarried.bytesReceived_eq]
  · rw [hcarried.packetsReceived_eq, hloudCarried.packetsReceived_eq]

/-- An unknown line, a request cut in two, and an answer of the peer to an unknown line. One connection
is collected from in between, the other one hears the same later and is not. -/
theorem policy_decides_unknown_cut_request :
    let profile : Profile := { frameLimit := 16 }
    let block : Block :=
      { Block.fresh profile ⟨1⟩ ⟨"127.0.0.1", 8000⟩ ⟨"10.0.0.1", 80⟩ 1000 0 with
        state := .established }
    let first := Utf8.encode "HELLO\nPI"
    let second := Utf8.encode "NG a\nUNKNOWN b\nECHO UNKNOWN c\n"
    let turns : List Turn := [.hear first 1, .collectFrames, .collectMessages, .hear second 2]
    let turns' : List Turn := [.hear first 5, .hear second 9]
    let loud := (untouched block).listen { profile with policy := .reply } turns
    let silent := (untouched block).listen { profile with policy := .silent } turns'
    block.state = .established ∧ Turn.chunks turns' = Turn.chunks turns ∧
      loud.1.frames ++ loud.2.outbox.toList =
        [Utf8.encode "UNKNOWN HELLO\n", Utf8.encode "PONG a\n",
          Utf8.encode "ECHO_REPLY UNKNOWN c\n"] ∧
      silent.1.frames ++ silent.2.outbox.toList =
        [Utf8.encode "PONG a\n", Utf8.encode "ECHO_REPLY UNKNOWN c\n"] ∧
      silent.1.counts = loud.1.counts ∧
      Block.Carried [] [Utf8.encode "UNKNOWN HELLO\n"] silent.2.block loud.2.block := by
  intro profile block first second turns turns' loud silent
  have hframes : loud.1.frames ++ loud.2.outbox.toList =
      [Utf8.encode "UNKNOWN HELLO\n", Utf8.encode "PONG a\n",
        Utf8.encode "ECHO_REPLY UNKNOWN c\n"] := by decide +kernel
  obtain ⟨hcounts, -, -, hsilent, -, -, hcarried⟩ :=
    policy_decides_unknown profile block turns turns' rfl rfl
  rw [hframes] at hsilent hcarried
  exact ⟨rfl, rfl, hframes, hsilent.trans (by decide), hcounts, hcarried⟩

end Connection

end Switchboard
