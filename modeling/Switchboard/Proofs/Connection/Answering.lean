import Switchboard.Proofs.Connection.Transfer
import Switchboard.Proofs.Wire.Answers

/-!
# Hearing answers

What a connection transmits while it receives are answers (`isAnswer_of_mem_answers`), whatever is
in its receiver and whatever comes in. A connection whose receiver is clean hears an answer without
saying anything itself: it dispatches it, or drops it because it is longer than the limit, and its
receiver is clean again (`informed_receive`).
-/

namespace Switchboard

namespace Receiver

/-- Whatever a receiver holds, the messages that it takes out are lines. -/
theorem exists_line_of_mem_feed (limit : Nat) (r : Receiver) (chunk : Bytes) {m : Message}
    (h : m ∈ (r.feed limit chunk).1) : ∃ line, delimiter ∉ line ∧ m = Message.ofFrame line := by
  have hlines : ∀ bytes, m ∈ (Lines.ofStream bytes).messages limit →
      ∃ line, delimiter ∉ line ∧ m = Message.ofFrame line := by
    intro bytes hmem
    obtain ⟨line, hline, rfl⟩ := List.mem_map.1 hmem
    exact ⟨line, (Lines.isCut_ofStream bytes).1 line (List.mem_filter.1 hline).1, rfl⟩
  rw [feed, extract] at h
  generalize { r with backlog := r.backlog.append chunk : Receiver } = fed at h
  cases hskip : fed.discarding with
  | false =>
    rw [(extractOnto_ready limit _ fed [] hskip rfl).1] at h
    exact hlines _ h
  | true =>
    by_cases hend : delimiter ∈ fed.buffer
    · obtain ⟨skipped, behind, hbuffer, hskipped⟩ := List.eq_append_cons_of_mem hend
      rw [(extractOnto_resuming [] limit hskip hbuffer hskipped).1] at h
      exact hlines _ h
    · rw [extractOnto_skipping [] limit hskip hend] at h
      cases h

end Receiver

namespace Message

/-- What answers lines are answers. -/
theorem isAnswer_of_mem_answers {policy : Policy} {messages : List Message} {frame : Bytes}
    (hlines : ∀ m ∈ messages, ∃ line, delimiter ∉ line ∧ m = ofFrame line)
    (h : frame ∈ answers policy messages) : IsAnswer frame := by
  obtain ⟨m, hm, hframe⟩ := List.mem_filterMap.1 h
  obtain ⟨line, hline, rfl⟩ := hlines m hm
  obtain ⟨reply, hreply, rfl⟩ := Option.map_eq_some_iff.1 hframe
  exact isAnswer_of_reply? hline hreply

/-- Answers are not answered. -/
theorem answers_of_isReply {messages : List Message} (h : ∀ m ∈ messages, m.isReply = true)
    (policy : Policy) : answers policy messages = [] := by
  rw [answers, List.filterMap_eq_nil_iff]
  intro m hm
  rw [reply?_of_isReply (h m hm), Option.map_none]

end Message

namespace Connection

/-- From one connection to another, frames have been delivered that were answers; nothing has been
transmitted, and each frame was dispatched as an answer or dropped. -/
structure Informed (frames : List Bytes) (c after : Connection) : Prop where
  carried : Block.Carried frames [] c.block after.block
  outbox_eq : after.outbox.toList = c.outbox.toList
  isClean : after.receiver.IsClean
  dispatched : ∃ messages dropped, after.inbox.toList = c.inbox.toList ++ messages ∧
    (∀ m ∈ messages, m.isReply = true) ∧
    after.receiver.dropped = c.receiver.dropped + dropped ∧
    frames.length = messages.length + dropped

namespace Informed

variable {c middle after : Connection} {first second : List Bytes}

/-- A clean connection that has been told nothing. -/
theorem refl (h : c.receiver.IsClean) : Informed [] c c where
  carried := Block.Carried.refl c.block
  outbox_eq := rfl
  isClean := h
  dispatched := ⟨[], 0, by simp⟩

/-- Answers follow answers. -/
theorem trans (h : Informed first c middle) (hlater : Informed second middle after) :
    Informed (first ++ second) c after where
  carried := h.carried.trans hlater.carried
  outbox_eq := hlater.outbox_eq.trans h.outbox_eq
  isClean := hlater.isClean
  dispatched := by
    obtain ⟨messages, dropped, hinbox, hreply, hdropped, hcount⟩ := h.dispatched
    obtain ⟨later, droppedLater, hinbox', hreply', hdropped', hcount'⟩ := hlater.dispatched
    refine ⟨messages ++ later, dropped + droppedLater, ?_, ?_, ?_, ?_⟩
    · rw [hinbox', hinbox, List.append_assoc]
    · intro m hm
      exact (List.mem_append.1 hm).elim (hreply m) (hreply' m)
    · rw [hdropped', hdropped, Nat.add_assoc]
    · rw [List.length_append, List.length_append]
      omega

end Informed

/-- A clean connection hears an answer without saying anything. -/
theorem informed_receive {c : Connection} {frame : Bytes} (hopen : c.state = .established)
    (hclean : c.receiver.IsClean) (hframe : IsAnswer frame) (profile : Profile) (now : Instant) :
    Informed [frame] c (c.receive profile frame now).2 := by
  have hdata : c.block.carriesData = true := decide_eq_true hopen
  obtain ⟨line, rfl, hline, hreply⟩ := hframe
  have hlines : Lines.ofStream ([] ++ (line ++ [delimiter])) = ⟨[line], []⟩ :=
    Lines.ofStream_line hline []
  obtain ⟨messages, hmessages, -, hinbox, houtbox, hfollows, hcarried⟩ :=
    receive_follows profile (line ++ [delimiter]) now hdata (hclean.follows profile.frameLimit)
  have hdropped := hfollows.dropped_eq
  rw [hlines] at hmessages hdropped
  have hall : ∀ m ∈ messages, m.isReply = true := by
    intro m hm
    have hmem : m ∈ Lines.messages profile.frameLimit ⟨[line], []⟩ := by
      rw [hmessages]
      exact List.mem_append_right _ hm
    obtain ⟨line', hline', rfl⟩ := List.mem_map.1 hmem
    obtain rfl := List.mem_singleton.1 (List.mem_filter.1 hline').1
    exact hreply
  have hnothing := Message.answers_of_isReply hall profile.policy
  rw [hnothing] at houtbox hcarried
  have hcount := Lines.length_messages_add_oversize profile.frameLimit [line]
  rw [hmessages] at hcount
  refine ⟨hcarried, by simpa using houtbox, ?_, messages, _, hinbox, hall, hdropped, hcount.symm⟩
  rw [hfollows.isClean_iff, hlines]

end Connection

end Switchboard
