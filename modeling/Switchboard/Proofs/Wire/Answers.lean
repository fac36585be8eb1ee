import Switchboard.Proofs.Text.Replacements
import Switchboard.Wire.Reply

/-!
# Answers on the wire

What a line gets as an answer is one line again, whatever bytes it was: the text of the line has no
newline, so neither has the text of the answer (`isAnswer_of_reply?`). Whoever reads that line finds
one of the verbs with which peers answer in front of it, and recognises it as an answer
(`ofFrame_answer`). An answer is never answered, under no policy (`reply?_of_isReply`).
-/

namespace Switchboard

/-- A verb without a space, and what follows after one, are found again. -/
theorem splitVerb_join {verb : String} (h : ' ' ∉ verb.toList) (argument : String) :
    splitVerb (verb ++ " " ++ argument) = (verb, argument) := by
  have hverb : ∀ c ∈ verb.toList, decide (c ≠ ' ') = true := by
    intro c hc
    rw [decide_eq_true_eq]
    rintro rfl
    exact h hc
  have hline : (verb ++ " " ++ argument).toList = verb.toList ++ ' ' :: argument.toList := by
    simp
  rw [splitVerb, hline, List.takeWhile_append_of_pos hverb, List.dropWhile_append_of_pos hverb]
  simp

/-- What follows the verb of a line is part of the line. -/
theorem mem_of_mem_argument {line : String} {c : Char} (h : c ∈ (splitVerb line).2.toList) :
    c ∈ line.toList := by
  rw [splitVerb, String.toList_ofList] at h
  exact (List.dropWhile_sublist _).subset (List.mem_of_mem_drop h)

/-- The digits of a number are no newlines. -/
theorem newline_not_mem_toString (n : Nat) : '\n' ∉ (toString n).toList := by
  rw [Nat.toString_eq_repr, Nat.toList_repr]
  intro hmem
  exact absurd (Nat.isDigit_of_mem_toDigits (by decide) (by decide) hmem) (by decide)

namespace Reply

/-- The verb of a reply. -/
def verb : Reply → String
  | pong _ => "PONG"
  | echoReply _ => "ECHO_REPLY"
  | ack _ => "ACK"
  | unknown _ => "UNKNOWN"

/-- What follows the verb of a reply. -/
def argument : Reply → String
  | pong argument => argument
  | echoReply argument => argument
  | ack size => toString size
  | unknown line => line

/-- A reply says its verb, a space, and what follows. -/
theorem text_eq (r : Reply) : r.text = r.verb ++ " " ++ r.argument := by
  cases r <;> rfl

/-- Replies have the verbs with which peers answer. -/
theorem verb_mem (r : Reply) : r.verb ∈ Message.replyVerbs := by
  cases r <;> simp [verb, Message.replyVerbs]

end Reply

namespace Message

/-- None of the verbs with which peers answer has a space in it, and none asks for something. -/
theorem replyVerbs_spec {verb : String} (h : verb ∈ replyVerbs) :
    ' ' ∉ verb.toList ∧ '\n' ∉ verb.toList ∧ verb ≠ "PING" ∧ verb ≠ "ECHO" ∧ verb ≠ "DATA" := by
  have hall : ∀ verb ∈ replyVerbs, ' ' ∉ verb.toList ∧ '\n' ∉ verb.toList ∧
      verb ≠ "PING" ∧ verb ≠ "ECHO" ∧ verb ≠ "DATA" := by decide
  exact hall verb h

/-- A line with such a verb is read as what it is, and recognised as an answer. -/
theorem ofFrame_answer {verb : String} (h : verb ∈ replyVerbs) (argument : String) :
    ofFrame (Utf8.encode (verb ++ " " ++ argument)) = other (verb ++ " " ++ argument) ∧
      (other (verb ++ " " ++ argument)).isReply = true := by
  obtain ⟨hspace, -, hping, hecho, hdata⟩ := replyVerbs_spec h
  have hsplit := splitVerb_join hspace argument
  constructor
  · rw [ofFrame, Utf8.decode_encode, ofLine, hsplit]
    simp only [if_neg hping, if_neg hecho, if_neg hdata]
    rfl
  · rw [isReply, hsplit]
    exact List.contains_iff_mem.2 h

/-- An answer is not answered. -/
theorem reply?_of_isReply {m : Message} (h : m.isReply = true) (policy : Policy) :
    m.reply? policy = none := by
  cases m with
  | other line => exact if_pos h
  | ping | echo | data => cases h

/-- What answers a message of one line says nothing about newlines. -/
theorem newline_not_mem_argument {line : Bytes} (h : delimiter ∉ line) {policy : Policy}
    {r : Reply} (hreply : (ofFrame line).reply? policy = some r) :
    '\n' ∉ r.argument.toList := by
  have hline : '\n' ∉ (Utf8.decode line).toList := fun hmem => h ((Utf8.newline_mem_decode line).1 hmem)
  have hargument : '\n' ∉ (splitVerb (Utf8.decode line)).2.toList := fun hmem =>
    hline (mem_of_mem_argument hmem)
  unfold ofFrame ofLine at hreply
  simp only at hreply
  split at hreply
  · cases hreply
    exact hargument
  split at hreply
  · cases hreply
    exact hargument
  split at hreply
  · cases hreply
    exact newline_not_mem_toString _
  · simp only [withSize, reply?] at hreply
    split at hreply
    · cases hreply
    · cases policy with
      | reply =>
        cases hreply
        exact hline
      | silent => cases hreply

end Message

/-- The frame is one line, and whoever reads it recognises an answer. -/
def IsAnswer (frame : Bytes) : Prop :=
  ∃ line, frame = line ++ [delimiter] ∧ delimiter ∉ line ∧ (Message.ofFrame line).isReply = true

/-- A line that has one of the verbs with which peers answer is an answer. -/
theorem isAnswer_encodeLine {verb argument : String} (hverb : verb ∈ Message.replyVerbs)
    (hargument : '\n' ∉ argument.toList) : IsAnswer (encodeLine (verb ++ " " ++ argument)) := by
  obtain ⟨-, hnewline, -⟩ := Message.replyVerbs_spec hverb
  obtain ⟨hframe, hanswers⟩ := Message.ofFrame_answer hverb argument
  refine ⟨Utf8.encode (verb ++ " " ++ argument), rfl, ?_, ?_⟩
  · rw [Utf8.delimiter_mem_encode]
    simp [hnewline, hargument]
  · rw [hframe, hanswers]

/-- What a line gets as an answer is an answer. -/
theorem isAnswer_of_reply? {line : Bytes} (h : delimiter ∉ line) {policy : Policy} {r : Reply}
    (hreply : (Message.ofFrame line).reply? policy = some r) : IsAnswer r.encode := by
  rw [Reply.encode, Reply.text_eq]
  exact isAnswer_encodeLine r.verb_mem (Message.newline_not_mem_argument h hreply)

end Switchboard
