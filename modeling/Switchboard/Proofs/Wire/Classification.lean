import Mathlib.Data.List.TakeWhile
import Switchboard.Proofs.Wire.Answers

/-!
# What decides how a frame is read

A frame is read as text, and its message is chosen by the first word of the text. The same choice can
be made on the bytes: decoding neither makes nor destroys a space, so the first word of the text is the
text of the bytes before the first space, and it is one of the known verbs only if these bytes are. Main
statement: the bytes before the first space decide which message a frame is, whatever ill-formed pieces
stand in the frame, and a data line is acknowledged with the number of its bytes
(`ofFrame_by_bytes`).
-/

namespace Switchboard

/-- The byte that ends a verb. -/
def space : UInt8 := 0x20

namespace Frame

/-- The bytes before the first space. -/
def verb (frame : Bytes) : Bytes :=
  frame.takeWhile (· ≠ space)

/-- The bytes after the first space, none if there is no space. -/
def argument (frame : Bytes) : Bytes :=
  (frame.dropWhile (· ≠ space)).drop 1

/-- There is no space in a verb. -/
theorem space_not_mem_verb (frame : Bytes) : space ∉ verb frame := by
  intro hmem
  have hne := List.mem_takeWhile_imp hmem
  simp at hne

/-- A frame is its verb, or its verb, a space and its argument. -/
theorem eq_verb_or (frame : Bytes) :
    frame = verb frame ∧ argument frame = [] ∨ frame = verb frame ++ space :: argument frame := by
  have hframe : verb frame ++ frame.dropWhile (· ≠ space) = frame := List.takeWhile_append_dropWhile
  cases hdrop : frame.dropWhile (· ≠ space) with
  | nil =>
    rw [hdrop, List.append_nil] at hframe
    exact .inl ⟨hframe.symm, by rw [argument, hdrop, List.drop_nil]⟩
  | cons b rest =>
    have hb : ¬ (b ≠ space) := by
      have hhead := List.head?_dropWhile_not (fun b => decide (b ≠ space)) frame
      rw [hdrop] at hhead
      simpa using hhead
    rw [hdrop, not_not.1 hb] at hframe
    exact .inr (by rw [argument, hdrop, List.drop_one, List.tail_cons, hframe])

end Frame

/-- A line without a space is all verb. -/
theorem splitVerb_of_not_mem {line : String} (h : ' ' ∉ line.toList) : splitVerb line = (line, "") := by
  have hline : ∀ c ∈ line.toList, decide (c ≠ ' ') = true := by
    intro c hc
    rw [decide_eq_true_eq]
    rintro rfl
    exact h hc
  rw [splitVerb, List.takeWhile_eq_self_iff.2 hline, List.dropWhile_eq_nil_iff.2 hline]
  simp

/-- The first word of a text is the text of the bytes before the first space, and what follows it is
the text of the bytes after that space. -/
theorem splitVerb_decode (frame : Bytes) :
    splitVerb (Utf8.decode frame) =
      (Utf8.decode (Frame.verb frame), Utf8.decode (Frame.argument frame)) := by
  have hverb : ' ' ∉ (Utf8.decode (Frame.verb frame)).toList := fun hmem =>
    Frame.space_not_mem_verb frame ((Utf8.ascii_mem_decode (b := space) (by decide) _).1 hmem)
  obtain ⟨hall, hnone⟩ | hcut := Frame.eq_verb_or frame
  · rw [hnone, ← hall]
    rw [← hall] at hverb
    exact splitVerb_of_not_mem hverb
  · have hline : Utf8.decode frame =
        Utf8.decode (Frame.verb frame) ++ " " ++ Utf8.decode (Frame.argument frame) := by
      apply String.toList_injective
      rw [hcut.trans rfl, Utf8.decode_append_ascii (b := space) (by decide), ← hcut]
      simp
      rfl
    rw [hline, splitVerb_join hverb]

namespace Message

/-- What a frame is, told from its bytes. -/
theorem ofFrame_eq (frame : Bytes) :
    ofFrame frame =
      if Frame.verb frame = Utf8.encode "PING" then ping (Utf8.decode (Frame.argument frame))
      else if Frame.verb frame = Utf8.encode "ECHO" then echo (Utf8.decode (Frame.argument frame))
      else if Frame.verb frame = Utf8.encode "DATA" then
        data (Utf8.decode (Frame.argument frame)) frame.length
      else other (Utf8.decode frame) := by
  have hping : Utf8.decode (Frame.verb frame) = "PING" ↔ Frame.verb frame = Utf8.encode "PING" :=
    Utf8.decode_eq_iff _ (by decide)
  have hecho : Utf8.decode (Frame.verb frame) = "ECHO" ↔ Frame.verb frame = Utf8.encode "ECHO" :=
    Utf8.decode_eq_iff _ (by decide)
  have hdata : Utf8.decode (Frame.verb frame) = "DATA" ↔ Frame.verb frame = Utf8.encode "DATA" :=
    Utf8.decode_eq_iff _ (by decide)
  rw [ofFrame, ofLine, splitVerb_decode]
  simp only [hping, hecho, hdata]
  split
  · rfl
  split
  · rfl
  split
  · rfl
  · rfl

/-- The verbs that ask for something differ in their bytes. -/
theorem requests_ne :
    Utf8.encode "PING" ≠ Utf8.encode "ECHO" ∧ Utf8.encode "PING" ≠ Utf8.encode "DATA" ∧
      Utf8.encode "ECHO" ≠ Utf8.encode "DATA" := by
  decide

/-- Only data are acknowledged, with their size. -/
theorem reply?_eq_ack_iff {m : Message} {policy : Policy} {size : Nat} :
    m.reply? policy = some (.ack size) ↔ ∃ body, m = data body size := by
  cases m with
  | ping | echo => simp [reply?]
  | data body size' => simp [reply?]
  | other line =>
    simp only [reply?, reduceCtorEq, exists_false, iff_false]
    split
    · simp
    · cases policy <;> simp

/-- The text of a verb is one with which peers answer exactly if its bytes are. -/
theorem decode_mem_replyVerbs (verb : Bytes) :
    Utf8.decode verb ∈ replyVerbs ↔ verb ∈ replyVerbs.map Utf8.encode := by
  have hplain : ∀ known ∈ replyVerbs, Utf8.replacement ∉ known.toList := by decide
  rw [List.mem_map]
  constructor
  · intro hknown
    exact ⟨_, hknown, ((Utf8.decode_eq_iff _ (hplain _ hknown)).1 rfl).symm⟩
  · rintro ⟨known, hknown, rfl⟩
    rw [Utf8.decode_encode]
    exact hknown

/-- Whether a frame answers something, told from its bytes. -/
theorem isReply_ofFrame (frame : Bytes) :
    (ofFrame frame).isReply = true ↔ Frame.verb frame ∈ replyVerbs.map Utf8.encode := by
  rw [ofFrame_eq]
  split
  · next h => exact iff_of_false Bool.false_ne_true (h ▸ by decide)
  split
  · next h => exact iff_of_false Bool.false_ne_true (h ▸ by decide)
  split
  · next h => exact iff_of_false Bool.false_ne_true (h ▸ by decide)
  · rw [isReply, List.contains_iff_mem, splitVerb_decode, decode_mem_replyVerbs]

end Message

/-- The bytes before the first space decide what a frame is, whether or not they and the others are
well-formed, and the text of a message is what its bytes spell. A data line is acknowledged with the
number of its bytes, and no other line is. -/
theorem ofFrame_by_bytes (frame : Bytes) :
    let verb := Frame.verb frame
    let argument := Utf8.decode (Frame.argument frame)
    Utf8.Spells frame (Utf8.decode frame).toList ∧
      Utf8.Spells (Frame.argument frame) argument.toList ∧
      (Message.ofFrame frame = .ping argument ↔ verb = Utf8.encode "PING") ∧
      (Message.ofFrame frame = .echo argument ↔ verb = Utf8.encode "ECHO") ∧
      (Message.ofFrame frame = .data argument frame.length ↔ verb = Utf8.encode "DATA") ∧
      (Message.ofFrame frame = .other (Utf8.decode frame) ↔
        verb ∉ ["PING", "ECHO", "DATA"].map Utf8.encode) ∧
      ((Message.ofFrame frame).isReply = true ↔
        verb ∈ ["PONG", "ECHO_REPLY", "ACK", "UNKNOWN"].map Utf8.encode) ∧
      ∀ policy, (Message.ofFrame frame).reply? policy = some (.ack frame.length) ↔
        verb = Utf8.encode "DATA" := by
  intro verb argument
  have hreply := Message.isReply_ofFrame frame
  obtain ⟨hpe, hpd, hed⟩ := Message.requests_ne
  have hframe := Message.ofFrame_eq frame
  refine ⟨Utf8.spells_decode _, Utf8.spells_decode _, ?_⟩
  simp only [Message.reply?_eq_ack_iff]
  -- The verb is one of the three that ask for something, or none of them.
  by_cases hping : Frame.verb frame = Utf8.encode "PING"
  · rw [if_pos hping] at hframe
    refine ⟨?_, ?_, ?_, ?_, hreply, ?_⟩ <;> simp [hframe, verb, argument, hping, hpe, hpd]
  by_cases hecho : Frame.verb frame = Utf8.encode "ECHO"
  · rw [if_neg hping, if_pos hecho] at hframe
    refine ⟨?_, ?_, ?_, ?_, hreply, ?_⟩ <;> simp [hframe, verb, argument, hecho, hpe.symm, hed]
  by_cases hdata : Frame.verb frame = Utf8.encode "DATA"
  · rw [if_neg hping, if_neg hecho, if_pos hdata] at hframe
    refine ⟨?_, ?_, ?_, ?_, hreply, ?_⟩ <;>
      simp [hframe, verb, argument, hdata, hpd.symm, hed.symm]
  · rw [if_neg hping, if_neg hecho, if_neg hdata] at hframe
    refine ⟨?_, ?_, ?_, ?_, hreply, ?_⟩ <;> simp [hframe, verb, hping, hecho, hdata]

/-- A stray byte and a truncated sequence directly behind the space: two replacements, eight bytes. -/
example : Message.ofFrame (Utf8.encode "DATA " ++ [0xFF, 0xE2, 0x82]) =
    .data "\ufffd\ufffd" 8 := by decide

end Switchboard
