import Switchboard.Proofs.Stream.Reassembly
import Switchboard.Proofs.Wire.Classification

/-!
# Messages written and read again

What a message says is written by one set of rules and read by another. A message is found again
exactly if its text is one line and means the message: a data message must have the size of its line,
and another line must not begin with a verb that asks for something. Nothing that comes behind the
message matters. In the other direction a line of well-formed text is written as it was read, except
that a verb with nothing but a space behind it loses the space (`codec_roundTrip`).
-/

namespace Switchboard

/-- A line without a space is its verb, and any other is its verb, a space and its argument. -/
theorem eq_verb_or_join (line : String) :
    line = (splitVerb line).1 ∧ (splitVerb line).2 = "" ∨
      line = (splitVerb line).1 ++ " " ++ (splitVerb line).2 := by
  by_cases hspace : ' ' ∈ line.toList
  · obtain ⟨verb, argument, hline, hverb⟩ := List.eq_append_cons_of_mem hspace
    have hjoin : line = String.ofList verb ++ " " ++ String.ofList argument := by
      apply String.toList_injective
      simpa using hline
    have hplain : ' ' ∉ (String.ofList verb).toList := by simpa using hverb
    rw [hjoin, splitVerb_join hplain]
    exact .inr rfl
  · rw [splitVerb_of_not_mem hspace]
    exact .inl ⟨rfl, rfl⟩

namespace Message

/-- The verbs that ask for something. -/
def requestVerbs : List String := ["PING", "ECHO", "DATA"]

/-- What a line is, told from its verb. -/
theorem ofLine_eq (line : String) :
    ofLine line =
      if (splitVerb line).1 = "PING" then ping (splitVerb line).2
      else if (splitVerb line).1 = "ECHO" then echo (splitVerb line).2
      else if (splitVerb line).1 = "DATA" then data (splitVerb line).2 (Utf8.encode line).length
      else other line := rfl

/-- A text is read from its own bytes as a line. -/
theorem ofFrame_encode (text : String) : ofFrame (Utf8.encode text) = ofLine text := by
  rw [ofFrame, Utf8.decode_encode, ofLine_eq]
  repeat' split
  all_goals rfl

/-- A verb that asks for something is found again, with its argument. -/
theorem splitVerb_joinVerb {verb : String} (h : verb ∈ requestVerbs) (argument : String) :
    splitVerb (joinVerb verb argument) = (verb, argument) := by
  have hplain : ∀ verb ∈ requestVerbs, ' ' ∉ verb.toList := by decide
  rw [joinVerb]
  split
  · next hargument => rw [hargument, splitVerb_of_not_mem (hplain verb h)]
  · exact splitVerb_join (hplain verb h) argument

/-- The text of a message is read as the message exactly if a data message has the size of its line,
and any other line has none of the verbs that ask for something. -/
theorem ofLine_text_iff (m : Message) :
    ofLine m.text = m ↔
      (∀ body size, m = data body size → size = (Utf8.encode m.text).length) ∧
        ∀ line, m = other line → (splitVerb line).1 ∉ requestVerbs := by
  rw [ofLine_eq]
  cases m with
  | ping argument =>
    rw [text, splitVerb_joinVerb (by decide)]
    simp
  | echo argument =>
    rw [text, splitVerb_joinVerb (by decide)]
    simp
  | data body size =>
    rw [text, splitVerb_joinVerb (by decide)]
    simp [eq_comm]
  | other line =>
    rw [text]
    by_cases hping : (splitVerb line).1 = "PING"
    · simp [hping, requestVerbs]
    by_cases hecho : (splitVerb line).1 = "ECHO"
    · simp [hecho, requestVerbs]
    by_cases hdata : (splitVerb line).1 = "DATA"
    · simp [hdata, requestVerbs]
    · simp [hping, hecho, hdata, requestVerbs]

/-- A message of one line is read as what its text says, whatever comes behind it. -/
theorem read_encode {m : Message} (hline : '\n' ∉ m.text.toList) (rest : Bytes) {limit : Nat}
    (hlimit : (Utf8.encode m.text).length ≤ limit) :
    Frame.read limit (m.encode ++ rest) = .complete (ofLine m.text) m.encode.length := by
  have hplain : delimiter ∉ Utf8.encode m.text := fun hmem =>
    hline ((Utf8.delimiter_mem_encode m.text).1 hmem)
  rw [encode, encodeLine, List.append_assoc, List.singleton_append, Frame.read_line hplain,
    Frame.Reading.terminated, if_neg (Nat.not_lt.2 hlimit), ofFrame_encode, List.length_append]
  rfl

/-- What is read of a message of several lines ends at the first of them. -/
theorem read_encode_ne {m : Message} (hline : '\n' ∈ m.text.toList) (rest : Bytes) (limit : Nat)
    (found : Message) : Frame.read limit (m.encode ++ rest) ≠ .complete found m.encode.length := by
  obtain ⟨first, later, hbytes, hfirst⟩ :=
    List.eq_append_cons_of_mem ((Utf8.delimiter_mem_encode m.text).2 hline)
  rw [encode, encodeLine, hbytes, List.append_assoc, List.append_assoc, List.cons_append,
    Frame.read_line hfirst, Frame.Reading.terminated]
  split
  · intro h
    cases h
  · intro h
    injection h with _ hlength
    simp at hlength

/-- The lines in which a verb that asks for something has nothing but a space behind it. -/
def paddedRequests : List String := ["PING ", "ECHO ", "DATA "]

/-- Such a line is its verb and a space. -/
theorem mem_paddedRequests_iff {line : String} :
    line ∈ paddedRequests ↔ (splitVerb line).1 ∈ requestVerbs ∧ line = (splitVerb line).1 ++ " " := by
  have hall : ∀ line ∈ paddedRequests,
      (splitVerb line).1 ∈ requestVerbs ∧ line = (splitVerb line).1 ++ " " := by decide
  have hpadded : ∀ verb ∈ requestVerbs, verb ++ " " ∈ paddedRequests := by decide
  constructor
  · exact hall line
  · rintro ⟨hverb, hline⟩
    rw [hline]
    exact hpadded _ hverb

/-- A line whose verb and argument are joined again loses a space with nothing behind it. -/
theorem joinVerb_splitVerb (line : String) :
    joinVerb (splitVerb line).1 (splitVerb line).2 =
      if line = (splitVerb line).1 ++ " " then (splitVerb line).1 else line := by
  obtain ⟨hline, hargument⟩ | hline := eq_verb_or_join line
  · have hne : line ≠ (splitVerb line).1 ++ " " := by
      intro heq
      have hlength := congrArg String.length (hline.symm.trans heq)
      simp at hlength
    rw [joinVerb, if_pos hargument, if_neg hne, ← hline]
  · rw [joinVerb]
    by_cases hargument : (splitVerb line).2 = ""
    · rw [hargument, String.append_empty] at hline
      rw [if_pos hargument, if_pos hline]
    · have hne : line ≠ (splitVerb line).1 ++ " " := by
        intro heq
        have hlength := congrArg String.length (hline.symm.trans heq)
        simp [hargument] at hlength
      rw [if_neg hargument, if_neg hne, ← hline]

/-- A line is written as it was read, except that a verb that asks for something loses a space with
nothing behind it. -/
theorem text_ofLine (line : String) :
    (ofLine line).text = if line ∈ paddedRequests then (splitVerb line).1 else line := by
  have hrequest : (splitVerb line).1 ∈ requestVerbs →
      joinVerb (splitVerb line).1 (splitVerb line).2 =
        if line ∈ paddedRequests then (splitVerb line).1 else line := by
    intro hverb
    simp only [joinVerb_splitVerb, mem_paddedRequests_iff, hverb, true_and]
  by_cases hping : (splitVerb line).1 = "PING"
  · rw [← hrequest (by rw [hping]; decide), ofLine_eq, if_pos hping, text, hping]
  by_cases hecho : (splitVerb line).1 = "ECHO"
  · rw [← hrequest (by rw [hecho]; decide), ofLine_eq, if_neg hping, if_pos hecho, text, hecho]
  by_cases hdata : (splitVerb line).1 = "DATA"
  · rw [← hrequest (by rw [hdata]; decide), ofLine_eq, if_neg hping, if_neg hecho, if_pos hdata, text,
      hdata]
  · have hother : (splitVerb line).1 ∉ requestVerbs := by simp [requestVerbs, hping, hecho, hdata]
    rw [if_neg fun hmem => hother (mem_paddedRequests_iff.1 hmem).1, ofLine_eq, if_neg hping,
      if_neg hecho, if_neg hdata, text]

end Message

/-- A message is found again in front of any bytes exactly if its text is one line that says it, and
all of its frame is then consumed. A line of well-formed text is written as it was read, except for a
verb that asks for something and has nothing but a space behind it: this space is lost. -/
theorem codec_roundTrip :
    (∀ (m : Message) (rest : Bytes) (limit : Nat), (Utf8.encode m.text).length ≤ limit →
      (Frame.read limit (m.encode ++ rest) = .complete m m.encode.length ↔
        '\n' ∉ m.text.toList ∧
          (∀ body size, m = .data body size → size = (Utf8.encode m.text).length) ∧
          ∀ line, m = .other line → (splitVerb line).1 ∉ ["PING", "ECHO", "DATA"])) ∧
      ∀ frame : Bytes, (Utf8.valid? frame).isSome →
        (Message.ofFrame frame).encode =
          (if frame ∈ ["PING ", "ECHO ", "DATA "].map Utf8.encode then frame.dropLast else frame) ++
            [delimiter] := by
  constructor
  · intro m rest limit hlimit
    rw [← Message.requestVerbs, ← Message.ofLine_text_iff]
    by_cases hline : '\n' ∈ m.text.toList
    · exact iff_of_false (Message.read_encode_ne hline rest limit m) fun h => h.1 hline
    · rw [Message.read_encode hline rest hlimit, Frame.Reading.complete.injEq]
      simp [hline]
  · intro frame hframe
    obtain ⟨text, htext⟩ := Option.isSome_iff_exists.1 hframe
    obtain rfl := Utf8.valid?_eq_some_iff.1 htext
    have hpadded : Utf8.encode text ∈ ["PING ", "ECHO ", "DATA "].map Utf8.encode ↔
        text ∈ Message.paddedRequests := by
      constructor
      · intro hmem
        obtain ⟨line, hline, heq⟩ := List.mem_map.1 hmem
        rw [← Utf8.decode_encode text, ← heq, Utf8.decode_encode]
        exact hline
      · exact fun hmem => List.mem_map_of_mem hmem
    rw [Message.ofFrame_encode, Message.encode, encodeLine, Message.text_ofLine]
    by_cases hmem : text ∈ Message.paddedRequests
    · obtain ⟨-, hsplit⟩ := Message.mem_paddedRequests_iff.1 hmem
      have hbytes : Utf8.encode text = Utf8.encode (splitVerb text).1 ++ [space] := by
        conv_lhs => rw [hsplit, Utf8.encode_append]
        rfl
      rw [if_pos hmem, if_pos (hpadded.2 hmem), hbytes, List.dropLast_concat]
    · rw [if_neg hmem, if_neg fun h => hmem (hpadded.1 h)]

/-- A data message whose argument begins with a space, with the smallest limit, in front of another
request, and a request with nothing but a space behind its verb. -/
theorem codec_roundTrip_at_limit :
    (Utf8.encode (Message.data " \u00e9" 8).text).length ≤ 8 ∧
      (Utf8.valid? (Utf8.encode "ECHO ")).isSome ∧
      Frame.read 8 ((Message.data " \u00e9" 8).encode ++ Utf8.encode "PING\n") =
        .complete (.data " \u00e9" 8) 9 ∧
      (Message.ofFrame (Utf8.encode "ECHO ")).encode = Utf8.encode "ECHO" ++ [delimiter] := by
  have hlimit : (Utf8.encode (Message.data " \u00e9" 8).text).length ≤ 8 := by decide
  have hvalid : (Utf8.valid? (Utf8.encode "ECHO ")).isSome := by decide
  have hread := codec_roundTrip.1 (.data " \u00e9" 8) (Utf8.encode "PING\n") 8 hlimit
  refine ⟨hlimit, hvalid, hread.2 ⟨by decide, ?_, ?_⟩, codec_roundTrip.2 _ hvalid⟩
  · rintro body size heq
    cases heq
    decide
  · rintro line heq
    cases heq

end Switchboard
