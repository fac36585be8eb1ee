import Switchboard.Proofs.Stream.Reassembly

/-!
# Verdicts that stand

A buffer is read before all of a line has come in, and what is read is acted on at once: a message is
dispatched, an oversize frame is dropped. This is safe because more bytes never change the verdict. A
reading is told from the first line of the buffer alone, if there is one, and from the length of the
buffer otherwise (`read_eq_complete_iff`, `read_eq_oversize_iff`, `read_eq_incomplete_iff`); a first
line stays the first line, and a beginning that is too long only becomes longer.

Main statement: how a reading of a buffer is related to the reading of the buffer with any bytes behind
it, in each of the four cases (`read_stands`).
-/

namespace Switchboard

namespace Frame

/-- The first delimiter of a buffer stands at this position. -/
structure EndsAt (buffer : Bytes) (position : Nat) : Prop where
  delimiter_at : buffer[position]? = some delimiter
  none_before : delimiter ∉ buffer.take position

/-- A buffer holds a first line and its delimiter, or no delimiter. -/
theorem line_or_beginning (buffer : Bytes) :
    (∃ line rest, buffer = line ++ delimiter :: rest ∧ delimiter ∉ line) ∨ delimiter ∉ buffer := by
  by_cases hmem : delimiter ∈ buffer
  · exact .inl (List.eq_append_cons_of_mem hmem)
  · exact .inr hmem

/-- A first line ends at its length. -/
theorem endsAt_length {line : Bytes} (h : delimiter ∉ line) (rest : Bytes) :
    EndsAt (line ++ delimiter :: rest) line.length where
  delimiter_at := by simp
  none_before := by simpa using h

variable {limit : Nat} {buffer : Bytes}

/-- A message is read exactly of a first line within the limit, and of nothing else. -/
theorem read_eq_complete_iff {m : Message} {consumed : Nat} :
    read limit buffer = .complete m consumed ↔
      ∃ line rest, buffer = line ++ delimiter :: rest ∧ delimiter ∉ line ∧ line.length ≤ limit ∧
        m = Message.ofFrame line ∧ consumed = line.length + 1 := by
  constructor
  · intro h
    obtain ⟨line, rest, rfl, hline⟩ | hnone := line_or_beginning buffer
    · rw [read_line hline, Reading.terminated] at h
      split at h
      · cases h
      · next hfits =>
        cases h
        exact ⟨line, rest, rfl, hline, Nat.not_lt.1 hfits, rfl, rfl⟩
    · rw [read_of_not_mem hnone, Reading.unterminated] at h
      split at h <;> cases h
  · rintro ⟨line, rest, rfl, hline, hfits, rfl, rfl⟩
    rw [read_line hline, Reading.terminated, if_neg (Nat.not_lt.2 hfits)]

/-- A frame is too long exactly if a first line is, or so many bytes without a delimiter. -/
theorem read_eq_oversize_iff {fault : Oversize} :
    read limit buffer = .oversize fault ↔
      (∃ line rest, buffer = line ++ delimiter :: rest ∧ delimiter ∉ line ∧ limit < line.length ∧
        fault = ⟨line.length, limit, true⟩) ∨
      delimiter ∉ buffer ∧ limit < buffer.length ∧ fault = ⟨buffer.length, limit, false⟩ := by
  constructor
  · intro h
    obtain ⟨line, rest, rfl, hline⟩ | hnone := line_or_beginning buffer
    · rw [read_line hline, Reading.terminated] at h
      split at h
      · next hlong =>
        cases h
        exact .inl ⟨line, rest, rfl, hline, hlong, rfl⟩
      · cases h
    · rw [read_of_not_mem hnone, Reading.unterminated] at h
      split at h
      · next hlong =>
        cases h
        exact .inr ⟨hnone, hlong, rfl⟩
      · cases h
  · rintro (⟨line, rest, rfl, hline, hlong, rfl⟩ | ⟨hnone, hlong, rfl⟩)
    · rw [read_line hline, Reading.terminated, if_pos hlong]
    · rw [read_of_not_mem hnone, Reading.unterminated, if_pos hlong]

/-- There is nothing to be said of a buffer exactly if it has no delimiter and is within the limit. -/
theorem read_eq_incomplete_iff :
    read limit buffer = .incomplete ↔ delimiter ∉ buffer ∧ buffer.length ≤ limit := by
  constructor
  · intro h
    obtain ⟨line, rest, rfl, hline⟩ | hnone := line_or_beginning buffer
    · rw [read_line hline, Reading.terminated] at h
      split at h <;> cases h
    · rw [read_of_not_mem hnone, Reading.unterminated] at h
      split at h
      · cases h
      · next hfits => exact ⟨hnone, Nat.not_lt.1 hfits⟩
  · rintro ⟨hnone, hfits⟩
    rw [read_of_not_mem hnone, Reading.unterminated, if_neg (Nat.not_lt.2 hfits)]

/-- Bytes that come behind a first line do not change what is read. -/
theorem read_append_of_line {line rest : Bytes} (h : delimiter ∉ line) (limit : Nat)
    (more : Bytes) :
    read limit (line ++ delimiter :: rest ++ more) = read limit (line ++ delimiter :: rest) := by
  rw [List.append_assoc, List.cons_append, read_line h, read_line h]

/-- A beginning that is too long stays too long. Its line has ended once a delimiter has come in, and
is at least as long as what had come in before. -/
theorem read_append_of_overlong (h : delimiter ∉ buffer) (hlong : limit < buffer.length)
    (more : Bytes) :
    ∃ later, read limit (buffer ++ more) = .oversize later ∧ buffer.length ≤ later.size ∧
      (later.terminated = true ↔ delimiter ∈ more) := by
  obtain ⟨line, rest, rfl, hline⟩ | hnone := line_or_beginning more
  · have hall : delimiter ∉ buffer ++ line := by simp [h, hline]
    have hlonger : buffer.length ≤ (buffer ++ line).length := by simp
    refine ⟨⟨(buffer ++ line).length, limit, true⟩, ?_, hlonger, by simp⟩
    exact read_eq_oversize_iff.2 (.inl ⟨buffer ++ line, rest, by simp, hall, by omega, rfl⟩)
  · have hall : delimiter ∉ buffer ++ more := by simp [h, hnone]
    have hlonger : buffer.length ≤ (buffer ++ more).length := by simp
    refine ⟨⟨(buffer ++ more).length, limit, false⟩, ?_, hlonger, by simp [hnone]⟩
    exact read_eq_oversize_iff.2 (.inr ⟨hall, by omega, rfl⟩)

/-- A verdict stands, whatever comes behind the buffer. A message and the end of its frame are found
again, and so is a frame that is too long and has ended; both end at the first delimiter. A frame that
is too long and has not ended stays too long, and has ended as soon as there is a delimiter. The
verdict is open only as long as there is no delimiter and the limit is not exceeded. -/
theorem read_stands (limit : Nat) (buffer more : Bytes) :
    (∀ m consumed, read limit buffer = .complete m consumed →
      0 < consumed ∧ consumed ≤ buffer.length ∧ EndsAt buffer (consumed - 1) ∧
        read limit (buffer ++ more) = .complete m consumed) ∧
      (∀ fault, read limit buffer = .oversize fault → fault.terminated = true →
        read limit (buffer ++ more) = .oversize fault ∧ EndsAt buffer fault.size) ∧
      (∀ fault, read limit buffer = .oversize fault → fault.terminated = false →
        delimiter ∉ buffer ∧
          ∃ later, read limit (buffer ++ more) = .oversize later ∧ buffer.length ≤ later.size ∧
            (later.terminated = true ↔ delimiter ∈ more)) ∧
      (read limit buffer = .incomplete ↔ delimiter ∉ buffer ∧ buffer.length ≤ limit) := by
  refine ⟨?_, ?_, ?_, read_eq_incomplete_iff⟩
  · intro m consumed hread
    obtain ⟨hpos, hle⟩ := read_complete_le hread
    obtain ⟨line, rest, rfl, hline, -, -, rfl⟩ := read_eq_complete_iff.1 hread
    exact ⟨hpos, hle, endsAt_length hline rest, (read_append_of_line hline limit more).trans hread⟩
  · intro fault hread hended
    obtain ⟨line, rest, rfl, hline, -, rfl⟩ | ⟨-, -, rfl⟩ := read_eq_oversize_iff.1 hread
    · exact ⟨(read_append_of_line hline limit more).trans hread, endsAt_length hline rest⟩
    · cases hended
  · intro fault hread hopen
    obtain ⟨line, rest, rfl, hline, -, rfl⟩ | ⟨hnone, hlong, rfl⟩ := read_eq_oversize_iff.1 hread
    · cases hopen
    · exact ⟨hnone, read_append_of_overlong hnone hlong more⟩

/-- A frame at the limit, one that is a byte too long, and one whose delimiter has not come in, each
with the rest of another line behind it. -/
theorem read_stands_at_limit :
    let ping := Utf8.encode "PING\nEC"
    let ended := Utf8.encode "PINGS\nEC"
    let cut := Utf8.encode "PINGS"
    let more := Utf8.encode "HO a\n"
    (read 4 ping = .complete (.ping "") 5 ∧
        0 < 5 ∧ 5 ≤ ping.length ∧ EndsAt ping (5 - 1) ∧
        read 4 (ping ++ more) = .complete (.ping "") 5) ∧
      (read 4 ended = .oversize ⟨5, 4, true⟩ ∧
        read 4 (ended ++ more) = .oversize ⟨5, 4, true⟩ ∧ EndsAt ended 5) ∧
      read 4 cut = .oversize ⟨5, 4, false⟩ ∧ delimiter ∉ cut ∧
        ∃ later, read 4 (cut ++ more) = .oversize later ∧ cut.length ≤ later.size ∧
          (later.terminated = true ↔ delimiter ∈ more) := by
  intro ping ended cut more
  have hping : read 4 ping = .complete (.ping "") 5 := by decide
  have hended : read 4 ended = .oversize ⟨5, 4, true⟩ := by decide
  have hcut : read 4 cut = .oversize ⟨5, 4, false⟩ := by decide
  exact ⟨⟨hping, (read_stands 4 ping more).1 _ _ hping⟩,
    ⟨hended, (read_stands 4 ended more).2.1 _ hended rfl⟩,
    hcut, (read_stands 4 cut more).2.2.1 _ hcut rfl⟩

end Frame

end Switchboard
