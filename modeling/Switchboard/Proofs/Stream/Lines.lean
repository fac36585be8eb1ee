import Switchboard.Wire.Frame

/-!
# The lines of a stream

A stream of bytes is cut at its delimiters into lines that have ended and the beginning of one that
has not. The cut is unique: it is the only way to write the stream as lines without a delimiter,
each followed by one, and a tail without a delimiter (`ofStream_eq_iff`). Cutting a longer stream
cuts the tail of the shorter one again together with the new bytes (`ofStream_append`).

What a frame limit makes of a stream is defined on its lines alone: the messages, the number of
oversize lines, and the bytes that still wait for a delimiter. Nothing here mentions a buffer.
-/

namespace Switchboard

/-- The lines of a stream: those that have ended, and the beginning of one that has not. -/
structure Lines where
  ended : List Bytes
  tail : Bytes
  deriving Repr, DecidableEq

namespace Lines

/-- The lines with one more byte in front. -/
def push (byte : UInt8) (l : Lines) : Lines :=
  if byte = delimiter then ⟨[] :: l.ended, l.tail⟩
  else match l.ended with
    | [] => ⟨[], byte :: l.tail⟩
    | line :: later => ⟨(byte :: line) :: later, l.tail⟩

/-- Cut a stream at its delimiters. -/
def ofStream : Bytes → Lines
  | [] => ⟨[], []⟩
  | byte :: stream => (ofStream stream).push byte

/-- The stream that has these lines. -/
def stream (l : Lines) : Bytes :=
  (l.ended.flatMap fun line => line ++ [delimiter]) ++ l.tail

/-- No delimiter inside a line. -/
def IsCut (l : Lines) : Prop :=
  (∀ line ∈ l.ended, delimiter ∉ line) ∧ delimiter ∉ l.tail

/-- There are lines of every length. -/
theorem exists_line (n : Nat) : ∃ line : Bytes, line.length = n ∧ delimiter ∉ line := by
  refine ⟨List.replicate n 0, List.length_replicate, fun hmem => ?_⟩
  exact absurd (List.mem_replicate.1 hmem).2 (by decide)

/-- Bytes without a delimiter are the beginning of a line. -/
theorem ofStream_of_not_mem {bytes : Bytes} (h : delimiter ∉ bytes) :
    ofStream bytes = ⟨[], bytes⟩ := by
  induction bytes with
  | nil => rfl
  | cons byte rest ih =>
    have hbyte : byte ≠ delimiter := fun hb => h (by simp [hb])
    have hrest : delimiter ∉ rest := fun hr => h (List.mem_cons_of_mem _ hr)
    simp [ofStream, push, hbyte, ih hrest]

/-- The first delimiter ends the first line. -/
theorem ofStream_line {line : Bytes} (h : delimiter ∉ line) (rest : Bytes) :
    ofStream (line ++ delimiter :: rest) =
      ⟨line :: (ofStream rest).ended, (ofStream rest).tail⟩ := by
  induction line with
  | nil => simp [ofStream, push]
  | cons byte more ih =>
    have hbyte : byte ≠ delimiter := fun hb => h (by simp [hb])
    have hmore : delimiter ∉ more := fun hm => h (List.mem_cons_of_mem _ hm)
    simp [ofStream, push, hbyte, ih hmore]

/-- Cutting cuts everywhere. -/
theorem isCut_ofStream (bytes : Bytes) : (ofStream bytes).IsCut := by
  induction bytes with
  | nil => simp [ofStream, IsCut]
  | cons byte rest ih =>
    obtain ⟨hended, htail⟩ := ih
    unfold ofStream push
    split
    · exact ⟨by simpa using hended, htail⟩
    · next hbyte =>
      split
      · exact ⟨by simp, by simp [Ne.symm hbyte, htail]⟩
      · next line later hlines =>
        simp only [hlines, List.mem_cons, forall_eq_or_imp] at hended
        exact ⟨by simpa [Ne.symm hbyte] using hended, htail⟩

/-- Cutting loses nothing. -/
theorem stream_ofStream (bytes : Bytes) : (ofStream bytes).stream = bytes := by
  induction bytes with
  | nil => rfl
  | cons byte rest ih =>
    unfold ofStream push
    split
    · next hbyte => simpa [stream, hbyte] using ih
    · split
      · next hnone => simpa [stream, hnone] using ih
      · next line later hlines => simpa [stream, hlines] using ih

/-- Lines without a delimiter inside are found again. -/
theorem ofStream_stream {l : Lines} (h : l.IsCut) : ofStream l.stream = l := by
  obtain ⟨ended, tail⟩ := l
  obtain ⟨hended, htail⟩ := h
  induction ended with
  | nil => simpa [stream] using ofStream_of_not_mem htail
  | cons line later ih =>
    simp only [List.mem_cons, forall_eq_or_imp] at hended
    have hlater := ih hended.2 htail
    have hsplit : stream ⟨line :: later, tail⟩ = line ++ delimiter :: stream ⟨later, tail⟩ := by
      simp [stream]
    rw [hsplit, ofStream_line hended.1, hlater]

/-- The cut of a stream is the only one that loses nothing and cuts everywhere. -/
theorem ofStream_eq_iff {bytes : Bytes} {l : Lines} :
    ofStream bytes = l ↔ l.stream = bytes ∧ l.IsCut := by
  constructor
  · rintro rfl
    exact ⟨stream_ofStream bytes, isCut_ofStream bytes⟩
  · rintro ⟨rfl, hcut⟩
    exact ofStream_stream hcut

/-- A stream is a beginning of a line, or a line and its delimiter before another stream. -/
theorem stream_induction {motive : Bytes → Prop}
    (tail : ∀ bytes, delimiter ∉ bytes → motive bytes)
    (line : ∀ line rest, delimiter ∉ line → motive rest → motive (line ++ delimiter :: rest))
    (bytes : Bytes) : motive bytes := by
  obtain ⟨hended, htail⟩ := isCut_ofStream bytes
  rw [← stream_ofStream bytes]
  generalize ofStream bytes = l at hended htail ⊢
  obtain ⟨ended, rest⟩ := l
  induction ended with
  | nil => simpa [stream] using tail rest htail
  | cons first later ih =>
    simp only [List.mem_cons, forall_eq_or_imp] at hended
    have hlater := line first _ hended.1 (ih hended.2 htail)
    simpa [stream] using hlater

/-- More bytes continue the tail, and leave the lines that have ended alone. -/
theorem ofStream_append (first second : Bytes) :
    ofStream (first ++ second) =
      ⟨(ofStream first).ended ++ (ofStream ((ofStream first).tail ++ second)).ended,
        (ofStream ((ofStream first).tail ++ second)).tail⟩ := by
  induction first using stream_induction with
  | tail bytes h => simp [ofStream_of_not_mem h]
  | line line rest h ih => simp [ofStream_line h, ih]

/-- Bytes without a delimiter lengthen the tail. -/
theorem ofStream_append_of_not_mem (stream : Bytes) {bytes : Bytes} (h : delimiter ∉ bytes) :
    ofStream (stream ++ bytes) = ⟨(ofStream stream).ended, (ofStream stream).tail ++ bytes⟩ := by
  have hall : delimiter ∉ (ofStream stream).tail ++ bytes := by
    simp [(isCut_ofStream stream).2, h]
  rw [ofStream_append, ofStream_of_not_mem hall, List.append_nil]

/-- A delimiter that comes in ends the tail. -/
theorem ofStream_append_line (stream : Bytes) {line : Bytes} (h : delimiter ∉ line)
    (rest : Bytes) :
    ofStream (stream ++ (line ++ delimiter :: rest)) =
      ⟨(ofStream stream).ended ++ ((ofStream stream).tail ++ line) :: (ofStream rest).ended,
        (ofStream rest).tail⟩ := by
  have hall : delimiter ∉ (ofStream stream).tail ++ line := by
    simp [(isCut_ofStream stream).2, h]
  rw [ofStream_append, ← List.append_assoc, ofStream_line hall]

/-- What a limit accepts of the lines that have ended, read as messages. -/
def messages (limit : Nat) (l : Lines) : List Message :=
  (l.ended.filter fun line => line.length ≤ limit).map Message.ofFrame

/-- How many lines are longer than a limit allows, an unfinished one included. -/
def oversize (limit : Nat) (l : Lines) : Nat :=
  (l.ended.countP fun line => limit < line.length) + if limit < l.tail.length then 1 else 0

/-- The bytes that wait for a delimiter: the tail, unless it is too long already. -/
def waiting (limit : Nat) (l : Lines) : Bytes :=
  if limit < l.tail.length then [] else l.tail

/-- A line in front adds its message if it is accepted. -/
theorem messages_cons (limit : Nat) (line : Bytes) (l : Lines) :
    messages limit ⟨line :: l.ended, l.tail⟩ =
      (if line.length ≤ limit then [Message.ofFrame line] else []) ++ l.messages limit := by
  by_cases h : line.length ≤ limit <;> simp [messages, h]

/-- A line in front adds to the oversize lines if it is one. -/
theorem oversize_cons (limit : Nat) (line : Bytes) (l : Lines) :
    oversize limit ⟨line :: l.ended, l.tail⟩ =
      (if limit < line.length then 1 else 0) + l.oversize limit := by
  simp only [oversize, List.countP_cons, decide_eq_true_eq]
  omega

/-- Messages follow the order of the lines. -/
theorem messages_append (limit : Nat) (front : List Bytes) (l : Lines) :
    messages limit ⟨front ++ l.ended, l.tail⟩ =
      messages limit ⟨front, []⟩ ++ l.messages limit := by
  simp [messages]

/-- A line that comes in after a stream adds its message if it is accepted together with the tail of
the stream. -/
theorem messages_append_line (limit : Nat) (stream : Bytes) {line : Bytes} (h : delimiter ∉ line) :
    (ofStream (stream ++ (line ++ [delimiter]))).messages limit =
      (ofStream stream).messages limit ++
        if (ofStream stream).tail.length + line.length ≤ limit then
          [Message.ofFrame ((ofStream stream).tail ++ line)]
        else [] := by
  rw [ofStream_append_line stream h, ofStream]
  by_cases hfits : (ofStream stream).tail.length + line.length ≤ limit <;> simp [messages, hfits]

/-- The oversize lines in front and those behind are all of them. -/
theorem oversize_append (limit : Nat) (front : List Bytes) (l : Lines) :
    oversize limit ⟨front ++ l.ended, l.tail⟩ = oversize limit ⟨front, []⟩ + l.oversize limit := by
  simp [oversize, Nat.add_assoc]

/-- Lines that have ended are read as messages, unless they are oversize. -/
theorem length_messages_add_oversize (limit : Nat) (ended : List Bytes) :
    (messages limit ⟨ended, []⟩).length + oversize limit ⟨ended, []⟩ = ended.length := by
  have hsplit := List.length_eq_countP_add_countP (l := ended) fun line => decide (line.length ≤ limit)
  simpa [messages, oversize, List.countP_eq_length_filter] using hsplit.symm

end Lines

end Switchboard
