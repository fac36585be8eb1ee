import Switchboard.Proofs.Text.Sequences

/-!
# Texts as bytes and back

Writing a text in UTF-8 and reading it again gives the text (`decode_encode`), because the bytes of a
character take the machine from between sequences to between sequences, and bring out the character.
-/

namespace Switchboard

namespace Utf8

variable {b : UInt8} {p q : Partial} {c : Char} (rest : Bytes)

/-- A first byte that opens a sequence yields nothing yet. -/
theorem decodeFrom_opens (h : lead b = .opens p) :
    decodeFrom none (b :: rest) = decodeFrom (some p) rest := by
  simp [decodeFrom, step, begin, h]

/-- A first byte that is complete yields its character. -/
theorem decodeFrom_ascii (h : lead b = .ascii c) :
    decodeFrom none (b :: rest) = c :: decodeFrom none rest := by
  simp [decodeFrom, step, begin, h]

/-- A byte with which no sequence begins is replaced. -/
theorem decodeFrom_stray (h : lead b = .stray) :
    decodeFrom none (b :: rest) = replacement :: decodeFrom none rest := by
  simp [decodeFrom, step, begin, h]

/-- A byte that completes a sequence yields its character. -/
theorem decodeFrom_completes (hb : p.admits b = true) (h : p.extend b = .inl c) :
    decodeFrom (some p) (b :: rest) = c :: decodeFrom none rest := by
  simp [decodeFrom, step, hb, h]

/-- A byte that continues a sequence yields nothing yet. -/
theorem decodeFrom_continues (hb : p.admits b = true) (h : p.extend b = .inr q) :
    decodeFrom (some p) (b :: rest) = decodeFrom (some q) rest := by
  simp [decodeFrom, step, hb, h]

/-- A byte that is not admitted ends the sequence with a replacement, and is read afresh. -/
theorem decodeFrom_breaks (hb : p.admits b ≠ true) :
    decodeFrom (some p) (b :: rest) = replacement :: decodeFrom none (b :: rest) := by
  simp [decodeFrom, step, hb]

/-- What completes an opened sequence brings out its character. -/
theorem decodeFrom_of_yields {bytes : Bytes} (h : p.Yields bytes c) :
    decodeFrom (some p) (bytes ++ rest) = c :: decodeFrom none rest := by
  induction bytes generalizing p with
  | nil => cases h
  | cons b later ih =>
    obtain ⟨hb, hlater⟩ := h
    rw [List.cons_append]
    cases hextend : p.extend b with
    | inl d =>
      rw [hextend] at hlater
      obtain ⟨rfl, rfl⟩ := hlater
      exact decodeFrom_completes rest hb hextend
    | inr q =>
      rw [hextend] at hlater
      rw [decodeFrom_continues _ hb hextend, ih hlater]

/-- A character has bytes. -/
theorem exists_encodeChar (c : Char) : ∃ b later, String.utf8EncodeChar c = b :: later := by
  rw [String.utf8EncodeChar]
  repeat' split
  all_goals exact ⟨_, _, rfl⟩

/-- The bytes of a character are read as the character. -/
theorem decodeFrom_encodeChar (c : Char) :
    decodeFrom none (String.utf8EncodeChar c ++ rest) = c :: decodeFrom none rest := by
  obtain ⟨b, later, hbytes⟩ := exists_encodeChar c
  rw [hbytes, List.cons_append]
  obtain ⟨hlead, rfl⟩ | ⟨p, hlead, hyields⟩ := lead_of_encodeChar hbytes
  · exact decodeFrom_ascii rest hlead
  · rw [decodeFrom_opens _ hlead, decodeFrom_of_yields rest hyields]

/-- The bytes of a text are read as the text. -/
theorem decode_encode (text : String) : decode (encode text) = text := by
  have hchars : ∀ chars : List Char,
      decodeFrom none (chars.flatMap String.utf8EncodeChar) = chars := by
    intro chars
    induction chars with
    | nil => rfl
    | cons c later ih => rw [List.flatMap_cons, decodeFrom_encodeChar, ih]
  apply String.toList_injective
  rw [toList_decode, encode_eq_flatMap, hchars]

/-- The bytes of two texts in a row are those of the first and then those of the second. -/
theorem encode_append (first second : String) :
    encode (first ++ second) = encode first ++ encode second := by
  rw [encode_eq_flatMap, String.toList_append, List.flatMap_append, ← encode_eq_flatMap,
    ← encode_eq_flatMap]

/-- Bytes are well-formed exactly if they are those of a text. -/
theorem valid?_eq_some_iff {bytes : Bytes} {text : String} :
    valid? bytes = some text ↔ encode text = bytes := by
  constructor
  · intro h
    rw [valid?] at h
    split at h
    · next hbytes =>
      obtain rfl := Option.some.inj h
      exact hbytes
    · cases h
  · rintro rfl
    rw [valid?, decode_encode]
    exact if_pos rfl

end Utf8

end Switchboard
