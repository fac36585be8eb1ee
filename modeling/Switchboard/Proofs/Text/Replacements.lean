import Mathlib.Data.List.Induction
import Switchboard.Proofs.Text.RoundTrip
import Switchboard.Wire.Message

/-!
# What ill-formed bytes are read as

Any bytes have a text. It is found from the front: the bytes of a character spell the character; where
no character stands, the longest piece that begins like one spells one replacement character, and so
does a byte with which none begins. `Spells` says this without a machine, and the machine reads exactly
this text (`spells_iff`).

ASCII survives all of it, because no longer sequence has an ASCII byte in it. An ASCII character is
read where its byte stands and nowhere else (`ascii_mem_decode`), reading can be cut at an ASCII byte
(`decode_append_ascii`), and a text without replacements is read only from its own bytes
(`decode_eq_iff`).
-/

namespace Switchboard

namespace Utf8

/-- The bytes begin like those of a character, and are not yet all of them. -/
def Begins (bytes : Bytes) : Prop :=
  ∃ c b later, String.utf8EncodeChar c = bytes ++ b :: later

/-- No character begins with the bytes and the one that follows them, if one follows. -/
def EndsBefore (bytes rest : Bytes) : Prop :=
  ∀ b later, rest = b :: later → ∀ c more, String.utf8EncodeChar c ≠ bytes ++ b :: more

/-- The text of any bytes, every longest ill-formed piece replaced by one character. -/
inductive Spells : Bytes → List Char → Prop
  | nil : Spells [] []
  | character (c : Char) {rest : Bytes} {chars : List Char} (later : Spells rest chars) :
    Spells (String.utf8EncodeChar c ++ rest) (c :: chars)
  | piece {bytes rest : Bytes} {chars : List Char} (some : bytes ≠ []) (begun : Begins bytes)
    (longest : EndsBefore bytes rest) (later : Spells rest chars) :
    Spells (bytes ++ rest) (replacement :: chars)
  | stray {b : UInt8} {rest : Bytes} {chars : List Char}
    (none : ∀ c more, String.utf8EncodeChar c ≠ b :: more) (later : Spells rest chars) :
    Spells (b :: rest) (replacement :: chars)

section Machine

variable {b : UInt8} {p q : Partial} {c : Char} {begun bytes rest : Bytes} {chars : List Char}

/-- The machine has read these bytes of a sequence: what completes it is what the machine takes. -/
structure Opened (begun : Bytes) (p : Partial) : Prop where
  ne_nil : begun ≠ []
  low_le_high : p.low ≤ p.high
  encodeChar_iff : ∀ rest c, String.utf8EncodeChar c = begun ++ rest ↔ p.Yields rest c

/-- A sequence that has been opened can be completed. -/
theorem exists_yields (h : p.low ≤ p.high) : ∃ b later c, p.Yields (b :: later) c := by
  obtain ⟨low, high, after, bits⟩ := p
  have hlow : ∀ after bits, (⟨low, high, after, bits⟩ : Partial).admits low = true := by
    intro after bits
    rw [Partial.admits, Bool.and_eq_true, decide_eq_true_eq, decide_eq_true_eq]
    exact ⟨UInt8.le_refl low, h⟩
  induction after generalizing low high bits with
  | zero => exact ⟨low, [], _, hlow 0 bits, rfl, rfl⟩
  | succ after ih =>
    have hnext : ∀ after bits, (⟨0x80, 0xBF, after, bits⟩ : Partial).admits 0x80 = true :=
      fun _ _ => rfl
    obtain ⟨b, later, c, hyields⟩ := ih 0x80 0xBF _ (show (0x80 : UInt8) ≤ 0xBF by decide) hnext
    exact ⟨low, b :: later, c, hlow _ _, hyields⟩

/-- The bounds of the next byte leave room. -/
theorem low_le_high_of_lead (h : lead b = .opens p) : p.low ≤ p.high := by
  unfold lead at h
  simp only at h
  repeat' split at h
  all_goals cases h
  all_goals dsimp only
  all_goals decide

/-- A first byte opens its sequence. -/
theorem opened_of_lead (h : lead b = .opens p) : Opened [b] p where
  ne_nil := List.cons_ne_nil _ _
  low_le_high := low_le_high_of_lead h
  encodeChar_iff rest c := by
    rw [List.singleton_append, encodeChar_eq_cons_iff, h]
    constructor
    · rintro (⟨hc, -⟩ | ⟨q, hq, hyields⟩)
      · cases hc
      · cases hq
        exact hyields
    · exact fun hyields => .inr ⟨p, rfl, hyields⟩

/-- A byte that is admitted and completes nothing leaves a longer sequence. -/
theorem Opened.extend (h : Opened begun p) (hb : p.admits b = true) (hextend : p.extend b = .inr q) :
    Opened (begun ++ [b]) q where
  ne_nil := by simp
  low_le_high := by
    unfold Partial.extend at hextend
    simp only at hextend
    split at hextend
    · cases hextend
    · cases hextend
      dsimp only
      decide
  encodeChar_iff rest c := by
    rw [List.append_assoc, List.singleton_append, h.encodeChar_iff, Partial.Yields, hextend]
    exact and_iff_right hb

/-- A byte that completes the sequence makes it that of its character. -/
theorem Opened.encodeChar_eq (h : Opened begun p) (hb : p.admits b = true)
    (hextend : p.extend b = .inl c) : String.utf8EncodeChar c = begun ++ [b] := by
  rw [h.encodeChar_iff, Partial.Yields, hextend]
  exact ⟨hb, rfl, rfl⟩

/-- What the machine has read of a sequence begins like a character. -/
theorem Opened.begins (h : Opened begun p) : Begins begun := by
  obtain ⟨b, later, c, hyields⟩ := exists_yields h.low_le_high
  exact ⟨c, b, later, (h.encodeChar_iff _ _).2 hyields⟩

/-- A byte is admitted exactly if some character goes on with it. -/
theorem Opened.admits_iff (h : Opened begun p) :
    p.admits b = true ↔ ∃ c more, String.utf8EncodeChar c = begun ++ b :: more := by
  constructor
  · intro hb
    cases hextend : p.extend b with
    | inl c => exact ⟨c, [], h.encodeChar_eq hb hextend⟩
    | inr q =>
      obtain ⟨c, b', later, hbytes⟩ := (h.extend hb hextend).begins
      exact ⟨c, b' :: later, by rw [hbytes, List.append_assoc, List.singleton_append]⟩
  · rintro ⟨c, more, hbytes⟩
    exact ((h.encodeChar_iff _ _).1 hbytes).1

/-- A byte is stray exactly if no character begins with it. -/
theorem lead_eq_stray_iff : lead b = .stray ↔ ∀ c more, String.utf8EncodeChar c ≠ b :: more := by
  constructor
  · intro hlead c more hbytes
    obtain ⟨hc, -⟩ | ⟨p, hp, -⟩ := lead_of_encodeChar hbytes
    · cases hlead.symm.trans hc
    · cases hlead.symm.trans hp
  · intro hnone
    cases hlead : lead b with
    | ascii c => exact absurd (encodeChar_of_lead (.inl ⟨hlead, rfl⟩)) (hnone c [])
    | opens p =>
      obtain ⟨c, b', later, hbytes⟩ := (opened_of_lead hlead).begins
      exact absurd hbytes (hnone c _)
    | stray => rfl

/-- The machine reads the text that the bytes spell, those of a sequence that has been opened
included. -/
theorem spells_decodeFrom (bytes : Bytes) :
    Spells bytes (decodeFrom none bytes) ∧
      ∀ begun p, Opened begun p → Spells (begun ++ bytes) (decodeFrom (some p) bytes) := by
  induction bytes with
  | nil =>
    refine ⟨.nil, fun begun p h => .piece h.ne_nil h.begins ?_ .nil⟩
    intro b later hnil
    cases hnil
  | cons b rest ih =>
    obtain ⟨hrest, hopened⟩ := ih
    have hafresh : Spells (b :: rest) (decodeFrom none (b :: rest)) := by
      cases hlead : lead b with
      | ascii c =>
        have hbytes : String.utf8EncodeChar c = [b] := encodeChar_of_lead (.inl ⟨hlead, rfl⟩)
        rw [decodeFrom_ascii rest hlead, ← List.singleton_append, ← hbytes]
        exact .character c hrest
      | opens p =>
        rw [decodeFrom_opens rest hlead]
        exact hopened [b] p (opened_of_lead hlead)
      | stray =>
        rw [decodeFrom_stray rest hlead]
        exact .stray (lead_eq_stray_iff.1 hlead) hrest
    refine ⟨hafresh, fun begun p h => ?_⟩
    by_cases hb : p.admits b = true
    · rw [List.append_cons]
      cases hextend : p.extend b with
      | inl c =>
        rw [decodeFrom_completes rest hb hextend, ← h.encodeChar_eq hb hextend]
        exact .character c hrest
      | inr q =>
        rw [decodeFrom_continues rest hb hextend]
        exact hopened _ q (h.extend hb hextend)
    · rw [decodeFrom_breaks rest hb]
      refine .piece h.ne_nil h.begins ?_ hafresh
      intro b' later hcons c more hbytes
      obtain ⟨rfl, -⟩ := List.cons.inj hcons
      exact hb (h.admits_iff.2 ⟨c, more, hbytes⟩)

/-- Bytes that begin like a character leave the machine in a sequence. -/
theorem exists_opened (hne : bytes ≠ []) (h : Begins bytes) :
    ∃ p, Opened bytes p ∧ ∀ rest, decodeFrom none (bytes ++ rest) = decodeFrom (some p) rest := by
  induction bytes using List.reverseRecOn with
  | nil => exact absurd rfl hne
  | append_singleton bytes b ih =>
    obtain ⟨c, b', later, hbytes⟩ := h
    rw [List.append_assoc, List.singleton_append] at hbytes
    cases bytes with
    | nil =>
      obtain ⟨-, hnil⟩ | ⟨p, hlead, -⟩ := lead_of_encodeChar hbytes
      · cases hnil
      · exact ⟨p, opened_of_lead hlead, fun rest => decodeFrom_opens rest hlead⟩
    | cons first bytes =>
      obtain ⟨p, hopened, hdecode⟩ := ih (List.cons_ne_nil _ _) ⟨c, b, b' :: later, hbytes⟩
      obtain ⟨hb, hlater⟩ := (hopened.encodeChar_iff _ _).1 hbytes
      cases hextend : p.extend b with
      | inl d =>
        rw [hextend] at hlater
        cases hlater.1
      | inr q =>
        refine ⟨q, hopened.extend hb hextend, fun rest => ?_⟩
        rw [List.append_assoc, hdecode, List.singleton_append, decodeFrom_continues rest hb hextend]

/-- Bytes spell one text, and this is what the machine reads. -/
theorem spells_iff : Spells bytes chars ↔ decodeFrom none bytes = chars := by
  constructor
  · intro h
    induction h with
    | nil => rfl
    | character c _ ih => rw [decodeFrom_encodeChar, ih]
    | stray hnone _ ih => rw [decodeFrom_stray _ (lead_eq_stray_iff.2 hnone), ih]
    | @piece bytes rest chars hne hbegun hlongest _ ih =>
      obtain ⟨p, hopened, hdecode⟩ := exists_opened hne hbegun
      rw [hdecode]
      cases rest with
      | nil => rw [← ih, decodeFrom, finish, decodeFrom, finish]
      | cons b later =>
        have hb : p.admits b ≠ true := by
          intro hb
          obtain ⟨c, more, hbytes⟩ := hopened.admits_iff.1 hb
          exact hlongest b later rfl c more hbytes
        rw [decodeFrom_breaks later hb, ih]
  · rintro rfl
    exact (spells_decodeFrom bytes).1

/-- The text of any bytes is the one that they spell. -/
theorem spells_decode (bytes : Bytes) : Spells bytes (decode bytes).toList := by
  rw [toList_decode]
  exact (spells_decodeFrom bytes).1

end Machine

section Ascii

variable {b : UInt8} {c : Char} {bytes rest : Bytes} {chars : List Char}

/-- Bytes that carry six bits are no ASCII. -/
theorem le_of_mem_continuation {n after : Nat} (h : b ∈ continuation n after) : 0x80 ≤ b.toNat := by
  have hsix : ∀ n, 0x80 ≤ (sixBits n).toNat := by
    intro n
    rw [toNat_sixBits]
    omega
  induction after with
  | zero =>
    rw [List.mem_singleton.1 h]
    exact hsix _
  | succ after ih =>
    obtain rfl | hlater := List.mem_cons.1 h
    · exact hsix _
    · exact ih hlater

/-- The bytes of a character beyond ASCII are no ASCII. -/
theorem le_of_mem_encodeChar (hc : 0x80 ≤ c.val.toNat) (h : b ∈ String.utf8EncodeChar c) :
    0x80 ≤ b.toNat := by
  have hvalid : c.val.toNat < 0xD800 ∨ 0xDFFF < c.val.toNat ∧ c.val.toNat < 0x110000 := c.valid
  have hnat : c = Char.ofNat c.val.toNat := (Char.ofNat_toNat c).symm
  generalize c.val.toNat = n at hvalid hnat hc
  subst hnat
  have hfirst : ∀ (first : UInt8) (after : Nat), 0x80 ≤ first.toNat →
      String.utf8EncodeChar (Char.ofNat n) = first :: continuation n after → 0x80 ≤ b.toNat := by
    intro first after hfirst hbytes
    rw [hbytes] at h
    obtain rfl | hlater := List.mem_cons.1 h
    · exact hfirst
    · exact le_of_mem_continuation hlater
  by_cases htwo : n ≤ 0x7FF
  · refine hfirst _ 0 ?_ (encodeChar_two (by omega) htwo)
    rw [UInt8.toNat_ofNat']
    omega
  by_cases hthree : n ≤ 0xFFFF
  · refine hfirst _ 1 ?_ (encodeChar_three (by omega) hthree hvalid)
    rw [UInt8.toNat_ofNat']
    omega
  · refine hfirst _ 2 ?_ (encodeChar_four (by omega) (by omega))
    rw [UInt8.toNat_ofNat']
    omega

/-- An ASCII byte is all that its character has. -/
theorem encodeChar_ascii (hb : b.toNat < 0x80) :
    String.utf8EncodeChar (Char.ofNat b.toNat) = [b] := by
  rw [encodeChar_one (by omega), UInt8.ofNat_toNat]

/-- An ASCII byte stands in no sequence but that of its character. -/
theorem ascii_mem_encodeChar (hb : b.toNat < 0x80) :
    b ∈ String.utf8EncodeChar c ↔ c = Char.ofNat b.toNat := by
  constructor
  · intro hmem
    have hc : c.val.toNat ≤ 0x7F := by
      by_contra hwide
      have hle := le_of_mem_encodeChar (by omega) hmem
      omega
    have hnat : c = Char.ofNat c.val.toNat := (Char.ofNat_toNat c).symm
    rw [hnat, encodeChar_one hc, List.mem_singleton] at hmem
    rw [hmem, UInt8.toNat_ofNat', Nat.mod_eq_of_lt (by omega), ← hnat]
  · rintro rfl
    rw [encodeChar_ascii hb]
    exact List.mem_singleton_self b

/-- No character goes on with an ASCII byte. -/
theorem encodeChar_ne_append_ascii (hb : b.toNat < 0x80) (hne : bytes ≠ []) (c : Char)
    (more : Bytes) : String.utf8EncodeChar c ≠ bytes ++ b :: more := by
  intro hbytes
  have hc : c = Char.ofNat b.toNat := (ascii_mem_encodeChar hb).1 (by simp [hbytes])
  rw [hc, encodeChar_ascii hb] at hbytes
  cases bytes with
  | nil => exact hne rfl
  | cons first later => simp at hbytes

/-- What begins like a character has no ASCII byte in it. -/
theorem not_mem_of_begins (hb : b.toNat < 0x80) (h : Begins bytes) : b ∉ bytes := by
  intro hmem
  obtain ⟨c, b', later, hbytes⟩ := h
  have hc : c = Char.ofNat b.toNat := (ascii_mem_encodeChar hb).1 (by simp [hbytes, hmem])
  rw [hc, encodeChar_ascii hb] at hbytes
  cases bytes with
  | nil => cases hmem
  | cons first rest => simp at hbytes

/-- The character that replaces is not ASCII. -/
theorem ascii_ne_replacement (hb : b.toNat < 0x80) : Char.ofNat b.toNat ≠ replacement := by
  intro heq
  have hnat : (Char.ofNat b.toNat).val.toNat = b.toNat := toNat_ofNat (.inl (by omega))
  rw [heq] at hnat
  have hreplacement : replacement.val.toNat = 0xFFFD := rfl
  omega

/-- An ASCII character is spelt where its byte stands. -/
theorem Spells.ascii_mem_iff (h : Spells bytes chars) (hb : b.toNat < 0x80) :
    Char.ofNat b.toNat ∈ chars ↔ b ∈ bytes := by
  induction h with
  | nil => simp
  | character c _ ih => rw [List.mem_cons, List.mem_append, ih, ascii_mem_encodeChar hb, eq_comm]
  | piece hne hbegun _ _ ih =>
    rw [List.mem_cons, List.mem_append, ih, or_iff_right (ascii_ne_replacement hb),
      or_iff_right (not_mem_of_begins hb hbegun)]
  | @stray first rest chars hnone _ ih =>
    have hne : b ≠ first := by
      rintro rfl
      exact hnone _ _ (encodeChar_ascii hb)
    rw [List.mem_cons, List.mem_cons, ih, or_iff_right (ascii_ne_replacement hb), or_iff_right hne]

/-- What stands before an ASCII byte is spelt as if nothing followed, and what stands after it as if
nothing preceded. -/
theorem Spells.append_ascii (h : Spells bytes chars) (hb : b.toNat < 0x80) {later : List Char}
    (hrest : Spells rest later) :
    Spells (bytes ++ b :: rest) (chars ++ Char.ofNat b.toNat :: later) := by
  induction h with
  | nil =>
    rw [List.nil_append, List.nil_append, ← List.singleton_append, ← encodeChar_ascii hb]
    exact .character _ hrest
  | character c _ ih =>
    rw [List.append_assoc]
    exact .character c ih
  | @piece begun rest _ hne hbegun hlongest _ ih =>
    rw [List.append_assoc]
    refine .piece hne hbegun ?_ ih
    intro next more hcons
    cases rest with
    | nil =>
      obtain ⟨rfl, -⟩ := List.cons.inj hcons
      exact fun c _ => encodeChar_ne_append_ascii hb hne c _
    | cons first rest =>
      obtain ⟨rfl, -⟩ := List.cons.inj hcons
      exact hlongest _ _ rfl
  | stray hnone _ ih => exact .stray hnone ih

/-- A text in which nothing has been replaced has only its own bytes. -/
theorem Spells.eq_of_not_mem (h : Spells bytes chars) (hchars : replacement ∉ chars) :
    bytes = chars.flatMap String.utf8EncodeChar := by
  induction h with
  | nil => rfl
  | character c _ ih =>
    rw [List.flatMap_cons, ← ih fun hmem => hchars (List.mem_cons_of_mem c hmem)]
  | piece | stray => exact absurd List.mem_cons_self hchars

/-- An ASCII character is read where its byte stands, whatever the other bytes are. -/
theorem ascii_mem_decode (hb : b.toNat < 0x80) (bytes : Bytes) :
    Char.ofNat b.toNat ∈ (decode bytes).toList ↔ b ∈ bytes :=
  (spells_decode bytes).ascii_mem_iff hb

/-- Reading can be cut at an ASCII byte, whatever the other bytes are. -/
theorem decode_append_ascii (hb : b.toNat < 0x80) (bytes rest : Bytes) :
    (decode (bytes ++ b :: rest)).toList =
      (decode bytes).toList ++ Char.ofNat b.toNat :: (decode rest).toList := by
  rw [toList_decode (bytes ++ b :: rest)]
  exact spells_iff.1 ((spells_decode bytes).append_ascii hb (spells_decode rest))

/-- A text without replacements is read only from its own bytes. -/
theorem decode_eq_iff (bytes : Bytes) {text : String} (htext : replacement ∉ text.toList) :
    decode bytes = text ↔ bytes = encode text := by
  constructor
  · rintro rfl
    rw [encode_eq_flatMap]
    exact (spells_decode bytes).eq_of_not_mem htext
  · rintro rfl
    exact decode_encode text

/-- Bytes are read as a text with a newline exactly if there is a delimiter among them. -/
theorem newline_mem_decode (bytes : Bytes) :
    '\n' ∈ (decode bytes).toList ↔ delimiter ∈ bytes :=
  ascii_mem_decode (b := delimiter) (by decide) bytes

/-- A text has a delimiter among its bytes exactly if it has a newline. -/
theorem delimiter_mem_encode (text : String) : delimiter ∈ encode text ↔ '\n' ∈ text.toList := by
  rw [← newline_mem_decode, decode_encode]

end Ascii

end Utf8

end Switchboard
