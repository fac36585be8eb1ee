import Mathlib.Algebra.Group.Nat.Defs
import Switchboard.Text.Utf8

/-!
# Sequences

The bytes of one character form a sequence. The machine that reads bytes knows after each byte what
may follow: a first byte is complete, or opens a sequence, or is stray, and a sequence that has been
opened admits certain bytes. Main statement: what may follow is exactly what completes the sequence
of some character (`encodeChar_eq_cons_iff`). So nothing overlong, no surrogate and no number beyond the
last character is ever completed, and a byte that is not admitted would complete nothing.
-/

namespace Switchboard

namespace Utf8

/-- The byte that carries six bits. -/
def sixBits (n : Nat) : UInt8 := UInt8.ofNat (n % 64 + 128)

/-- Six bits are marked by the highest bit. -/
theorem toNat_sixBits (n : Nat) : (sixBits n).toNat = n % 64 + 128 := by
  rw [sixBits, UInt8.toNat_ofNat']
  omega

/-- Only the last six bits count. -/
theorem sixBits_congr {n m : Nat} (h : n % 64 = m % 64) : sixBits n = sixBits m := by
  rw [sixBits, sixBits, h]

/-- These bytes and no others take an opened sequence to its end, and it is that of the character. -/
def Partial.Yields (p : Partial) : Bytes → Char → Prop
  | [], _ => False
  | b :: rest, c =>
    p.admits b = true ∧
      match p.extend b with
      | .inl d => rest = [] ∧ d = c
      | .inr q => q.Yields rest c

section Numbers

variable {n : Nat} {b : UInt8} {c : Char}

/-- A number that has a character is that of its character. -/
theorem toNat_ofNat (h : n.isValidChar) : (Char.ofNat n).val.toNat = n := by
  rw [Char.ofNat, dif_pos h]
  rfl

/-- A byte is determined by its number. -/
theorem ofNat_eq (h : b.toNat = n) : UInt8.ofNat n = b := by
  rw [← h, UInt8.ofNat_toNat]

end Numbers

/-- The last bytes of a sequence, each with six bits of the number of its character. -/
def continuation (n : Nat) : Nat → Bytes
  | 0 => [sixBits n]
  | after + 1 => sixBits (n / 64 ^ (after + 1)) :: continuation n after

section Encodings

variable {n : Nat}

/-- One byte. -/
theorem encodeChar_one (h : n ≤ 0x7F) :
    String.utf8EncodeChar (Char.ofNat n) = [UInt8.ofNat n] := by
  rw [String.utf8EncodeChar, toNat_ofNat (.inl (by omega))]
  exact if_pos h

/-- Two bytes. -/
theorem encodeChar_two (hlow : 0x7F < n) (hhigh : n ≤ 0x7FF) :
    String.utf8EncodeChar (Char.ofNat n) = UInt8.ofNat (n / 64 + 192) :: continuation n 0 := by
  have hlead : n / 64 % 32 = n / 64 := by omega
  rw [String.utf8EncodeChar, toNat_ofNat (.inl (by omega))]
  simp only [if_neg (Nat.not_le.2 hlow), if_pos hhigh, hlead]
  rfl

/-- Three bytes. -/
theorem encodeChar_three (hlow : 0x7FF < n) (hhigh : n ≤ 0xFFFF) (h : n.isValidChar) :
    String.utf8EncodeChar (Char.ofNat n) =
      UInt8.ofNat (n / 4096 + 224) :: continuation n 1 := by
  have hlead : n / 4096 % 16 = n / 4096 := by omega
  have hone : ¬ n ≤ 0x7F := by omega
  rw [String.utf8EncodeChar, toNat_ofNat h]
  simp only [if_neg hone, if_neg (Nat.not_le.2 hlow), if_pos hhigh, hlead]
  rfl

/-- Four bytes. -/
theorem encodeChar_four (hlow : 0xFFFF < n) (hhigh : n < 0x110000) :
    String.utf8EncodeChar (Char.ofNat n) =
      UInt8.ofNat (n / 262144 + 240) :: continuation n 2 := by
  have hlead : n / 262144 % 8 = n / 262144 := by omega
  have hone : ¬ n ≤ 0x7F := by omega
  have htwo : ¬ n ≤ 0x7FF := by omega
  rw [String.utf8EncodeChar, toNat_ofNat (.inr ⟨by omega, hhigh⟩)]
  simp only [if_neg hone, if_neg htwo, if_neg (Nat.not_le.2 hlow), hlead]
  rfl

end Encodings

section Continuations

variable {low high : UInt8} {after bits n : Nat} {rest : Bytes} {c : Char}

/-- Six bits are admitted within the bounds. -/
theorem admits_sixBits :
    (⟨low, high, after, bits⟩ : Partial).admits (sixBits n) = true ↔
      low.toNat ≤ n % 64 + 128 ∧ n % 64 + 128 ≤ high.toNat := by
  simp only [Partial.admits, Bool.and_eq_true, decide_eq_true_eq, UInt8.le_iff_toNat_le,
    toNat_sixBits]

/-- What is admitted carries six bits. -/
theorem exists_sixBits (hlow : 0x80 ≤ low.toNat) (hhigh : high.toNat ≤ 0xBF) {b : UInt8}
    (h : (⟨low, high, after, bits⟩ : Partial).admits b = true) : ∃ k < 64, b = sixBits k := by
  simp only [Partial.admits, Bool.and_eq_true, decide_eq_true_eq, UInt8.le_iff_toNat_le] at h
  refine ⟨b.toNat - 0x80, by omega, UInt8.toNat_inj.1 ?_⟩
  rw [toNat_sixBits]
  omega

/-- What completes an opened sequence carries the bits that are missing, six in a byte, within the
bounds of the next byte. -/
theorem yields_iff (hlow : 0x80 ≤ low.toNat) (hhigh : high.toNat ≤ 0xBF) :
    (⟨low, high, after, bits⟩ : Partial).Yields rest c ↔ ∃ n, n / 64 ^ (after + 1) = bits ∧
      low.toNat ≤ n / 64 ^ after % 64 + 128 ∧ n / 64 ^ after % 64 + 128 ≤ high.toNat ∧
      rest = continuation n after ∧ c = Char.ofNat n := by
  induction after generalizing low high bits rest with
  | zero =>
    simp only [Nat.pow_zero, Nat.div_one, Nat.zero_add, Nat.pow_one, continuation]
    constructor
    · intro h
      cases rest with
      | nil => cases h
      | cons b rest =>
        obtain ⟨hb, rfl, rfl⟩ := h
        obtain ⟨k, hk, rfl⟩ := exists_sixBits hlow hhigh hb
        obtain ⟨hl, hh⟩ := admits_sixBits.1 hb
        refine ⟨bits * 64 + k, by omega, by omega, by omega, ?_, ?_⟩
        · rw [sixBits_congr (m := bits * 64 + k) (by omega)]
        · rw [toNat_sixBits, Nat.mod_eq_of_lt hk, Nat.add_sub_cancel]
    · rintro ⟨n, hbits, hl, hh, rfl, rfl⟩
      refine ⟨admits_sixBits.2 ⟨hl, hh⟩, rfl, ?_⟩
      rw [toNat_sixBits, Nat.add_sub_cancel, ← hbits, Nat.div_add_mod']
  | succ after ih =>
    have hpow : ∀ n, n / 64 ^ (after + 1 + 1) = n / 64 ^ (after + 1) / 64 := by
      intro n
      rw [Nat.pow_succ, Nat.div_div_eq_div_mul]
    have hleast : 0x80 ≤ (0x80 : UInt8).toNat := by decide
    have hgreatest : (0xBF : UInt8).toNat ≤ 0xBF := by decide
    simp only [hpow, continuation]
    constructor
    · intro h
      cases rest with
      | nil => cases h
      | cons b rest =>
        obtain ⟨hb, hrest⟩ := h
        obtain ⟨k, hk, rfl⟩ := exists_sixBits hlow hhigh hb
        obtain ⟨hl, hh⟩ := admits_sixBits.1 hb
        obtain ⟨n, hbits, -, -, rfl, rfl⟩ := (ih hleast hgreatest).1 hrest
        have hlast : n / 64 ^ (after + 1) = bits * 64 + k := by
          rw [hbits, toNat_sixBits, Nat.mod_eq_of_lt hk, Nat.add_sub_cancel]
        refine ⟨n, by omega, by omega, by omega, ?_, rfl⟩
        rw [sixBits_congr (m := n / 64 ^ (after + 1)) (by omega)]
    · rintro ⟨n, hbits, hl, hh, rfl, rfl⟩
      refine ⟨admits_sixBits.2 ⟨hl, hh⟩,
        (ih hleast hgreatest).2 ⟨n, ?_, Nat.le_add_left _ _, ?_, rfl, rfl⟩⟩
      · rw [toNat_sixBits, Nat.add_sub_cancel, ← hbits, Nat.div_add_mod']
      · change _ ≤ 191
        omega

end Continuations

section Leads

variable {b : UInt8}

/-- The first byte of a sequence of two. -/
theorem lead_two (hlow : 0xC2 ≤ b.toNat) (hhigh : b.toNat < 0xE0) :
    lead b = .opens ⟨0x80, 0xBF, 0, b.toNat - 0xC0⟩ := by
  simp only [lead]
  rw [if_neg (by omega), if_neg (by omega), if_pos hhigh]

/-- The first byte of a sequence of three. The bounds of the next byte leave out the numbers of
shorter sequences, and the surrogates. -/
theorem lead_three (hlow : 0xE0 ≤ b.toNat) (hhigh : b.toNat < 0xF0) :
    ∃ low high : UInt8, lead b = .opens ⟨low, high, 1, b.toNat - 0xE0⟩ ∧
      0x80 ≤ low.toNat ∧ high.toNat ≤ 0xBF ∧ ∀ k < 64,
        (low.toNat ≤ k + 128 ∧ k + 128 ≤ high.toNat ↔
          0x20 ≤ (b.toNat - 0xE0) * 64 + k ∧
            ¬ (0x360 ≤ (b.toNat - 0xE0) * 64 + k ∧ (b.toNat - 0xE0) * 64 + k < 0x380)) := by
  simp only [lead]
  rw [if_neg (by omega), if_neg (by omega), if_neg (by omega)]
  by_cases hE0 : b.toNat = 0xE0
  · refine ⟨0xA0, 0xBF, by rw [if_pos hE0, hE0], by decide, by decide, fun k hk => ?_⟩
    simp only [UInt8.reduceToNat]
    omega
  · by_cases hED : b.toNat = 0xED
    · refine ⟨0x80, 0x9F, by rw [if_neg hE0, if_pos hED, hED], by decide, by decide, fun k hk => ?_⟩
      simp only [UInt8.reduceToNat]
      omega
    · refine ⟨0x80, 0xBF, by rw [if_neg hE0, if_neg hED, if_pos hhigh], by decide, by decide,
        fun k hk => ?_⟩
      simp only [UInt8.reduceToNat]
      omega

/-- The first byte of a sequence of four. The bounds of the next byte leave out the numbers of
shorter sequences, and those beyond the last character. -/
theorem lead_four (hlow : 0xF0 ≤ b.toNat) (hhigh : b.toNat ≤ 0xF4) :
    ∃ low high : UInt8, lead b = .opens ⟨low, high, 2, b.toNat - 0xF0⟩ ∧
      0x80 ≤ low.toNat ∧ high.toNat ≤ 0xBF ∧ ∀ k < 64,
        (low.toNat ≤ k + 128 ∧ k + 128 ≤ high.toNat ↔
          0x10 ≤ (b.toNat - 0xF0) * 64 + k ∧ (b.toNat - 0xF0) * 64 + k < 0x110) := by
  simp only [lead]
  rw [if_neg (by omega), if_neg (by omega), if_neg (by omega), if_neg (by omega),
    if_neg (by omega), if_neg (by omega)]
  by_cases hF0 : b.toNat = 0xF0
  · refine ⟨0x90, 0xBF, by rw [if_pos hF0, hF0], by decide, by decide, fun k hk => ?_⟩
    simp only [UInt8.reduceToNat]
    omega
  · by_cases hF4 : b.toNat = 0xF4
    · refine ⟨0x80, 0x8F, by rw [if_neg hF0, if_neg (by omega), if_pos hF4, hF4], by decide,
        by decide, fun k hk => ?_⟩
      simp only [UInt8.reduceToNat]
      omega
    · refine ⟨0x80, 0xBF, by rw [if_neg hF0, if_pos (by omega)], by decide, by decide,
        fun k hk => ?_⟩
      simp only [UInt8.reduceToNat]
      omega

/-- No sequence begins with any other byte. -/
theorem lead_stray (h : 0x80 ≤ b.toNat ∧ b.toNat < 0xC2 ∨ 0xF4 < b.toNat) : lead b = .stray := by
  simp only [lead]
  rcases h with ⟨hlow, hhigh⟩ | hlow
  · rw [if_neg (by omega), if_pos hhigh]
  · repeat rw [if_neg (by omega)]

/-- An ASCII byte is a character. -/
theorem lead_one (h : b.toNat < 0x80) : lead b = .ascii (Char.ofNat b.toNat) := by
  simp only [lead]
  rw [if_pos h]

end Leads

section Characters

variable {b : UInt8} {rest : Bytes} {c : Char}

/-- The bytes of a character are led by a byte that is complete or opens a sequence, and the others
complete it. -/
theorem lead_of_encodeChar (h : String.utf8EncodeChar c = b :: rest) :
    lead b = .ascii c ∧ rest = [] ∨ ∃ p, lead b = .opens p ∧ p.Yields rest c := by
  have hvalid : c.val.toNat < 0xD800 ∨ 0xDFFF < c.val.toNat ∧ c.val.toNat < 0x110000 := c.valid
  have hc : c = Char.ofNat c.val.toNat := (Char.ofNat_toNat c).symm
  generalize c.val.toNat = n at hvalid hc
  subst hc
  by_cases hone : n ≤ 0x7F
  · rw [encodeChar_one hone] at h
    obtain ⟨rfl, rfl⟩ := List.cons.inj h
    have hb : (UInt8.ofNat n).toNat = n := UInt8.toNat_ofNat_of_lt' (show _ < 256 by omega)
    have hlead := lead_one (b := UInt8.ofNat n) (by omega)
    rw [hb] at hlead
    exact .inl ⟨hlead, rfl⟩
  right
  by_cases htwo : n ≤ 0x7FF
  · rw [encodeChar_two (by omega) htwo] at h
    obtain ⟨rfl, rfl⟩ := List.cons.inj h
    have hb : (UInt8.ofNat (n / 64 + 192)).toNat = n / 64 + 192 :=
      UInt8.toNat_ofNat_of_lt' (show _ < 256 by omega)
    refine ⟨_, lead_two (by omega) (by omega), (yields_iff (by decide) (by decide)).2
      ⟨n, by omega, ?_, ?_, rfl, rfl⟩⟩
    · exact Nat.le_add_left _ _
    · simp only [UInt8.reduceToNat]
      omega
  by_cases hthree : n ≤ 0xFFFF
  · rw [encodeChar_three (by omega) hthree hvalid] at h
    obtain ⟨rfl, rfl⟩ := List.cons.inj h
    have hb : (UInt8.ofNat (n / 4096 + 224)).toNat = n / 4096 + 224 :=
      UInt8.toNat_ofNat_of_lt' (show _ < 256 by omega)
    obtain ⟨low, high, hlead, hlow, hhigh, hbounds⟩ :=
      lead_three (b := UInt8.ofNat (n / 4096 + 224)) (by omega) (by omega)
    obtain ⟨hl, hh⟩ := (hbounds (n / 64 % 64) (by omega)).2 (by omega)
    exact ⟨_, hlead, (yields_iff hlow hhigh).2 ⟨n, by omega, hl, hh, rfl, rfl⟩⟩
  · rw [encodeChar_four (by omega) (by omega)] at h
    obtain ⟨rfl, rfl⟩ := List.cons.inj h
    have hb : (UInt8.ofNat (n / 262144 + 240)).toNat = n / 262144 + 240 :=
      UInt8.toNat_ofNat_of_lt' (show _ < 256 by omega)
    obtain ⟨low, high, hlead, hlow, hhigh, hbounds⟩ :=
      lead_four (b := UInt8.ofNat (n / 262144 + 240)) (by omega) (by omega)
    obtain ⟨hl, hh⟩ := (hbounds (n / 4096 % 64) (by omega)).2 (by omega)
    exact ⟨_, hlead, (yields_iff hlow hhigh).2 ⟨n, by omega, hl, hh, rfl, rfl⟩⟩

/-- A byte that is complete is the sequence of its character, and what completes a sequence that a
byte opens makes it that of the character. -/
theorem encodeChar_of_lead
    (h : lead b = .ascii c ∧ rest = [] ∨ ∃ p, lead b = .opens p ∧ p.Yields rest c) :
    String.utf8EncodeChar c = b :: rest := by
  by_cases hone : b.toNat < 0x80
  · rw [lead_one hone] at h
    obtain ⟨hc, rfl⟩ | ⟨p, hp, -⟩ := h
    · cases hc
      rw [encodeChar_one (by omega), UInt8.ofNat_toNat]
    · cases hp
  by_cases hstray : b.toNat < 0xC2 ∨ 0xF4 < b.toNat
  · rw [lead_stray (by omega)] at h
    obtain ⟨hc, -⟩ | ⟨p, hp, -⟩ := h
    · cases hc
    · cases hp
  by_cases htwo : b.toNat < 0xE0
  · rw [lead_two (by omega) htwo] at h
    obtain ⟨hc, -⟩ | ⟨p, hp, h⟩ := h
    · cases hc
    · cases hp
      obtain ⟨n, hbits, -, -, rfl, rfl⟩ := (yields_iff (by decide) (by decide)).1 h
      rw [Nat.zero_add, Nat.pow_one] at hbits
      rw [encodeChar_two (by omega) (by omega), ofNat_eq (b := b) (by omega)]
  by_cases hthree : b.toNat < 0xF0
  · obtain ⟨low, high, hlead, hlow, hhigh, hbounds⟩ := lead_three (b := b) (by omega) hthree
    rw [hlead] at h
    obtain ⟨hc, -⟩ | ⟨p, hp, h⟩ := h
    · cases hc
    · cases hp
      obtain ⟨n, hbits, hl, hh, rfl, rfl⟩ := (yields_iff hlow hhigh).1 h
      obtain ⟨hleast, hsurrogate⟩ := (hbounds _ (by omega)).1 ⟨hl, hh⟩
      simp only [Nat.reduceAdd, Nat.reducePow, Nat.pow_one] at hbits hleast hsurrogate
      have hvalid : n < 0xD800 ∨ 0xDFFF < n ∧ n < 0x110000 := by omega
      rw [encodeChar_three (by omega) (by omega) hvalid, ofNat_eq (b := b) (by omega)]
  · obtain ⟨low, high, hlead, hlow, hhigh, hbounds⟩ := lead_four (b := b) (by omega) (by omega)
    rw [hlead] at h
    obtain ⟨hc, -⟩ | ⟨p, hp, h⟩ := h
    · cases hc
    · cases hp
      obtain ⟨n, hbits, hl, hh, rfl, rfl⟩ := (yields_iff hlow hhigh).1 h
      obtain ⟨hleast, hgreatest⟩ := (hbounds _ (by omega)).1 ⟨hl, hh⟩
      simp only [Nat.reduceAdd, Nat.reducePow] at hbits hleast hgreatest
      rw [encodeChar_four (by omega) (by omega), ofNat_eq (b := b) (by omega)]

/-- The bytes of a character are exactly a byte that is this character, or a byte that opens a
sequence and others that complete it with this character. -/
theorem encodeChar_eq_cons_iff :
    String.utf8EncodeChar c = b :: rest ↔
      lead b = .ascii c ∧ rest = [] ∨ ∃ p, lead b = .opens p ∧ p.Yields rest c :=
  ⟨lead_of_encodeChar, encodeChar_of_lead⟩

end Characters

end Utf8

end Switchboard
