/-!
# UTF-8

Text travels as bytes. `encode` writes a string in UTF-8. `decode` reads any bytes: well-formed
sequences become their characters, and every longest ill-formed piece that begins like a sequence
becomes one replacement character U+FFFD. Nothing is ever rejected, so a line of arbitrary bytes
always has a text. `valid?` reads bytes that are meant to be text, and refuses ill-formed ones.

The decoder is a one-byte machine: between bytes it only remembers a sequence that has begun, as
the bounds of the next byte, how many bytes are missing, and the bits read so far.
-/

namespace Switchboard

/-- Bytes as they travel, first byte first. -/
abbrev Bytes := List UInt8

namespace Utf8

/-- The UTF-8 bytes of a text. -/
def encode (text : String) : Bytes :=
  text.toByteArray.data.toList

/-- The bytes of a text are those of its characters, one character after the other. -/
theorem encode_eq_flatMap (text : String) :
    encode text = text.toList.flatMap String.utf8EncodeChar := by
  have h := String.toByteArray_ofList (l := text.toList)
  rw [String.ofList_toList] at h
  rw [encode, h, List.utf8Encode, List.toList_data_toByteArray]

/-- The character that stands for ill-formed bytes. -/
def replacement : Char := '\uFFFD'

/-- A sequence that has begun: the bounds of its next byte, the number of bytes that are missing
after that one, and the bits read so far. -/
structure Partial where
  low : UInt8
  high : UInt8
  after : Nat
  bits : Nat
  deriving Repr, DecidableEq

/-- What a byte means at the start of a sequence. -/
inductive Lead
  /-- A complete character. -/
  | ascii (c : Char)
  /-- The first byte of a longer sequence. -/
  | opens (sequence : Partial)
  /-- A byte with which no sequence begins. -/
  | stray
  deriving Repr, DecidableEq

/-- Classify a first byte. The bounds of the second byte exclude overlong forms (after `E0` and
`F0`), surrogates (after `ED`) and everything above U+10FFFF (after `F4`). -/
def lead (b : UInt8) : Lead :=
  let n := b.toNat
  if n < 0x80 then .ascii (Char.ofNat n)
  else if n < 0xC2 then .stray
  else if n < 0xE0 then .opens ⟨0x80, 0xBF, 0, n - 0xC0⟩
  else if n = 0xE0 then .opens ⟨0xA0, 0xBF, 1, 0⟩
  else if n = 0xED then .opens ⟨0x80, 0x9F, 1, 13⟩
  else if n < 0xF0 then .opens ⟨0x80, 0xBF, 1, n - 0xE0⟩
  else if n = 0xF0 then .opens ⟨0x90, 0xBF, 2, 0⟩
  else if n < 0xF4 then .opens ⟨0x80, 0xBF, 2, n - 0xF0⟩
  else if n = 0xF4 then .opens ⟨0x80, 0x8F, 2, 4⟩
  else .stray

/-- Whether a byte may continue a sequence. -/
def Partial.admits (p : Partial) (b : UInt8) : Bool :=
  p.low ≤ b && b ≤ p.high

/-- A sequence after one more admitted byte: a character when none is missing, otherwise the
longer sequence, whose next byte may be any continuation byte. -/
def Partial.extend (p : Partial) (b : UInt8) : Char ⊕ Partial :=
  let bits := p.bits * 64 + (b.toNat - 0x80)
  match p.after with
  | 0 => .inl (Char.ofNat bits)
  | after + 1 => .inr ⟨0x80, 0xBF, after, bits⟩

/-- The characters that a first byte yields at once, and the sequence that it begins. -/
def begin (b : UInt8) : List Char × Option Partial :=
  match lead b with
  | .ascii c => ([c], none)
  | .opens p => ([], some p)
  | .stray => ([replacement], none)

/-- One byte of decoding: the characters that it completes and the sequence that is then open. A
byte that cannot continue the open sequence ends it with a replacement and is read afresh. -/
def step (opened : Option Partial) (b : UInt8) : List Char × Option Partial :=
  match opened with
  | none => begin b
  | some p =>
    if p.admits b then
      match p.extend b with
      | .inl c => ([c], none)
      | .inr longer => ([], some longer)
    else
      (replacement :: (begin b).1, (begin b).2)

/-- The replacement that an unfinished sequence leaves at the end of the input. -/
def finish : Option Partial → List Char
  | none => []
  | some _ => [replacement]

/-- The characters of the remaining bytes, given the sequence that is open. -/
def decodeFrom (opened : Option Partial) : Bytes → List Char
  | [] => finish opened
  | b :: rest => (step opened b).1 ++ decodeFrom (step opened b).2 rest

/-- The same characters, gathered in reverse: the form that runs in constant stack. Between
sequences an ASCII byte is taken as it is. -/
def decodeOnto (done : List Char) (opened : Option Partial) : Bytes → List Char
  | [] => done.reverse ++ finish opened
  | b :: rest =>
    if opened.isNone ∧ b < 0x80 then decodeOnto (Char.ofNat b.toNat :: done) none rest
    else
      let (cs, next) := step opened b
      decodeOnto (cs.reverse ++ done) next rest

/-- Between sequences an ASCII byte is a character, and no sequence begins with it. -/
theorem step_ascii {b : UInt8} (h : b < 0x80) : step none b = ([Char.ofNat b.toNat], none) := by
  have hb : b.toNat < 0x80 := UInt8.lt_iff_toNat_lt.1 h
  simp [step, begin, lead, hb]

/-- Gathering in reverse changes nothing. -/
theorem decodeOnto_eq (done : List Char) (opened : Option Partial) (bytes : Bytes) :
    decodeOnto done opened bytes = done.reverse ++ decodeFrom opened bytes := by
  induction bytes generalizing done opened with
  | nil => rfl
  | cons b rest ih =>
    unfold decodeOnto
    split
    · next h =>
      obtain rfl := Option.isNone_iff_eq_none.1 h.1
      simp [decodeFrom, step_ascii h.2, ih]
    · simp [decodeFrom, ih]

/-- The text of any bytes, each longest ill-formed piece read as one U+FFFD. -/
def decode (bytes : Bytes) : String :=
  String.ofList (decodeOnto [] none bytes)

/-- The characters of a decoded text, by the machine that is easy to reason about. -/
theorem toList_decode (bytes : Bytes) : (decode bytes).toList = decodeFrom none bytes := by
  simp [decode, decodeOnto_eq]

/-- The text of well-formed bytes; `none` if any part is ill-formed. -/
def valid? (bytes : Bytes) : Option String :=
  let text := decode bytes
  if encode text = bytes then some text else none

end Utf8

end Switchboard
