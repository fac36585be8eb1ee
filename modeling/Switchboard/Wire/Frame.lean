import Switchboard.Wire.Message

/-!
# Frames

A buffer of received bytes is read one frame at a time: the bytes up to the first delimiter, if
there are not too many of them. A frame may turn out too long before its delimiter has arrived.
-/

namespace Switchboard

/-- The longest frame that is accepted unless something else is asked for. -/
def defaultFrameLimit : Nat := 65536

/-- A frame that exceeds the limit: how many of its bytes have been seen, and whether its delimiter
was among what was seen. -/
structure Oversize where
  size : Nat
  limit : Nat
  terminated : Bool
  deriving Repr, DecidableEq

/-- The wording of the error. -/
def Oversize.message (e : Oversize) : String :=
  "frame too long: " ++ toString e.size ++ " bytes (max: " ++ toString e.limit ++ ")"

namespace Frame

/-- The position of the first delimiter. -/
def delimiterAt? (buffer : Bytes) : Option Nat :=
  buffer.findIdx? (· == delimiter)

/-- What the front of a buffer holds. -/
inductive Reading
  /-- A message, and the number of bytes of its frame, delimiter included. -/
  | complete (message : Message) (consumed : Nat)
  /-- No delimiter yet, and still within the limit. -/
  | incomplete
  /-- A frame that is too long. -/
  | oversize (fault : Oversize)
  deriving Repr, DecidableEq

/-- What the bytes before a delimiter are read as. -/
def Reading.terminated (limit : Nat) (frame : Bytes) : Reading :=
  let size := frame.length
  if size > limit then .oversize ⟨size, limit, true⟩
  else .complete (Message.ofFrame frame) (size + 1)

/-- What so many bytes without a delimiter are read as. -/
def Reading.unterminated (limit size : Nat) : Reading :=
  if size > limit then .oversize ⟨size, limit, false⟩ else .incomplete

/-- Read the first frame of a buffer. -/
def read (limit : Nat) (buffer : Bytes) : Reading :=
  match delimiterAt? buffer with
  | some size => .terminated limit (buffer.take size)
  | none => .unterminated limit buffer.length

/-- A delimiter lies inside the buffer. -/
theorem delimiterAt?_lt {buffer : Bytes} {i : Nat} (h : delimiterAt? buffer = some i) :
    i < buffer.length := by
  unfold delimiterAt? at h
  obtain ⟨hlt, _⟩ := List.findIdx?_eq_some_iff_getElem.1 h
  exact hlt

/-- A complete frame lies inside the buffer, and its delimiter makes it longer than nothing. -/
theorem read_complete_le {limit consumed : Nat} {buffer : Bytes} {m : Message}
    (h : read limit buffer = .complete m consumed) : 0 < consumed ∧ consumed ≤ buffer.length := by
  unfold read at h
  split at h
  · next size hd =>
    have hlt := delimiterAt?_lt hd
    simp only [Reading.terminated, List.length_take, Nat.min_eq_left (Nat.le_of_lt hlt)] at h
    split at h
    · cases h
    · cases h
      omega
  · simp only [Reading.unterminated] at h
    split at h <;> cases h

/-- The delimiter of an oversize frame that has one lies inside the buffer. -/
theorem read_oversize_lt {limit : Nat} {buffer : Bytes} {fault : Oversize}
    (h : read limit buffer = .oversize fault) (ended : fault.terminated) :
    fault.size < buffer.length := by
  unfold read at h
  split at h
  · next size hd =>
    have hlt := delimiterAt?_lt hd
    simp only [Reading.terminated, List.length_take, Nat.min_eq_left (Nat.le_of_lt hlt)] at h
    split at h
    · cases h
      exact hlt
    · cases h
  · simp only [Reading.unterminated] at h
    split at h
    · cases h
      cases ended
    · cases h

end Frame

end Switchboard
