import Switchboard.Wire.Frame

/-!
# Backlogs

The bytes that a receiver holds. Those in front have been searched and hold no delimiter; behind
them are those that have come in since. Only the latter are searched for the end of a frame, and
none of the former is counted again, so a frame that comes in byte by byte takes no longer than one
that comes in at once.

From outside a backlog is the list `bytes`. Main statement: reading a backlog is reading its bytes
(`read_eq`), and settling it changes none of them (`bytes_settle`).
-/

namespace Switchboard

/-- Received bytes, some of which have been searched for a delimiter. -/
structure Backlog where
  /-- The bytes that have been searched, the last of them first. -/
  searched : Bytes
  /-- The number of the bytes that have been searched. -/
  size : Nat
  /-- The bytes that have not been searched. -/
  unread : Bytes
  size_eq : size = searched.length
  not_mem_searched : delimiter ∉ searched
  deriving Repr, DecidableEq

namespace Backlog

/-- Bytes none of which has been searched. -/
def ofBytes (bytes : Bytes) : Backlog where
  searched := []
  size := 0
  unread := bytes
  size_eq := rfl
  not_mem_searched := List.not_mem_nil

/-- The backlog without bytes. -/
def empty : Backlog := ofBytes []

/-- The bytes in the order in which they came. -/
def bytes (b : Backlog) : Bytes :=
  b.searched.reverse ++ b.unread

/-- The number of bytes. -/
def length (b : Backlog) : Nat :=
  b.size + b.unread.length

/-- Put bytes behind the others. -/
def append (b : Backlog) (chunk : Bytes) : Backlog :=
  { b with unread := b.unread ++ chunk }

/-- The position of the first delimiter. -/
def delimiterAt? (b : Backlog) : Option Nat :=
  (Frame.delimiterAt? b.unread).map (· + b.size)

/-- Read the first frame. -/
def read (limit : Nat) (b : Backlog) : Frame.Reading :=
  match b.delimiterAt? with
  | some size => .terminated limit (b.bytes.take size)
  | none => .unterminated limit b.length

/-- Let go of so many bytes in front. -/
def drop (count : Nat) (b : Backlog) : Backlog :=
  ofBytes (b.bytes.drop count)

/-- Remember that there is no delimiter, unless there is one. -/
def settle (b : Backlog) : Backlog :=
  if h : delimiter ∈ b.unread then b
  else
    { searched := b.unread.reverse ++ b.searched
      size := b.size + b.unread.length
      unread := []
      size_eq := by simp [b.size_eq, Nat.add_comm]
      not_mem_searched := by simp [h, b.not_mem_searched] }

/-- All bytes are there, whether they have been searched or not. -/
@[simp]
theorem bytes_ofBytes (bytes : Bytes) : (ofBytes bytes).bytes = bytes := rfl

/-- Nothing is in the empty backlog. -/
@[simp]
theorem bytes_empty : empty.bytes = [] := rfl

/-- Bytes that come in are the last ones. -/
@[simp]
theorem bytes_append (b : Backlog) (chunk : Bytes) : (b.append chunk).bytes = b.bytes ++ chunk := by
  simp [append, bytes]

/-- The bytes that are left are those behind the ones let go of. -/
@[simp]
theorem bytes_drop (count : Nat) (b : Backlog) : (b.drop count).bytes = b.bytes.drop count := rfl

/-- Settling changes nothing but what is known about the bytes. -/
@[simp]
theorem bytes_settle (b : Backlog) : b.settle.bytes = b.bytes := by
  unfold settle
  split <;> simp [bytes]

/-- The bytes are counted without a list of them being made. -/
theorem length_eq (b : Backlog) : b.length = b.bytes.length := by
  simp [length, bytes, b.size_eq]

/-- The first delimiter is among the bytes that have not been searched. -/
theorem delimiterAt?_eq (b : Backlog) : b.delimiterAt? = Frame.delimiterAt? b.bytes := by
  have none_in_front : b.searched.reverse.findIdx? (· == delimiter) = none := by
    rw [List.findIdx?_eq_none_iff]
    intro byte hbyte
    have hne : byte ≠ delimiter := fun h => b.not_mem_searched (h ▸ List.mem_reverse.1 hbyte)
    simpa using hne
  simp [delimiterAt?, Frame.delimiterAt?, bytes, List.findIdx?_append, none_in_front, b.size_eq]

/-- Reading a backlog is reading its bytes. -/
theorem read_eq (limit : Nat) (b : Backlog) : b.read limit = Frame.read limit b.bytes := by
  cases h : Frame.delimiterAt? b.bytes <;>
    simp [read, Frame.read, delimiterAt?_eq, length_eq, h]

end Backlog

end Switchboard
