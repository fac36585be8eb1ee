import Switchboard.Connection.Backlog

/-!
# Receivers

A receiver turns chunks of bytes into messages. It keeps the bytes of a frame whose delimiter is
still to come. A frame that exceeds the limit is dropped whole: if its delimiter has not arrived,
the receiver lets go of what it holds and discards everything up to that delimiter.

`next` takes one message out of the buffer. It ends because each round that goes on removes at least
one byte from the buffer, and so does the message that is taken.
-/

namespace Switchboard

/-- The receiving side of a connection. -/
structure Receiver where
  /-- Bytes that wait for a delimiter. -/
  backlog : Backlog
  /-- Whether the rest of an oversize frame is being skipped. -/
  discarding : Bool
  /-- The number of oversize frames so far. -/
  dropped : Nat
  deriving Repr, DecidableEq

namespace Receiver

/-- A receiver that has received nothing. -/
def fresh : Receiver := ⟨Backlog.empty, false, 0⟩

/-- The bytes that wait for a delimiter, in the order in which they came. -/
def buffer (r : Receiver) : Bytes :=
  r.backlog.bytes

/-- The number of bytes that wait for a delimiter. -/
def buffered (r : Receiver) : Nat :=
  r.backlog.length

/-- The outcome of looking at the front of the buffer once. -/
inductive Look
  /-- A message, and the receiver without its frame. -/
  | found (message : Message) (rest : Receiver)
  /-- Nothing more to be had from these bytes. -/
  | exhausted (rest : Receiver)
  /-- An oversize frame has been cut off; look again. -/
  | again (rest : Receiver)

/-- Leave the oversize frame that is being skipped, if its delimiter is in the buffer. -/
def resume? (r : Receiver) : Option Receiver :=
  if r.discarding then
    match r.backlog.delimiterAt? with
    | some skipped => some { r with backlog := r.backlog.drop (skipped + 1), discarding := false }
    | none => none
  else some r

/-- Look at the frame at the front of the buffer, nothing being skipped. -/
def inspect (limit : Nat) (r : Receiver) : Look :=
  match r.backlog.read limit with
  | .complete message consumed => .found message { r with backlog := r.backlog.drop consumed }
  | .incomplete => .exhausted { r with backlog := r.backlog.settle }
  | .oversize fault =>
    if fault.terminated then
      .again { r with backlog := r.backlog.drop (fault.size + 1), dropped := r.dropped + 1 }
    else
      .exhausted ⟨Backlog.empty, true, r.dropped + 1⟩

/-- Look at the front of the buffer, first leaving an oversize frame that is being skipped. -/
def look (limit : Nat) (r : Receiver) : Look :=
  match r.resume? with
  | some ready => ready.inspect limit
  | none => .exhausted { r with backlog := Backlog.empty }

/-- Leaving a skipped frame never makes the buffer longer. -/
theorem resume?_length {r ready : Receiver} (h : r.resume? = some ready) :
    ready.buffer.length ≤ r.buffer.length := by
  unfold resume? at h
  split at h
  · split at h
    · obtain rfl := Option.some.inj h
      simp [buffer]
    · cases h
  · obtain rfl := Option.some.inj h
    exact Nat.le_refl _

/-- Cutting a message off makes the buffer shorter. -/
theorem inspect_found_length {limit : Nat} {r rest : Receiver} {m : Message}
    (h : r.inspect limit = .found m rest) : rest.buffer.length < r.buffer.length := by
  unfold inspect at h
  rw [Backlog.read_eq] at h
  split at h
  · next consumed hread =>
    obtain ⟨hpos, hle⟩ := Frame.read_complete_le hread
    cases h
    simp only [buffer, Backlog.bytes_drop, List.length_drop]
    omega
  · cases h
  · split at h <;> cases h

/-- Cutting an oversize frame off makes the buffer shorter. -/
theorem inspect_again_length {limit : Nat} {r rest : Receiver}
    (h : r.inspect limit = .again rest) : rest.buffer.length < r.buffer.length := by
  unfold inspect at h
  rw [Backlog.read_eq] at h
  split at h
  · cases h
  · cases h
  · next fault hread =>
    split at h
    · next ended =>
      have hlt := Frame.read_oversize_lt hread ended
      cases h
      simp only [buffer, Backlog.bytes_drop, List.length_drop]
      omega
    · cases h

/-- A look that finds a message leaves a shorter buffer. -/
theorem look_found_length {limit : Nat} {r rest : Receiver} {m : Message}
    (h : r.look limit = .found m rest) : rest.buffer.length < r.buffer.length := by
  unfold look at h
  split at h
  · next ready hready =>
    exact Nat.lt_of_lt_of_le (inspect_found_length h) (resume?_length hready)
  · cases h

/-- A look that cuts an oversize frame off leaves a shorter buffer. -/
theorem look_again_length {limit : Nat} {r rest : Receiver}
    (h : r.look limit = .again rest) : rest.buffer.length < r.buffer.length := by
  unfold look at h
  split at h
  · next ready hready =>
    exact Nat.lt_of_lt_of_le (inspect_again_length h) (resume?_length hready)
  · cases h

/-- The next message within the limit, and the receiver without everything up to its end. Oversize
frames on the way are dropped. -/
def next (limit : Nat) (r : Receiver) : Option Message × Receiver :=
  match _found : r.look limit with
  | .found message rest => (some message, rest)
  | .exhausted rest => (none, rest)
  | .again rest => rest.next limit
termination_by r.buffer.length
decreasing_by exact look_again_length _found

/-- Taking a message out makes the buffer shorter. -/
theorem next_some_length {limit : Nat} {r rest : Receiver} {m : Message}
    (h : r.next limit = (some m, rest)) : rest.buffer.length < r.buffer.length := by
  fun_induction next limit r with
  | case1 r message found hlook =>
    obtain ⟨_, rfl⟩ := Prod.mk.inj h
    exact look_found_length hlook
  | case2 => cases (Prod.mk.inj h).1
  | case3 r again hlook ih => exact Nat.lt_trans (ih h) (look_again_length hlook)

/-- Let go of all bytes, and of a frame that was being skipped. -/
def release (r : Receiver) : Receiver :=
  { r with backlog := Backlog.empty, discarding := false }

end Receiver

end Switchboard
