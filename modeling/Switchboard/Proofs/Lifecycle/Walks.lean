import Switchboard.Proofs.Connection.Driving

/-!
# Walks

A connection changes its state in strides: steps of the lifecycle, which the table must allow, and
forced closings, which it need not. A walk is a list of strides each of which may be taken in the
state to which those before it have led.
-/

namespace Switchboard

/-- One change of state. -/
inductive Stride
  | step (target : State)
  | forced
  deriving Repr, DecidableEq

namespace State

/-- The number of steps that it takes at least to come to a state from `closed`. -/
def depth : State → Nat
  | closed => 0
  | listen | synSent => 1
  | synReceived | established => 2
  | finWait1 | closeWait => 3
  | finWait2 | closing | lastAck | timeWait => 4

/-- One step leads at most one deeper. -/
theorem depth_le_of_leadsTo {s target : State} (h : s.leadsTo target = true) :
    target.depth ≤ s.depth + 1 := by
  cases s <;> cases target <;> first | decide | cases h

/-- Only `closed` is reached without a step. -/
theorem depth_eq_zero {s : State} : s.depth = 0 ↔ s = .closed := by
  cases s <;> decide

end State

namespace Stride

/-- The state to which a stride leads. -/
def target : Stride → State
  | step target => target
  | forced => .closed

/-- Whether a stride may be taken: a step if the table allows it, a forced closing unless the state
is `closed` already. -/
def allowed (s : State) : Stride → Bool
  | step target => s.leadsTo target
  | forced => s ≠ .closed

/-- One stride leads at most one deeper. -/
theorem depth_le_of_allowed {s : State} {stride : Stride} (h : stride.allowed s = true) :
    stride.target.depth ≤ s.depth + 1 := by
  cases stride with
  | step target => exact State.depth_le_of_leadsTo h
  | forced => exact Nat.zero_le _

end Stride

/-- The strides lead from the first state to the last one. -/
inductive Walk : State → List Stride → State → Prop
  | nil (s : State) : Walk s [] s
  | cons {s last : State} {stride : Stride} {strides : List Stride} (h : stride.allowed s = true)
      (rest : Walk stride.target strides last) : Walk s (stride :: strides) last

namespace Walk

variable {s middle last : State} {first second : List Stride}

/-- Walks are joined where one ends and the other begins. -/
theorem append (h : Walk s first middle) (later : Walk middle second last) :
    Walk s (first ++ second) last := by
  induction h with
  | nil => exact later
  | cons hstride _ ih => exact .cons hstride (ih later)

/-- A forced closing is a walk of one stride. -/
theorem forced (h : s ≠ .closed) : Walk s [.forced] .closed :=
  .cons (decide_eq_true h) (.nil _)

/-- The steps of a path that the table allows are a walk. -/
theorem of_walkable {path : List State} (h : s.walkable path = path) :
    Walk s (path.map .step) (s.arrival path) := by
  induction path generalizing s with
  | nil => exact .nil s
  | cons target path ih =>
    rw [State.walkable] at h
    split at h
    · next hstep =>
      rw [State.arrival_cons]
      exact .cons hstep (ih (List.cons.inj h).2)
    · cases h

/-- A walk is long enough to come to where it leads. -/
theorem depth_le (h : Walk s first last) : last.depth ≤ s.depth + first.length := by
  induction h with
  | nil => exact Nat.le_refl _
  | cons hstride _ ih =>
    have hdepth := Stride.depth_le_of_allowed hstride
    rw [List.length_cons]
    omega

/-- What is forced closed has taken a step before. -/
theorem two_le_of_forced (h : Walk s first last) (hforced : .forced ∈ first) :
    2 ≤ s.depth + first.length := by
  induction h with
  | nil => cases hforced
  | @cons s last stride strides hstride _ ih =>
    rw [List.length_cons]
    rcases List.mem_cons.1 hforced with rfl | hlater
    · have hopen : s.depth ≠ 0 := fun hzero =>
        of_decide_eq_true hstride (State.depth_eq_zero.1 hzero)
      omega
    · have hdepth := Stride.depth_le_of_allowed hstride
      have hrest := ih hlater
      omega

end Walk

end Switchboard
