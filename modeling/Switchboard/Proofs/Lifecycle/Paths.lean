import Mathlib.Data.List.Chain
import Switchboard.Proofs.Registry.Interleavings

/-!
# Paths

A path is a list of states to pass through one after the other. The table allows it from a state if
each of its states may follow the one before it; of any other path it allows a longest beginning,
which may be empty. A block that is driven along a path comes to the end of that beginning and is
stranded there: no step is taken back, and nothing behind the forbidden step is tried.

Main statement: driving succeeds exactly on the paths that the table allows, takes exactly the steps
of the longest beginning, and can be interrupted between any two steps without a difference, stamps
aside (`drive_longest`).
-/

namespace Switchboard

namespace State

variable {s target : State} {path : List State}

/-- The table allows a path from a state: each state of it may follow the one before it. -/
def Allows (s : State) (path : List State) : Prop :=
  (s :: path).IsChain fun source target => source.leadsTo target = true

/-- The longest beginning of a path that the table allows from a state. -/
structure IsLongest (s : State) (path walked : List State) : Prop where
  begins : walked <+: path
  allowed : s.Allows walked
  longest : ∀ other, other <+: path → s.Allows other → other.length ≤ walked.length

/-- The table allows a path if it allows the first step and the others from there. -/
theorem allows_cons_iff :
    s.Allows (target :: path) ↔ s.leadsTo target = true ∧ target.Allows path :=
  List.isChain_cons_cons

/-- What can be walked of a path is a beginning of it. -/
theorem walkable_begins (s : State) (path : List State) : s.walkable path <+: path := by
  induction path generalizing s with
  | nil => exact List.nil_prefix
  | cons target path ih =>
    rw [walkable]
    split
    · exact (List.prefix_cons_inj target).2 (ih target)
    · exact List.nil_prefix

/-- The table allows what can be walked. -/
theorem allows_walkable (s : State) (path : List State) : s.Allows (s.walkable path) := by
  induction path generalizing s with
  | nil => exact List.isChain_singleton s
  | cons target path ih =>
    rw [walkable]
    split
    · next hstep => exact allows_cons_iff.2 ⟨hstep, ih target⟩
    · exact List.isChain_singleton s

/-- No beginning that the table allows goes on behind what can be walked. -/
theorem length_le_walkable {other : List State} (hbegins : other <+: path)
    (hallowed : s.Allows other) : other.length ≤ (s.walkable path).length := by
  induction path generalizing s other with
  | nil => exact hbegins.length_le
  | cons target path ih =>
    cases other with
    | nil => exact Nat.zero_le _
    | cons first rest =>
      obtain ⟨rfl, hrest⟩ := List.cons_prefix_cons.1 hbegins
      obtain ⟨hstep, hallowed⟩ := allows_cons_iff.1 hallowed
      rw [walkable, if_pos hstep]
      exact Nat.succ_le_succ (ih hrest hallowed)

/-- What can be walked of a path is the longest beginning that the table allows. -/
theorem isLongest_walkable (s : State) (path : List State) :
    s.IsLongest path (s.walkable path) where
  begins := walkable_begins s path
  allowed := allows_walkable s path
  longest _ := length_le_walkable

/-- All of a path can be walked exactly if the table allows it. -/
theorem walkable_eq_self_iff : s.walkable path = path ↔ s.Allows path := by
  constructor
  · intro hall
    exact hall ▸ allows_walkable s path
  · intro hallowed
    exact (walkable_begins s path).eq_of_length_le (length_le_walkable List.prefix_rfl hallowed)

end State

namespace Block

/-- A step that the table allows is taken before the rest of the path. -/
theorem drive_cons_of_leadsTo {b : Block} {target : State} (h : b.state.leadsTo target = true)
    (now : Instant) (path : List State) :
    b.drive now (target :: path) = (b.enter target now).drive now path := by
  rw [drive, advance, if_pos h]

/-- A step that the table forbids ends the drive where it began. -/
theorem drive_cons_of_not_leadsTo {b : Block} {target : State}
    (h : ¬ b.state.leadsTo target = true) (now : Instant) (path : List State) :
    b.drive now (target :: path) = (false, b) := by
  rw [drive, advance, if_neg h]

/-- Driving along two paths in a row goes on along the second one exactly if the first has been
walked to its end. -/
theorem drive_append (b : Block) (now : Instant) (p q : List State) :
    b.drive now (p ++ q) =
      if (b.drive now p).1 then (b.drive now p).2.drive now q else b.drive now p := by
  induction p generalizing b with
  | nil => rfl
  | cons target p ih =>
    rw [List.cons_append]
    by_cases hstep : b.state.leadsTo target = true
    · rw [drive_cons_of_leadsTo hstep, drive_cons_of_leadsTo hstep, ih]
    · rw [drive_cons_of_not_leadsTo hstep, drive_cons_of_not_leadsTo hstep]
      rfl

/-- Blocks that differ in their stamps only are driven equally far, whenever that happens. -/
theorem drive_congr {b other : Block} (h : b.unstamped = other.unstamped) (now later : Instant)
    (path : List State) :
    (b.drive now path).1 = (other.drive later path).1 ∧
      (b.drive now path).2.unstamped = (other.drive later path).2.unstamped := by
  have hstate : b.unstamped.state = other.unstamped.state := congrArg state h
  change b.state = other.state at hstate
  rw [drive_eq, drive_eq, hstate]
  refine ⟨rfl, ?_⟩
  rw [unstamped_enterAll b, unstamped_enterAll other, h]

/-- A block is driven to the end of a path exactly if the table allows the path. In every case it
comes to the last state of the longest beginning that the table allows, or stays where it is if that
is empty; as many steps are counted as that beginning has, and nothing else changes but the stamp,
which stays too if no step is taken. Driving along two paths at once succeeds exactly if driving
along the first and then along the second does, whenever that happens; stamps aside, it ends with
the block with which the second drive ends, or the first one if that fails. -/
theorem drive_longest (b : Block) (now first second : Instant) :
    (∀ path,
      ((b.drive now path).1 = true ↔ b.state.Allows path) ∧
        ∃ walked, b.state.IsLongest path walked ∧
          (b.drive now path).2 =
            { b with
              state := b.state.arrival walked
              transitions := b.transitions + walked.length
              lastActivity := if walked = [] then b.lastActivity else max now b.createdAt }) ∧
      ∀ p q,
        let whole := b.drive now (p ++ q)
        let begun := b.drive first p
        let ended := begun.2.drive second q
        (whole.1 = true ↔ begun.1 = true ∧ ended.1 = true) ∧
          whole.2.unstamped = (if begun.1 then ended.2 else begun.2).unstamped := by
  constructor
  · intro path
    rw [drive_eq, ← State.walkable_eq_self_iff]
    exact ⟨decide_eq_true_iff, _, b.state.isLongest_walkable path, enterAll_eq b now _⟩
  · intro p q whole begun ended
    have hwhole : whole = if (b.drive now p).1 then (b.drive now p).2.drive now q
        else b.drive now p := drive_append b now p q
    have hsame : b.unstamped = b.unstamped := rfl
    obtain ⟨hflag, hbegun⟩ := drive_congr hsame now first p
    obtain ⟨hend, hended⟩ := drive_congr hbegun now second q
    by_cases hwalked : begun.1 = true
    · rw [hwhole, if_pos (hflag.trans hwalked), if_pos hwalked]
      refine ⟨?_, hended⟩
      rw [hend]
      exact (and_iff_right hwalked).symm
    · have hstranded : ¬ (b.drive now p).1 = true := hflag ▸ hwalked
      rw [hwhole, if_neg hstranded, if_neg hwalked]
      exact ⟨iff_of_false hstranded fun h => hwalked h.1, hbegun⟩

/-- A path that comes back to `closed` twice, and goes on from there as the table forbids. -/
example :
    let b := Block.fresh {} ⟨1⟩ default default 0 3
    b.drive 5 [.synSent, .closed, .listen, .closed, .established, .closed] =
      (false, { b with transitions := 4, lastActivity := 5 }) := by
  decide

end Block

end Switchboard
