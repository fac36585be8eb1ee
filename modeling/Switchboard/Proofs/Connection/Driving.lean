import Switchboard.Connection.Basic

/-!
# Driving

Driving a block along a path takes it through the longest beginning of the path that the table
allows, and changes nothing but its state, its transitions and its stamp (`drive_eq`,
`enterAll_eq`). The paths that open and close connections are taken completely or not at all,
because the table refuses their first step wherever it refuses any; so an opening or a closing that
is refused leaves the connection as it was.
-/

namespace Switchboard

namespace State

/-- The longest beginning of a path that the table allows. -/
def walkable : State → List State → List State
  | _, [] => []
  | s, target :: path => if s.leadsTo target then target :: target.walkable path else []

/-- The state at the end of a path. -/
def arrival (s : State) (path : List State) : State :=
  path.getLastD s

/-- The end of a path is that of its rest. -/
theorem arrival_cons (s target : State) (path : List State) :
    s.arrival (target :: path) = target.arrival path :=
  List.getLastD_cons

/-- One step that the table allows is a path that it allows. -/
theorem walkable_singleton {s target : State} (h : s.leadsTo target = true) :
    s.walkable [target] = [target] := by
  rw [walkable, if_pos h, walkable]

/-- An active opening begins at a closed connection or not at all. -/
theorem walkable_handshake (s : State) :
    s.walkable handshake = if s = .closed then handshake else [] := by
  cases s <;> rfl

/-- A passive opening begins at a connection that waits for one or not at all. -/
theorem walkable_passiveOpen (s : State) :
    s.walkable passiveOpen = if s = .listen ∨ s = .synSent then passiveOpen else [] := by
  cases s <;> rfl

end State

namespace Block

/-- Enter all states of a path, whatever the table says. -/
def enterAll (b : Block) (now : Instant) (path : List State) : Block :=
  path.foldl (fun b target => b.enter target now) b

/-- Entering the states of a path changes the state, counts the steps, and stamps the block unless
there are none. -/
theorem enterAll_eq (b : Block) (now : Instant) (path : List State) :
    b.enterAll now path =
      { b with
        state := b.state.arrival path
        transitions := b.transitions + path.length
        lastActivity := if path = [] then b.lastActivity else max now b.createdAt } := by
  induction path generalizing b with
  | nil => rfl
  | cons target path ih =>
    rw [enterAll, List.foldl_cons, ← enterAll, ih]
    simp [enter, touch, State.arrival_cons, Nat.add_assoc, Nat.add_comm 1]

/-- Driving enters the states of the longest beginning that the table allows, and succeeds if that
is the whole path. -/
theorem drive_eq (b : Block) (now : Instant) (path : List State) :
    b.drive now path =
      (decide (b.state.walkable path = path), b.enterAll now (b.state.walkable path)) := by
  induction path generalizing b with
  | nil => rfl
  | cons target path ih =>
    rw [drive, advance, State.walkable]
    by_cases hstep : b.state.leadsTo target = true
    · have hstate : (b.enter target now).state = target := rfl
      simp only [if_pos hstep, ih, hstate, List.cons.injEq, true_and]
      rfl
    · simp only [if_neg hstep]
      rfl

end Block

namespace Connection

variable {c : Connection} {path : List State} (now : Instant)

/-- The connection after its block has entered all states of a path. -/
def enterAll (c : Connection) (now : Instant) (path : List State) : Connection :=
  { c with block := c.block.enterAll now path }

/-- A step is taken if the table allows it; otherwise nothing changes. -/
theorem advance_eq (c : Connection) (target : State) :
    c.advance target now =
      if c.state.leadsTo target = true then (true, c.enterAll now [target]) else (false, c) := by
  split
  · next h =>
    have hblock : c.block.advance target now = .ok (c.block.enter target now) := if_pos h
    rw [advance, hblock]
    rfl
  · next h =>
    have hblock : c.block.advance target now =
        .error (.invalidTransition c.block.state target) := if_neg h
    rw [advance, hblock]

/-- A path that can be walked to its end is. -/
theorem drive_of_walkable (h : c.state.walkable path = path) :
    c.drive path now = (true, c.enterAll now path) := by
  have hblock : c.block.drive now path = (true, c.block.enterAll now path) := by
    rw [Block.drive_eq]
    change (decide (c.state.walkable path = path), _) = _
    rw [show c.block.state.walkable path = path from h, decide_eq_true h]
  rw [drive, hblock]
  rfl

/-- A path whose first step is forbidden changes nothing. -/
theorem drive_of_blocked (hpath : path ≠ []) (h : c.state.walkable path = []) :
    c.drive path now = (false, c) := by
  have hblock : c.block.drive now path = (false, c.block) := by
    rw [Block.drive_eq]
    change (decide (c.state.walkable path = path), c.block.enterAll now (c.state.walkable path)) = _
    rw [h, decide_eq_false hpath.symm]
    rfl
  rw [drive, hblock]

/-- A closed connection is opened actively, any other one stays as it is. -/
theorem drive_handshake (c : Connection) :
    c.drive State.handshake now =
      if c.state = .closed then (true, c.enterAll now State.handshake) else (false, c) := by
  have hwalk := State.walkable_handshake c.state
  split
  · next h => exact drive_of_walkable now (hwalk.trans (if_pos h))
  · next h => exact drive_of_blocked now (by decide) (hwalk.trans (if_neg h))

/-- A waiting connection is opened passively, any other one stays as it is. -/
theorem drive_passiveOpen (c : Connection) :
    c.drive State.passiveOpen now =
      if c.state = .listen ∨ c.state = .synSent then (true, c.enterAll now State.passiveOpen)
      else (false, c) := by
  have hwalk := State.walkable_passiveOpen c.state
  split
  · next h => exact drive_of_walkable now (hwalk.trans (if_pos h))
  · next h => exact drive_of_blocked now (by decide) (hwalk.trans (if_neg h))

/-- The connection after it has been closed in order along a path. -/
def closedAlong (c : Connection) (now : Instant) (path : List State) : Connection :=
  { c with block := (c.block.enterAll now path).markGracefullyClosed }.release

/-- Closing in order changes the state, counts the steps, stamps the block, and is remembered. -/
theorem block_closedAlong (c : Connection) (path : List State) :
    (c.closedAlong now path).block =
      { c.block with
        state := c.block.state.arrival path
        transitions := c.block.transitions + path.length
        lastActivity := if path = [] then c.block.lastActivity else max now c.block.createdAt
        gracefullyClosed := true } := by
  simp only [closedAlong, release, Block.markGracefullyClosed, Block.enterAll_eq]

/-- Closing in order keeps the frames that nobody has collected. -/
theorem outbox_closedAlong (c : Connection) (path : List State) :
    (c.closedAlong now path).outbox = c.outbox := rfl

/-- An established connection is closed along a path that can be walked to its end; any other
connection stays as it is. -/
theorem closeAlong_of_walkable (c : Connection)
    (hwalk : State.established.walkable path = path) :
    c.closeAlong path now =
      if c.state = .established then (true, c.closedAlong now path) else (false, c) := by
  rw [closeAlong]
  split
  · next h =>
    rw [drive_of_walkable now (h ▸ hwalk)]
    rfl
  · rfl

/-- An established connection is taken down, any other one stays as it is. -/
theorem closeAlong_teardown (c : Connection) :
    c.closeAlong State.teardown now =
      if c.state = .established then (true, c.closedAlong now State.teardown) else (false, c) :=
  closeAlong_of_walkable now c rfl

/-- An established connection is closed after the peer, any other one stays as it is. -/
theorem closeAlong_passiveClose (c : Connection) :
    c.closeAlong State.passiveClose now =
      if c.state = .established then (true, c.closedAlong now State.passiveClose)
      else (false, c) :=
  closeAlong_of_walkable now c rfl

/-- What is done or refused keeps whatever doing it keeps. -/
theorem keeps_of_decided {α : Type} {p : Prop} [Decidable p] {done : Connection}
    {outcome : Bool × Connection} (houtcome : outcome = if p then (true, done) else (false, c))
    (read : Connection → α) (hdone : read done = read c) : read outcome.2 = read c := by
  rw [houtcome]
  split
  · exact hdone
  · rfl

/-- The connection after it has been forced closed. -/
def forced (c : Connection) (now : Instant) : Connection :=
  { c with block := { c.block.enterAll now [.closed] with timedOut := true } }.abort

/-- A stale connection is not closed. -/
theorem open_of_isStale {instant : Instant} {threshold : Nat}
    (h : c.isStale instant threshold = true) : c.state ≠ .closed := by
  rw [isStale, Bool.and_eq_true, decide_eq_true_iff] at h
  exact h.1

/-- A stale connection is forced closed, because it is not closed. -/
theorem reclaim?_of_isStale {instant : Instant} {threshold : Nat}
    (h : c.isStale instant threshold = true) : c.reclaim? now = some (c.forced now) := by
  have hopen : c.block.state ≠ .closed := open_of_isStale h
  rw [reclaim?, Block.forceClose?, if_neg hopen]
  rfl

end Connection

end Switchboard
