import Mathlib.Order.MinMax
import Switchboard.Proofs.Registry.Interleavings

/-!
# Reclamations

A pass over the connections forces those closed that are open and have been idle for long enough, as
seen from one instant. A connection that has been forced closed is not idle any more, whatever the
threshold; so of two passes seen from the same instant the second one finds what the first one left,
and together they find what one pass with the smaller threshold finds.

Main statement: a pass changes exactly the idle connections and counts them, and passes seen from one
instant compose (`reclaimed_exactly`).
-/

namespace Switchboard

namespace Connection

variable {c : Connection} {instant : Instant} {threshold first second : Nat} (now : Instant)

/-- What a pass over the connections makes of one of them. -/
def swept (c : Connection) (instant : Instant) (threshold : Nat) (now : Instant) : Connection :=
  if c.isStale instant threshold then c.forced now else c

/-- A connection is stale if it is open and nothing has happened on it for long enough. -/
theorem isStale_iff : c.isStale instant threshold = true ↔
    c.state ≠ .closed ∧ threshold ≤ instant - c.block.lastActivity := by
  rw [isStale, Bool.and_eq_true, decide_eq_true_iff, decide_eq_true_iff, Block.idleFor]

/-- A forced close takes one step, is remembered and stamped, and empties what is held; figures, ends
and the number of dropped frames stay. -/
theorem forced_eq (c : Connection) : c.forced now =
    { block :=
        { c.block with
          state := .closed
          transitions := c.block.transitions + 1
          timedOut := true
          lastActivity := max now c.block.createdAt }
      receiver := { backlog := .empty, discarding := false, dropped := c.receiver.dropped }
      inbox := .empty
      outbox := .empty } := rfl

/-- Without stamps it does not matter when a connection is forced closed. -/
theorem unstamped_forced (c : Connection) (other : Instant) :
    (c.forced now).unstamped = (c.forced other).unstamped := rfl

/-- A connection that has been forced closed is not stale. -/
theorem isStale_forced (c : Connection) : (c.forced now).isStale instant threshold = false := rfl

/-- A stale connection is changed. -/
theorem swept_ne_iff : c.swept instant threshold now ≠ c ↔ c.isStale instant threshold = true := by
  rw [swept]
  split
  · next hstale =>
    have hcounted : (c.forced now).block.transitions = c.block.transitions + 1 := rfl
    refine iff_of_true (fun heq => ?_) hstale
    rw [heq] at hcounted
    exact Nat.succ_ne_self _ hcounted.symm
  · next hstale => exact iff_of_false (fun hne => hne rfl) hstale

/-- After a pass those are stale that were and have not been forced closed. -/
theorem isStale_swept : (c.swept instant first now).isStale instant second =
    (c.isStale instant second && !c.isStale instant first) := by
  rw [swept]
  cases hstale : c.isStale instant first with
  | true => rw [if_pos rfl, isStale_forced, Bool.not_true, Bool.and_false]
  | false => rw [if_neg Bool.false_ne_true, Bool.not_false, Bool.and_true]

/-- Idle for the smaller of two times is idle for one of them. -/
theorem isStale_min : c.isStale instant (min first second) =
    (c.isStale instant first || c.isStale instant second) := by
  rw [Bool.eq_iff_iff, Bool.or_eq_true, isStale_iff, isStale_iff, isStale_iff,
    min_le_iff, and_or_left]

/-- Two passes make of a connection what one pass with the smaller threshold does, stamps aside. -/
theorem unstamped_swept_swept (c : Connection) (instant : Instant) (first second : Nat)
    (now later other : Instant) :
    ((c.swept instant first now).swept instant second later).unstamped =
      (c.swept instant (min first second) other).unstamped := by
  have honce : c.swept instant (min first second) other =
      if c.isStale instant first || c.isStale instant second then c.forced other else c := by
    rw [swept, isStale_min]
  cases hfirst : c.isStale instant first with
  | true =>
    have hswept : c.swept instant first now = c.forced now := if_pos hfirst
    have hshut : (c.forced now).swept instant second later = c.forced now :=
      if_neg (Bool.eq_false_iff.1 (isStale_forced now c))
    rw [honce, hswept, hshut, hfirst, Bool.true_or, if_pos rfl, unstamped_forced now c other]
  | false =>
    have hswept : c.swept instant first now = c := if_neg (Bool.eq_false_iff.1 hfirst)
    rw [honce, hswept, hfirst, Bool.false_or, swept]
    split
    · exact unstamped_forced later c other
    · rfl

end Connection

namespace Registry

open Connection (swept)

variable {r : Registry} {id : ConnectionId} {c : Connection}

/-- What is found after a pass. -/
theorem get?_reclaimAt_eq_swept (r : Registry) (instant : Instant) (threshold : Nat) (now : Instant)
    (id : ConnectionId) : (r.reclaimAt instant threshold now).2.get? id =
      (r.get? id).map fun c => c.swept instant threshold now :=
  get?_reclaimAt ..

/-- The connections after a pass. -/
theorem connections_reclaimAt (r : Registry) (instant : Instant) (threshold : Nat) (now : Instant) :
    (r.reclaimAt instant threshold now).2.connections =
      r.connections.map fun c => c.swept instant threshold now := by
  rw [connections_eq, entries_reclaimAt, connections_eq, List.map_map, List.map_map]
  rfl

/-- A pass counts the connections that it changes. -/
theorem count_reclaimAt (h : r.IsSound) (instant : Instant) (threshold : Nat) (now : Instant) :
    (r.reclaimAt instant threshold now).1 = (r.ids.filter fun id =>
      (r.reclaimAt instant threshold now).2.get? id ≠ r.get? id).length := by
  have hchanged : ∀ id, ((r.get? id).map fun c => c.isStale instant threshold).getD false =
      decide ((r.reclaimAt instant threshold now).2.get? id ≠ r.get? id) := by
    intro id
    rw [get?_reclaimAt_eq_swept]
    cases r.get? id with
    | none => rfl
    | some c =>
      rw [Bool.eq_iff_iff, decide_eq_true_iff, Option.map_some, Option.map_some, Option.getD_some,
        ne_eq, Option.some.injEq]
      exact (Connection.swept_ne_iff now).symm
  calc (r.reclaimAt instant threshold now).1
      = ((r.entries.map Prod.fst).filterMap r.get?).countP fun c => c.isStale instant threshold := by
        rw [← connections_eq_filterMap h]
        rfl
    _ = r.ids.countP fun id =>
          decide ((r.reclaimAt instant threshold now).2.get? id ≠ r.get? id) := by
        simp only [List.countP_filterMap, hchanged, r.ids_perm.countP_eq]
    _ = _ := List.countP_eq_length_filter

/-- The counts of two passes seen from one instant add up to that of one with the smaller
threshold. -/
theorem count_reclaimAt_reclaimAt (r : Registry) (instant : Instant) (first second : Nat)
    (now later other : Instant) :
    (r.reclaimAt instant first now).1 +
        ((r.reclaimAt instant first now).2.reclaimAt instant second later).1 =
      (r.reclaimAt instant (min first second) other).1 := by
  have hfirst : (r.reclaimAt instant first now).1 =
      (r.connections.filter fun c => c.isStale instant first).countP fun c =>
        c.isStale instant (min first second) := by
    rw [List.countP_filter]
    refine List.countP_congr fun c _ => ?_
    simp only [Connection.isStale_min, Bool.and_eq_true, Bool.or_eq_true]
    tauto
  have hsecond : ((r.reclaimAt instant first now).2.reclaimAt instant second later).1 =
      (r.connections.filter fun c => !c.isStale instant first).countP fun c =>
        c.isStale instant (min first second) := by
    rw [reclaimAt, connections_reclaimAt, List.countP_map, List.countP_filter]
    refine List.countP_congr fun c _ => ?_
    simp only [Function.comp_apply, Connection.isStale_swept, Connection.isStale_min,
      Bool.and_eq_true, Bool.or_eq_true, Bool.not_eq_true']
    grind
  rw [hfirst, hsecond, ← List.countP_eq_countP_filter_add]
  rfl

/-- A second pass with a threshold that is no smaller finds nothing. -/
theorem reclaimAt_again (r : Registry) (instant : Instant) {first second : Nat}
    (hle : first ≤ second) (now later : Instant) :
    ((r.reclaimAt instant first now).2.reclaimAt instant second later).1 = 0 := by
  have hsum := r.count_reclaimAt_reclaimAt instant first second now later now
  rw [Nat.min_eq_left hle] at hsum
  exact Nat.left_eq_add.1 hsum.symm

end Registry

/-- In every state that a history leads to, a pass over the connections closes exactly those that are
open and have been idle for at least the threshold. Each of them takes one step and is marked as
timed out; it keeps its figures, sequence number and number of dropped frames, and loses what it
holds. Everything else stays as it is, and the answer is the number of connections that have changed.

Two passes seen from the same instant leave, stamps aside, what one pass with the smaller threshold
leaves, and count together what it counts. A further pass counts nothing unless its threshold is
smaller. -/
theorem reclaimed_exactly (profile : Profile) (latency : Latency)
    (history : List (Instant × Operation)) (instant : Instant) :
    let r := ((Registry.empty profile latency).run history).2
    (∀ threshold now,
      let pass := r.reclaimAt instant threshold now
      (∀ id, r.get? id = none → pass.2.get? id = none) ∧
      (∀ id c, r.get? id = some c →
        (c.state ≠ .closed ∧ threshold ≤ instant - c.block.lastActivity) →
        pass.2.get? id = some
          { block :=
              { c.block with
                state := .closed
                transitions := c.block.transitions + 1
                timedOut := true
                lastActivity := max now c.block.createdAt }
            receiver := { backlog := .empty, discarding := false, dropped := c.receiver.dropped }
            inbox := .empty
            outbox := .empty }) ∧
      (∀ id c, r.get? id = some c →
        ¬ (c.state ≠ .closed ∧ threshold ≤ instant - c.block.lastActivity) →
        pass.2.get? id = some c) ∧
      (pass.2.profile = r.profile ∧ pass.2.latency = r.latency ∧ pass.2.lastId = r.lastId ∧
        pass.2.retired = r.retired) ∧
      pass.1 = (r.ids.filter fun id => pass.2.get? id ≠ r.get? id).length) ∧
    ∀ t₁ t₂ n₁ n₂ n,
      let first := r.reclaimAt instant t₁ n₁
      let second := first.2.reclaimAt instant t₂ n₂
      let once := r.reclaimAt instant (min t₁ t₂) n
      (∀ id, (second.2.get? id).map Connection.unstamped =
        (once.2.get? id).map Connection.unstamped) ∧
      second.2.retired = once.2.retired ∧ second.2.lastId = once.2.lastId ∧
      first.1 + second.1 = once.1 ∧
      (t₁ ≤ t₂ → second.1 = 0) := by
  intro r
  have hsound : r.IsSound := Registry.isSound_run (Registry.isSound_empty profile latency) history
  constructor
  · intro threshold now pass
    have hget : ∀ id, pass.2.get? id = (r.get? id).map fun c => c.swept instant threshold now :=
      r.get?_reclaimAt_eq_swept instant threshold now
    refine ⟨?_, ?_, ?_, ⟨rfl, rfl, rfl, rfl⟩, Registry.count_reclaimAt hsound instant threshold now⟩
    · intro id hmissing
      rw [hget, hmissing, Option.map_none]
    · intro id c hheld hidle
      rw [hget, hheld, Option.map_some, Connection.swept, if_pos (Connection.isStale_iff.2 hidle),
        Connection.forced_eq]
    · intro id c hheld hbusy
      have hstale : ¬ c.isStale instant threshold = true := fun h => hbusy (Connection.isStale_iff.1 h)
      rw [hget, hheld, Option.map_some, Connection.swept, if_neg hstale]
  · intro t₁ t₂ n₁ n₂ n first second once
    refine ⟨?_, rfl, rfl, r.count_reclaimAt_reclaimAt instant t₁ t₂ n₁ n₂ n,
      fun hle => r.reclaimAt_again instant hle n₁ n₂⟩
    intro id
    rw [Registry.get?_reclaimAt_eq_swept, Registry.get?_reclaimAt_eq_swept,
      Registry.get?_reclaimAt_eq_swept, Option.map_map, Option.map_map, Option.map_map]
    congr 1
    funext c
    exact c.unstamped_swept_swept instant t₁ t₂ n₁ n₂ n

/-- Seen from 100, three connections have been idle for 90, for 40 and not at all, because the last
one has been opened later. A pass with 50 closes the first, then one with 30 the second. -/
theorem reclaimed_exactly_three_connections :
    let history : List (Instant × Operation) :=
      [(0, .create ⟨"10.0.0.1", 1⟩ ⟨"10.0.0.2", 2⟩ 5),
        (0, .create ⟨"10.0.0.1", 3⟩ ⟨"10.0.0.2", 4⟩ 5),
        (0, .create ⟨"10.0.0.1", 5⟩ ⟨"10.0.0.2", 6⟩ 5),
        (10, .establish ⟨1⟩), (60, .establish ⟨2⟩), (120, .establish ⟨3⟩)]
    let r := ((Registry.empty {} .none).run history).2
    let first := r.reclaimAt 100 50 130
    first.2.get? ⟨4⟩ = none ∧
      (∃ c, r.get? ⟨1⟩ = some c ∧ first.2.get? ⟨1⟩ = some
        { block :=
            { c.block with
              state := .closed
              transitions := c.block.transitions + 1
              timedOut := true
              lastActivity := max 130 c.block.createdAt }
          receiver := { backlog := .empty, discarding := false, dropped := c.receiver.dropped }
          inbox := .empty
          outbox := .empty }) ∧
      (∃ c, r.get? ⟨2⟩ = some c ∧ first.2.get? ⟨2⟩ = some c) ∧
      first.1 + (first.2.reclaimAt 100 30 140).1 = (r.reclaimAt 100 30 150).1 ∧
      (r.reclaimAt 100 30 150).1 = 2 ∧ (first.2.reclaimAt 100 80 160).1 = 0 := by
  intro history r first
  have hheld : ∀ id ∈ [(⟨1⟩ : ConnectionId), ⟨2⟩], (r.get? id).isSome = true := by decide +kernel
  obtain ⟨c₁, hget₁⟩ := Option.isSome_iff_exists.1 (hheld ⟨1⟩ (by decide))
  obtain ⟨c₂, hget₂⟩ := Option.isSome_iff_exists.1 (hheld ⟨2⟩ (by decide))
  have hidle : ∀ c ∈ r.get? ⟨1⟩, c.state ≠ .closed ∧ 50 ≤ 100 - c.block.lastActivity := by
    decide +kernel
  have hbusy : ∀ c ∈ r.get? ⟨2⟩, ¬ (c.state ≠ .closed ∧ 50 ≤ 100 - c.block.lastActivity) := by
    decide +kernel
  obtain ⟨hpass, hboth⟩ := reclaimed_exactly {} .none history 100
  obtain ⟨hmissing, hclosed, hkept, -, -⟩ := hpass 50 130
  obtain ⟨-, -, -, hsum, -⟩ := hboth 50 30 130 140 150
  obtain ⟨-, -, -, -, hagain⟩ := hboth 50 80 130 160 150
  exact ⟨hmissing ⟨4⟩ (by decide +kernel), ⟨c₁, hget₁, hclosed ⟨1⟩ c₁ hget₁ (hidle c₁ hget₁)⟩,
    ⟨c₂, hget₂, hkept ⟨2⟩ c₂ hget₂ (hbusy c₂ hget₂)⟩, hsum, by decide +kernel,
    hagain (by decide)⟩

end Switchboard
