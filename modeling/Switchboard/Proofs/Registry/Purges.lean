import Switchboard.Proofs.Registry.Distribution
import Switchboard.Proofs.Registry.Outcomes
import Switchboard.Proofs.Registry.Reclamations
import Switchboard.Registry.Sweeper

/-!
# Purges

A purge removes the connections that have been open and are closed again. Their figures go into the
tally, so whatever the census adds up over all connections stays the same, and what it says only of
those that are held falls by the ones that are gone.

A connection that is forced closed has taken a step, so it is finished. Hence a pass of the sweeper
that removes what is finished leaves nothing that is stale, and removes at least what it has forced
closed.

Main statement: a purge removes exactly the finished connections, and a pass of the sweeper leaves
only connections that were never opened or are open and busy (`purged_exactly`).
-/

namespace Switchboard

/-- A connection is finished if it is closed and has been open. -/
theorem Block.isFinished_iff {b : Block} :
    b.isFinished = true ↔ b.state = .closed ∧ 0 < b.transitions := by
  rw [isFinished, Bool.and_eq_true, decide_eq_true_iff, decide_eq_true_iff]

/-- A connection that has been forced closed is finished. -/
theorem Connection.isFinished_forced (c : Connection) (now : Instant) :
    (c.forced now).block.isFinished = true :=
  Block.isFinished_iff.2 ⟨rfl, Nat.succ_pos _⟩

namespace Registry

variable (r : Registry)

/-- The connections that are finished. -/
def finished : List Connection :=
  r.connections.filter fun c => c.block.isFinished

/-- The finished connections are those found under the listed ids that are closed and have taken a
step. -/
theorem finished_perm {r : Registry} (h : r.IsSound) :
    r.finished.Perm ((r.ids.filterMap r.get?).filter fun c =>
      c.state = .closed ∧ 0 < c.block.transitions) := by
  have htest : (fun c : Connection => c.block.isFinished) =
      fun c => decide (c.state = .closed ∧ 0 < c.block.transitions) := by
    funext c
    rw [Bool.eq_iff_iff, Block.isFinished_iff, decide_eq_true_iff]
    rfl
  rw [finished, htest]
  exact (connections_perm_ids h).filter _

/-- The connections that a purge leaves. -/
theorem connections_purge :
    r.purge.2.connections = r.connections.filter fun c => !c.block.isFinished := by
  have hentries : r.purge.2.entries = r.entries.filter fun e => !e.2.block.isFinished :=
    Shards.entries_retain r.shards fun c => !c.block.isFinished
  rw [connections_eq, connections_eq, hentries, List.filter_map]
  rfl

/-- A purge leaves nothing to another one. -/
theorem purge_again : r.purge.2.purge.1 = 0 := by
  change (r.purge.2.connections.filter fun c => c.block.isFinished).length = 0
  rw [connections_purge, List.filter_filter, List.length_eq_zero_iff, List.filter_eq_nil_iff]
  intro c _
  simp

section Figures

/-- A purge keeps the figures that are added up over all connections. -/
theorem total_purge (h : r.IsSound) (f : Figure) :
    f.ofCensus r.purge.2.census = f.ofCensus r.census := by
  rw [ofCensus_census, ofCensus_census]
  exact total_of_purge (effected_purge h 0) f

/-- A purge keeps the number of connections that have an outcome. -/
theorem outcome_purge (o : Outcome) : o.ofCensus r.purge.2.census = o.ofCensus r.census := by
  have hcensus : ∀ r : Registry, o.ofCensus r.census =
      o.ofTally r.retired + r.connections.countP fun c => o.ofBlock c.block := by
    intro r
    cases o <;> rfl
  have hretired : o.ofTally r.purge.2.retired =
      o.ofTally r.retired + r.finished.countP fun c => o.ofBlock c.block :=
    o.ofTally_foldl_absorb r.finished r.retired
  rw [hcensus, hcensus, hretired, connections_purge, Nat.add_assoc, finished,
    ← List.countP_eq_countP_filter_add]

/-- A figure over the connections that are held falls by what it is over the finished ones. -/
theorem sum_purge (figure : Connection → Nat) :
    Census.sum r.purge.2.connections figure + (r.finished.map figure).sum =
      Census.sum r.connections figure := by
  rw [census_sum, census_sum, connections_purge, finished, Nat.add_comm]
  exact sum_map_filter_add r.connections figure fun c => c.block.isFinished

/-- All finished connections are closed. -/
theorem countIn_finished (s : State) :
    Census.countIn r.finished s = if s = .closed then r.finished.length else 0 := by
  have hclosed : ∀ c ∈ r.finished, c.state = .closed := fun c hc =>
    (Block.isFinished_iff.1 (List.mem_filter.1 hc).2).1
  split
  · next hs =>
    rw [Census.countIn, List.countP_eq_length]
    intro c hc
    exact decide_eq_true ((hclosed c hc).trans hs.symm)
  · next hs =>
    rw [Census.countIn, List.countP_eq_zero]
    intro c hc hstate
    exact hs ((of_decide_eq_true hstate).symm.trans (hclosed c hc))

/-- The number of connections in a state falls by the finished ones if the state is `closed`, and
stays the same otherwise. -/
theorem countIn_purge (s : State) :
    Census.countIn r.purge.2.connections s + (if s = .closed then r.purge.1 else 0) =
      Census.countIn r.connections s := by
  have hsplit := List.countP_eq_countP_filter_add r.connections (fun c => decide (c.state = s))
    fun c => c.block.isFinished
  have hfinished := r.countIn_finished s
  rw [connections_purge]
  exact (hsplit.trans ((Nat.add_comm ..).trans (congrArg _ hfinished))).symm

/-- The number of connections in a state other than `closed` stays the same. -/
theorem countIn_purge_of_ne {s : State} (hs : s ≠ .closed) :
    Census.countIn r.purge.2.connections s = Census.countIn r.connections s := by
  have hcount := r.countIn_purge s
  rwa [if_neg hs, Nat.add_zero] at hcount

/-- The number of connections that are held falls by the finished ones. -/
theorem length_purge : r.purge.2.connections.length + r.purge.1 = r.connections.length := by
  rw [connections_purge, Nat.add_comm]
  exact (List.length_eq_length_filter_add fun c : Connection => c.block.isFinished).symm

end Figures

section Passes

variable {r} {id : ConnectionId} {c : Connection}

/-- A purge removes a finished connection. -/
theorem get?_purge_of_isFinished (hget : r.get? id = some c) (h : c.block.isFinished = true) :
    r.purge.2.get? id = none := by
  rw [get?_purge, hget, Option.filter_some, h]
  rfl

/-- A purge keeps any other connection. -/
theorem get?_purge_of_not_isFinished (hget : r.get? id = some c)
    (h : ¬ c.block.isFinished = true) : r.purge.2.get? id = some c := by
  rw [get?_purge, hget, Option.filter_some, Bool.eq_false_iff.2 h]
  rfl

variable (instant : Instant) (threshold : Nat) (now : Instant)

/-- What is left when the stale connections have been forced closed and the finished ones removed is
what was neither stale nor finished. -/
theorem get?_purge_reclaimAt :
    (r.reclaimAt instant threshold now).2.purge.2.get? id = some c ↔
      r.get? id = some c ∧ c.isStale instant threshold = false ∧ c.block.isFinished = false := by
  rw [get?_purge, get?_reclaimAt_eq_swept, Option.filter_eq_some_iff, Option.map_eq_some_iff]
  constructor
  · rintro ⟨⟨c₀, hget, rfl⟩, hunfinished⟩
    rw [Bool.not_eq_true'] at hunfinished
    cases hstale : c₀.isStale instant threshold with
    | true =>
      rw [Connection.swept, if_pos hstale, Connection.isFinished_forced] at hunfinished
      cases hunfinished
    | false =>
      have hkept : c₀.swept instant threshold now = c₀ := if_neg (Bool.eq_false_iff.1 hstale)
      rw [hkept] at hunfinished ⊢
      exact ⟨hget, hstale, hunfinished⟩
  · rintro ⟨hget, hstale, hunfinished⟩
    have hkept : c.swept instant threshold now = c := if_neg (Bool.eq_false_iff.1 hstale)
    exact ⟨⟨c, hget, hkept⟩, by rw [hunfinished]; rfl⟩

/-- What is left was there before, and was never opened or is open and not idle for too long. -/
theorem lives_of_get?_purge_reclaimAt
    (hget : (r.reclaimAt instant threshold now).2.purge.2.get? id = some c) :
    r.get? id = some c ∧ (c.state = .closed ∧ c.block.transitions = 0 ∨
      c.state ≠ .closed ∧ instant - c.block.lastActivity < threshold) := by
  obtain ⟨hbefore, hstale, hdone⟩ := (get?_purge_reclaimAt ..).1 hget
  rw [Bool.eq_false_iff, ne_eq, Connection.isStale_iff] at hstale
  rw [Bool.eq_false_iff, ne_eq, Block.isFinished_iff] at hdone
  refine ⟨hbefore, ?_⟩
  by_cases hclosed : c.state = .closed
  · exact .inl ⟨hclosed, Nat.eq_zero_of_not_pos fun hstep => hdone ⟨hclosed, hstep⟩⟩
  · exact .inr ⟨hclosed, Nat.lt_of_not_le fun hidle => hstale ⟨hclosed, hidle⟩⟩

/-- What was stale is gone. -/
theorem get?_purge_reclaimAt_of_isStale (hget : r.get? id = some c)
    (hstale : c.isStale instant threshold = true) :
    (r.reclaimAt instant threshold now).2.purge.2.get? id = none := by
  refine Option.eq_none_iff_forall_ne_some.2 fun c' hleft => ?_
  obtain ⟨hbefore, hfresh, -⟩ := (get?_purge_reclaimAt ..).1 hleft
  obtain rfl := Option.some.inj (hget.symm.trans hbefore)
  rw [hstale] at hfresh
  cases hfresh

/-- A purge after a pass over the connections removes at least as many as the pass has forced
closed. -/
theorem count_reclaimAt_le_purge (r : Registry) :
    (r.reclaimAt instant threshold now).1 ≤ (r.reclaimAt instant threshold now).2.purge.1 := by
  change r.connections.countP _ ≤ ((r.reclaimAt instant threshold now).2.connections.filter _).length
  rw [connections_reclaimAt, ← List.countP_eq_length_filter, List.countP_map]
  refine List.countP_mono_left fun c _ hstale => ?_
  have hswept : c.swept instant threshold now = c.forced now := if_pos hstale
  rw [Function.comp_apply, hswept]
  exact Connection.isFinished_forced c now

end Passes

end Registry

/-- In every state that a history leads to, a purge removes exactly the connections that are closed
and have taken a step, and counts them; a second one finds nothing. Every figure that the census adds
up over all connections stays the same, and so does the number of established ones; the number of
connections that are held, and of those held in `closed`, falls by the number of those that are
removed, and the number of dropped frames by theirs.

A pass of the sweeper that removes what is finished leaves of what there was only connections that
were never opened, and open ones that are not idle for too long. What it forces closed is gone, and it
removes at least as many as it forces closed. -/
theorem purged_exactly (profile : Profile) (latency : Latency)
    (history : List (Instant × Operation)) :
    let r := ((Registry.empty profile latency).run history).2
    let purge := r.purge
    let finished := (r.ids.filterMap r.get?).filter fun c =>
      c.state = .closed ∧ 0 < c.block.transitions
    let before := r.census
    let after := purge.2.census
    ((∀ id c, r.get? id = some c → c.state = .closed ∧ 0 < c.block.transitions →
        purge.2.get? id = none) ∧
      (∀ id c, r.get? id = some c → ¬ (c.state = .closed ∧ 0 < c.block.transitions) →
        purge.2.get? id = some c) ∧
      (∀ id, r.get? id = none → purge.2.get? id = none) ∧
      purge.2.profile = r.profile ∧ purge.2.latency = r.latency ∧ purge.2.lastId = r.lastId) ∧
    (purge.1 = finished.length ∧ purge.2.purge.1 = 0) ∧
    (after.total = before.total ∧ after.closed = before.closed ∧
      after.timedOut = before.timedOut ∧ after.bytesSent = before.bytesSent ∧
      after.bytesReceived = before.bytesReceived ∧ after.packetsSent = before.packetsSent ∧
      after.packetsReceived = before.packetsReceived ∧ after.transitions = before.transitions ∧
      after.active = before.active) ∧
    (after.current + purge.1 = before.current ∧
      after.inState .closed + purge.1 = before.inState .closed ∧
      ∀ s ≠ .closed, ∀ n, (s, n) ∈ after.distribution ↔ (s, n) ∈ before.distribution) ∧
    after.framesDropped + (finished.map fun c => c.receiver.dropped).sum = before.framesDropped ∧
    ∀ plan : SweepPlan, plan.purges = true → ∀ now,
      let pass := r.sweep plan now
      (∀ id c, pass.2.get? id = some c → r.get? id = some c ∧
        (c.state = .closed ∧ c.block.transitions = 0 ∨
          c.state ≠ .closed ∧ now - c.block.lastActivity < plan.idleTimeout)) ∧
      (∀ id c, r.get? id = some c →
        c.state ≠ .closed ∧ plan.idleTimeout ≤ now - c.block.lastActivity →
        pass.2.get? id = none) ∧
      pass.1.1 = ((r.ids.filterMap r.get?).filter fun c =>
        c.state ≠ .closed ∧ plan.idleTimeout ≤ now - c.block.lastActivity).length ∧
      pass.1.1 ≤ pass.1.2 := by
  intro r purge finished before after
  have hsound : r.IsSound := Registry.isSound_run (Registry.isSound_empty profile latency) history
  have hfinished : r.finished.Perm finished := Registry.finished_perm hsound
  refine ⟨⟨fun id c hget h => Registry.get?_purge_of_isFinished hget (Block.isFinished_iff.2 h),
    fun id c hget h =>
      Registry.get?_purge_of_not_isFinished hget fun hdone => h (Block.isFinished_iff.1 hdone),
    fun id hget => ?_, rfl, rfl, rfl⟩, ⟨hfinished.length_eq, r.purge_again⟩,
    ⟨r.total_purge hsound .connections, r.outcome_purge .closed, r.outcome_purge .timedOut,
      r.total_purge hsound .bytesSent, r.total_purge hsound .bytesReceived,
      r.total_purge hsound .packetsSent, r.total_purge hsound .packetsReceived,
      r.total_purge hsound .transitions, r.countIn_purge_of_ne (by decide)⟩,
    ⟨r.length_purge, ?_, fun s hs n => ?_⟩, ?_, ?_⟩
  · rw [Registry.get?_purge, hget]
    rfl
  · rw [Registry.inState_census, Registry.inState_census]
    exact r.countIn_purge .closed
  · rw [Registry.mem_distribution, Registry.mem_distribution, r.countIn_purge_of_ne hs]
  · rw [← (hfinished.map _).sum_nat]
    exact r.sum_purge fun c => c.receiver.dropped
  · intro plan hplan now pass
    have hpass : pass = (((r.reclaimAt now plan.idleTimeout now).1,
        (r.reclaimAt now plan.idleTimeout now).2.purge.1),
        (r.reclaimAt now plan.idleTimeout now).2.purge.2) := if_pos hplan
    rw [hpass]
    refine ⟨fun id c => Registry.lives_of_get?_purge_reclaimAt now plan.idleTimeout now,
      fun id c hget hstale => Registry.get?_purge_reclaimAt_of_isStale now plan.idleTimeout now hget
        (Connection.isStale_iff.2 hstale),
      ?_, r.count_reclaimAt_le_purge now plan.idleTimeout now⟩
    rw [← List.countP_eq_length_filter, ← (Registry.connections_perm_ids hsound).countP_eq]
    refine List.countP_congr fun c _ => ?_
    rw [Connection.isStale_iff, decide_eq_true_iff]

/-- Of four connections the first has been closed, after it had dropped a frame; the second was never
opened, and the last two were opened long before 100 and just before. A purge removes the first, and
a pass at 100 the third as well. -/
theorem purged_exactly_four_connections :
    let ends : Endpoint × Endpoint := (⟨"10.0.0.1", 1⟩, ⟨"10.0.0.2", 2⟩)
    let create := Operation.create ends.1 ends.2 5
    let history : List (Instant × Operation) :=
      [(0, create), (0, create), (0, create), (0, create), (1, .establish ⟨1⟩),
        (2, .deliver ⟨1⟩ (Utf8.encode "PING a\nPING\n")), (3, .close ⟨1⟩), (10, .establish ⟨3⟩),
        (90, .establish ⟨4⟩)]
    let r := ((Registry.empty { frameLimit := 4 } .none).run history).2
    let plan : SweepPlan := { idleTimeout := 50, purges := true }
    let pass := r.sweep plan 100
    let finished := (r.ids.filterMap r.get?).filter fun c =>
      c.state = .closed ∧ 0 < c.block.transitions
    r.purge.2.get? ⟨1⟩ = none ∧ r.purge.2.get? ⟨5⟩ = none ∧
      (∃ c, r.get? ⟨2⟩ = some c ∧ r.purge.2.get? ⟨2⟩ = some c) ∧
      finished.length = 1 ∧ (finished.map fun c => c.receiver.dropped).sum = 1 ∧
      ((.established, 2) ∈ r.purge.2.census.distribution ↔
        (.established, 2) ∈ r.census.distribution) ∧
      pass.2.get? ⟨3⟩ = none ∧ pass.1.1 ≤ pass.1.2 ∧
      ∃ c, pass.2.get? ⟨4⟩ = some c ∧ r.get? ⟨4⟩ = some c ∧
        (c.state = .closed ∧ c.block.transitions = 0 ∨
          c.state ≠ .closed ∧ 100 - c.block.lastActivity < 50) := by
  intro ends create history r plan pass finished
  have hheld : ∀ id ∈ [(⟨1⟩ : ConnectionId), ⟨2⟩, ⟨3⟩], (r.get? id).isSome = true := by
    decide +kernel
  obtain ⟨c₁, hget₁⟩ := Option.isSome_iff_exists.1 (hheld ⟨1⟩ (by decide))
  obtain ⟨c₂, hget₂⟩ := Option.isSome_iff_exists.1 (hheld ⟨2⟩ (by decide))
  obtain ⟨c₃, hget₃⟩ := Option.isSome_iff_exists.1 (hheld ⟨3⟩ (by decide))
  have hleft : (pass.2.get? ⟨4⟩).isSome = true := by decide +kernel
  obtain ⟨c₄, hget₄⟩ := Option.isSome_iff_exists.1 hleft
  have hdone : ∀ c ∈ r.get? ⟨1⟩, c.state = .closed ∧ 0 < c.block.transitions := by decide +kernel
  have hunopened : ∀ c ∈ r.get? ⟨2⟩, ¬ (c.state = .closed ∧ 0 < c.block.transitions) := by
    decide +kernel
  have hidle : ∀ c ∈ r.get? ⟨3⟩, c.state ≠ .closed ∧ 50 ≤ 100 - c.block.lastActivity := by
    decide +kernel
  have hone : r.purge.1 = 1 := by decide +kernel
  have hfell : r.census.framesDropped = r.purge.2.census.framesDropped + 1 := by decide +kernel
  obtain ⟨⟨hremoved, hkept, hmissing, -⟩, ⟨hcount, -⟩, -, ⟨-, -, hentries⟩, hdropped, hpasses⟩ :=
    purged_exactly { frameLimit := 4 } .none history
  obtain ⟨hremain, hreclaimed, -, hle⟩ := hpasses plan rfl 100
  obtain ⟨hbefore, hlives⟩ := hremain ⟨4⟩ c₄ hget₄
  exact ⟨hremoved ⟨1⟩ c₁ hget₁ (hdone c₁ hget₁), hmissing ⟨5⟩ (by decide +kernel),
    ⟨c₂, hget₂, hkept ⟨2⟩ c₂ hget₂ (hunopened c₂ hget₂)⟩, hcount.symm.trans hone,
    Nat.add_left_cancel (hdropped.trans hfell), hentries .established (by decide) 2,
    hreclaimed ⟨3⟩ c₃ hget₃ (hidle c₃ hget₃), hle, c₄, hget₄, hbefore, hlives⟩

end Switchboard
