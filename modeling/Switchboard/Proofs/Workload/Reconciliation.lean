import Switchboard.Proofs.Workload.Fairness
import Switchboard.Proofs.Workload.Rounds
import Switchboard.Workload.Report

/-!
# Reconciliation

The counters of a report are kept by the one who drives a registry, the figures of a census by the
connections themselves. They agree: the works of the rounds add up to the work of the whole run
(`roundsOf_spec`), from which the sums over the connections follow, and how connections have been
closed follows from how far each of them has come (`counts_of_sinceOpened`).
-/

namespace Switchboard

section Census

variable {c : Connection} {r : Registry}

/-- A connection that has been opened is established, or has been closed in order or by force, and the
steps that it has taken follow from that. -/
theorem counts_of_sinceOpened (h : c.life ∈ Life.sinceOpened) :
    (decide (c.state = .established)).toNat + c.block.gracefullyClosed.toNat +
        c.block.timedOut.toNat = 1 ∧
      c.block.transitions = 3 + 4 * c.block.gracefullyClosed.toNat + c.block.timedOut.toNat := by
  rcases Life.mem_sinceOpened.1 h with hlife | hlife | hlife <;>
    obtain ⟨hstate, htransitions, htimed, hgraceful⟩ := Life.mk.inj hlife <;>
    rw [hstate, htransitions, htimed, hgraceful] <;>
    exact ⟨rfl, rfl⟩

namespace Registry

/-- A census in which nothing has been removed adds up over the connections that are held. -/
theorem census_of_retired (h : r.retired = Tally.zero) :
    r.census.total = r.entries.length ∧ r.census.current = r.entries.length ∧
      (r.census.active = r.sum fun c => (decide (c.state = .established)).toNat) ∧
      (r.census.closed = r.sum fun c => c.block.gracefullyClosed.toNat) ∧
      (r.census.timedOut = r.sum fun c => c.block.timedOut.toNat) ∧
      (r.census.packetsSent = r.sum fun c => c.block.packetsSent) ∧
      (r.census.packetsReceived = r.sum fun c => c.block.packetsReceived) ∧
      r.census.transitions = r.sum fun c => c.block.transitions := by
  have hsum (figure : Connection → Nat) : r.sum figure = (r.connections.map figure).sum := by
    rw [sum, connections_eq, List.map_map]
    rfl
  have hlength : r.connections.length = r.entries.length := by
    rw [connections_eq, List.length_map]
  rw [census, h, Census.take, Census.countIn]
  simp only [hsum, sum_map_toNat, census_sum, hlength, Tally.zero, Nat.zero_add, and_self]

/-- Over connections that have all been opened, those that are established, closed in order and
forced closed are all that there are. -/
theorem sums_of_allOpened (h : r.IsSound) (hopened : r.AllOpened) :
    (r.sum fun c => (decide (c.state = .established)).toNat) +
        (r.sum fun c => c.block.gracefullyClosed.toNat) +
        (r.sum fun c => c.block.timedOut.toNat) = r.entries.length ∧
      (r.sum fun c => c.block.transitions) = 3 * r.entries.length +
        4 * (r.sum fun c => c.block.gracefullyClosed.toNat) +
        (r.sum fun c => c.block.timedOut.toNat) := by
  have hall : ∀ e ∈ r.entries, e.2.life ∈ Life.sinceOpened := fun e he =>
    hopened e.1 e.2 ((mem_entries h).1 he)
  simp only [sum]
  generalize r.entries = entries at hall
  induction entries with
  | nil => exact ⟨rfl, rfl⟩
  | cons e rest ih =>
    obtain ⟨hcount, hsteps⟩ := ih fun e he => hall e (List.mem_cons_of_mem _ he)
    obtain ⟨hone, htaken⟩ := counts_of_sinceOpened (hall e List.mem_cons_self)
    simp only [List.map_cons, List.sum_cons, List.length_cons]
    omega

/-- Where everything has been collected nothing is outstanding. -/
theorem sum_outbox_of_allCollected (h : r.IsSound) (hcollected : r.AllCollected) :
    (r.sum fun c => c.outbox.toList.length) = 0 := by
  apply List.sum_eq_zero
  intro n hn
  obtain ⟨e, he, rfl⟩ := List.mem_map.1 hn
  have hempty := (hcollected e.1 e.2 ((mem_entries h).1 he)).2
  exact congrArg (fun queue => queue.toList.length) hempty

/-- The census tells the work that has been done since nothing was held, if connections have been
opened as soon as they were made, and everything has been collected. -/
theorem census_of_worked {profile : Profile} {latency : Latency} {done : Work}
    (hworked : (Registry.empty profile latency).Worked done r) (hdone : done.opened = done.created)
    (hopened : r.AllOpened) (hcollected : r.AllCollected) :
    r.census.total = done.created ∧ r.census.current = r.census.total ∧
      r.census.closed = done.closed ∧ r.census.timedOut = done.forced ∧
      r.census.total = r.census.active + r.census.closed + r.census.timedOut ∧
      r.census.transitions = 3 * r.census.total + 4 * r.census.closed + r.census.timedOut ∧
      r.census.packetsSent = done.sent ∧ r.census.packetsReceived = done.received ∧
      done.collected + done.lost = r.census.packetsSent := by
  have hstart (figure : Connection → Nat) : (Registry.empty profile latency).sum figure = 0 := by
    rw [sum, entries_empty]
    rfl
  have hsize := hworked.size_eq
  have hsteps := hworked.transitions_eq
  have hclosed := hworked.closed_eq
  have hsent := hworked.packetsSent_eq
  have hreceived := hworked.packetsReceived_eq
  have houtstanding := hworked.outstanding_eq
  rw [entries_empty, List.length_nil, Nat.zero_add] at hsize
  rw [hstart, Nat.zero_add] at hsteps hclosed hsent hreceived houtstanding
  rw [sum_outbox_of_allCollected hworked.isSound hcollected, Nat.zero_add] at houtstanding
  obtain ⟨hlives, htaken⟩ := sums_of_allOpened hworked.isSound hopened
  obtain ⟨htotal, hcurrent, hactive, hgraceful, htimed, hpacketsSent, hpacketsReceived,
    htransitions⟩ := census_of_retired hworked.retired_eq
  -- Reclaiming counts the steps that it forces. They are those that opening and closing in order do
  -- not account for.
  have hforced : (r.sum fun c => c.block.timedOut.toNat) = done.forced := by omega
  refine ⟨htotal.trans hsize, hcurrent.trans htotal.symm, hgraceful.trans hclosed,
    htimed.trans hforced, ?_, ?_, hpacketsSent.trans hsent, hpacketsReceived.trans hreceived,
    houtstanding.trans (hpacketsSent.trans hsent).symm⟩
  · rw [htotal, hactive, hgraceful, htimed, hlives]
  · rw [htransitions, htotal, hgraceful, htimed, htaken]

end Registry

end Census

section Runs

variable {σ : Type} {d : Draws σ}

/-- The work that rounds report, if so many frames have been thrown away. -/
def Round.workOf (reports : List Round) (lost : Nat) : Work where
  created := (reports.map Round.created).sum
  opened := (reports.map Round.established).sum
  closed := (reports.map Round.closed).sum
  forced := (reports.map Round.reclaimed).sum
  sent := (reports.map fun report => report.sent + report.burst).sum
  received := (reports.map Round.received).sum
  collected := (reports.map Round.drained).sum
  lost := lost

namespace Workload

/-- The rounds of a run report what they do, whatever is drawn. -/
theorem roundsOf_spec (hfair : d.Fair) (around : Surroundings) (plan : Workload)
    (idleTimeout : Nat) (numbers : List Nat) {w : Stage σ} (h : w.registry.IsSound)
    (hopened : w.registry.AllOpened) (hcollected : w.registry.AllCollected) :
    let outcome := plan.roundsOf d around idleTimeout numbers w
    outcome.1.length = numbers.length ∧
      (∀ report ∈ outcome.1, report.created = plan.connections ∧
        report.established = plan.connections ∧ report.closed = plan.connections / 2) ∧
      (∃ lost, w.registry.Worked (Round.workOf outcome.1 lost) outcome.2.registry ∧
        ((outcome.1.map Round.reclaimed).sum = 0 → lost = 0)) ∧
      outcome.2.registry.AllOpened ∧ outcome.2.registry.AllCollected := by
  induction numbers generalizing w with
  | nil => exact ⟨rfl, by simp [roundsOf], ⟨0, .refl h, fun _ => rfl⟩, hopened, hcollected⟩
  | cons number rest ih =>
    have hround := round_spec hfair around plan idleTimeout number h
    have hcons : plan.roundsOf d around idleTimeout (number :: rest) w =
        let first := round d around plan idleTimeout number w
        let later := plan.roundsOf d around idleTimeout rest first.2
        (first.1 :: later.1, later.2) := rfl
    rw [hcons]
    generalize round d around plan idleTimeout number w = first at hround
    obtain ⟨report, w₁⟩ := first
    obtain ⟨lost, hworked, hlost⟩ := hround.worked
    obtain ⟨hlength, hreports, ⟨more, hlater, hmore⟩, hlast⟩ :=
      ih hworked.isSound (hround.allOpened hopened) hround.allCollected
    refine ⟨congrArg (· + 1) hlength, ?_, ⟨lost + more, hworked.trans hlater, ?_⟩, hlast⟩
    · intro other hother
      rcases List.mem_cons.1 hother with rfl | hother
      · exact ⟨hround.created_eq, hround.established_eq, hround.closed_eq⟩
      · exact hreports other hother
    · intro hnone
      have hsum : report.reclaimed + ((plan.roundsOf d around idleTimeout rest w₁).1.map
          Round.reclaimed).sum = 0 := hnone
      rw [hlost (Nat.eq_zero_of_add_eq_zero_right hsum),
        hmore (Nat.eq_zero_of_add_eq_zero_left hsum)]

/-- The sum of equal figures. -/
theorem sum_map_of_eq {reports : List Round} {figure : Round → Nat} {value : Nat}
    (h : ∀ report ∈ reports, figure report = value) :
    (reports.map figure).sum = reports.length * value := by
  rw [List.map_eq_replicate_iff.2 h, List.sum_replicate_nat]

/-- What a report adds up is what its rounds have sent and received. -/
theorem totalMessages_eq (report : Report) : report.totalMessages =
    (report.rounds.map fun round => round.sent + round.burst).sum +
      (report.rounds.map Round.received).sum := by
  rw [Report.totalMessages]
  induction report.rounds with
  | nil => rfl
  | cons round rest ih =>
    rw [List.foldr_cons, ih, List.map_cons, List.map_cons, List.sum_cons, List.sum_cons]
    omega

/-- The report of a workload on a new registry agrees with the census of the registry, whatever is
drawn, however long the lines may be that a connection hears, and whatever is idle. -/
theorem run_reconciles (hfair : d.Fair) (around : Surroundings) (plan : Workload)
    (idleTimeout : Nat) (profile : Profile) (latency : Latency) (source : σ) :
    let outcome := plan.run d around idleTimeout (Registry.empty profile latency) source
    let report := outcome.1
    let after := outcome.2.registry
    let census := report.census
    census = after.census ∧ report.rounds.length = plan.rounds ∧
      census.total = (report.rounds.map Round.created).sum ∧
      census.total = plan.connections * plan.rounds ∧ census.current = census.total ∧
      census.closed = (report.rounds.map Round.closed).sum ∧
      census.closed = plan.rounds * (plan.connections / 2) ∧
      census.timedOut = (report.rounds.map Round.reclaimed).sum ∧
      census.total = census.active + census.closed + census.timedOut ∧
      (∀ id ∈ after.ids, after.state id = .ok .established ∨ after.state id = .ok .closed) ∧
      census.transitions = 3 * census.total + 4 * census.closed + census.timedOut ∧
      census.packetsSent =
        (report.rounds.map Round.sent).sum + (report.rounds.map Round.burst).sum ∧
      census.packetsReceived = (report.rounds.map Round.received).sum ∧
      report.totalMessages = census.packetsTransferred ∧
      (report.rounds.map Round.drained).sum ≤ census.packetsSent ∧
      ((report.rounds.map Round.reclaimed).sum = 0 →
        (report.rounds.map Round.drained).sum = census.packetsSent) := by
  intro outcome report after census
  let start := Registry.empty profile latency
  have hnone : ∀ {id c}, start.get? id ≠ some c := by
    intro id c hget
    rw [Registry.get?_empty] at hget
    cases hget
  obtain ⟨hlength, hreports, ⟨lost, hworked, hlost⟩, hopened, hcollected⟩ :=
    roundsOf_spec hfair around plan idleTimeout (List.range plan.rounds) (w := ⟨start, source, 0⟩)
      (Registry.isSound_empty profile latency) (fun _ _ hget => absurd hget hnone)
      fun _ _ hget => absurd hget hnone
  change report.rounds.length = _ at hlength
  change ∀ report ∈ outcome.1.rounds, _ at hreports
  change start.Worked (Round.workOf report.rounds lost) after at hworked
  rw [List.length_range] at hlength
  have hcreated := sum_map_of_eq fun report hmem => (hreports report hmem).1
  have hestablished := sum_map_of_eq fun report hmem => (hreports report hmem).2.1
  have hclosed := sum_map_of_eq fun report hmem => (hreports report hmem).2.2
  rw [hlength] at hcreated hclosed
  obtain ⟨htotal, hcurrent, hgraceful, htimed, hlives, hsteps, hsent, hreceived, hdrained⟩ :=
    Registry.census_of_worked hworked (hestablished.trans (hlength ▸ hcreated).symm) hopened
      hcollected
  refine ⟨rfl, hlength, htotal, ?_, hcurrent, hgraceful, hgraceful.trans hclosed, htimed, hlives, ?_,
    hsteps, hsent.trans List.sum_map_add, hreceived, ?_, ?_, ?_⟩
  · exact (htotal.trans hcreated).trans (Nat.mul_comm _ _)
  · intro id hid
    obtain ⟨c, hget⟩ := (Registry.mem_ids hworked.isSound).1 hid
    rw [Registry.state_of_get? hget]
    rcases Life.mem_sinceOpened.1 (hopened id c hget) with hlife | hlife | hlife
    · exact .inl (congrArg Except.ok (congrArg Life.state hlife))
    · exact .inr (congrArg Except.ok (congrArg Life.state hlife))
    · exact .inr (congrArg Except.ok (congrArg Life.state hlife))
  · rw [totalMessages_eq]
    exact (congrArg₂ (· + ·) hsent hreceived).symm
  · exact Nat.le_of_add_right_le (Nat.le_of_eq hdrained)
  · intro hkept
    rw [hlost hkept] at hdrained
    exact hdrained

/-- Four rounds in which no answer fits, and everything is idle when it is looked at. -/
theorem run_reconciles_small_limit :
    let outcome := Workload.run SplitMix.draws ⟨fun operation => 10 * operation, fun _ => 7⟩
      ⟨3, 2, 4⟩ 0 (Registry.empty { frameLimit := 8 } .none) ⟨42⟩
    let census := outcome.2.registry.census
    SplitMix.draws.Fair ∧ census.total = 12 ∧ census.closed = 4 ∧
      census.timedOut = (outcome.1.rounds.map Round.reclaimed).sum ∧
      census.active + census.timedOut = 8 ∧ census.transitions = 52 + census.timedOut := by
  obtain ⟨hcensus, -, -, htotal, -, -, hclosed, htimed, hlives, -, hsteps, -⟩ :=
    run_reconciles SplitMix.fair_draws ⟨fun operation => 10 * operation, fun _ => 7⟩ ⟨3, 2, 4⟩ 0
      { frameLimit := 8 } .none ⟨42⟩
  rw [hcensus] at htotal hclosed htimed hlives hsteps
  dsimp only at htotal hclosed ⊢
  -- What is left is about the figures alone, not about the run that leads to them.
  generalize Workload.run SplitMix.draws _ _ 0 _ _ = outcome at *
  refine ⟨SplitMix.fair_draws, htotal, hclosed, htimed, ?_, ?_⟩
  · omega
  · omega

end Workload

end Runs

end Switchboard
