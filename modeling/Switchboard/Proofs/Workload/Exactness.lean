import Switchboard.Proofs.Workload.Fairness
import Switchboard.Proofs.Workload.Rounds

/-!
# Rounds on any registry

A round does the same on any registry that a history leads to, whatever connections it holds: the
older ones cannot disturb the batch, and what the round counts is decided by its plan, its number and
the lines that are drawn. Only whether there is a burst depends on the registry (`round_exact`).
-/

namespace Switchboard

namespace Registry

variable {r after : Registry} {done : Work}

/-- Where no connection comes farther every state stays. -/
theorem Alike.state_eq (h : r.Alike after) (id : ConnectionId) : after.state id = r.state id := by
  rw [state, state, look, look]
  cases hget : after.get? id with
  | some c =>
    obtain ⟨c₀, hbefore, hlife⟩ := h.exists_of_get? hget
    rw [hbefore]
    exact congrArg (fun life => Except.ok life.state) hlife.symm
  | none =>
    have hlife := h id
    rw [hget, Option.map_none] at hlife
    rw [Option.map_eq_none_iff.1 hlife.symm]

/-- The packets of a census grow by the frames sent and the deliveries received. -/
theorem Worked.packets_eq (h : r.Worked done after) :
    after.census.packetsSent = r.census.packetsSent + done.sent ∧
      after.census.packetsReceived = r.census.packetsReceived + done.received := by
  have hsent (r : Registry) :
      r.census.packetsSent = r.retired.packetsSent + r.sum fun c => c.block.packetsSent :=
    r.ofCensus_census .packetsSent
  have hreceived (r : Registry) : r.census.packetsReceived =
      r.retired.packetsReceived + r.sum fun c => c.block.packetsReceived :=
    r.ofCensus_census .packetsReceived
  rw [hsent, hsent, hreceived, hreceived, h.retired_eq, h.packetsSent_eq, h.packetsReceived_eq,
    Nat.add_assoc, Nat.add_assoc]
  exact ⟨rfl, rfl⟩

end Registry

namespace Workload

variable {σ : Type} {d : Draws σ}

/-- A peer answers requests and echoes, and nothing else. -/
theorem isSome_peerReply? (line : String) : (peerReply? line).isSome =
    decide ((splitVerb line).1 = "PING" ∨ (splitVerb line).1 = "ECHO") := by
  rw [peerReply?]
  dsimp only
  split
  · next hping => simp [hping]
  · next hping => split <;> simp_all

/-- From a fair source as many lines are drawn as wanted, each of them one of those that clients have
to choose from. -/
theorem drawnLines_spec (hfair : d.Fair) (size times : Nat) (source : σ) :
    (drawnLines d size times source).length = times ∧
      ∀ line ∈ drawnLines d size times source, line ∈ lines := by
  induction times generalizing source with
  | zero => exact ⟨rfl, by simp [drawnLines]⟩
  | succ times ih =>
    let second := d.choose lines.length (d.choose size source).2
    have hsecond : second.1 < lines.length := hfair.choose_lt _ _ (by decide)
    have hdrawn : drawnLines d size (times + 1) source =
        lines[second.1] :: drawnLines d size times second.2 := by
      have hline : lines[second.1]? = some lines[second.1] := List.getElem?_eq_getElem hsecond
      rw [drawnLines]
      change lines[second.1]?.toList ++ _ = _
      rw [hline]
      rfl
    obtain ⟨hlength, hmem⟩ := ih second.2
    rw [hdrawn, List.length_cons, hlength]
    refine ⟨rfl, fun line hline => ?_⟩
    rcases List.mem_cons.1 hline with rfl | hlater
    · exact List.getElem_mem hsecond
    · exact hmem line hlater

/-- A round on any registry that a history leads to. It makes, opens and closes what its plan says, and
sends every line that is drawn; the answers that it counts are those to requests and echoes. Connections
are reclaimed in every fifth round at most. In every third round a burst is sent, if some connection is
established at that point; after that no state changes any more. The packets of the census grow by what
the round reports, and nothing is left to be collected. -/
theorem round_exact (hfair : d.Fair) (around : Surroundings) (plan : Workload)
    (idleTimeout number : Nat) (profile : Profile) (latency : Latency)
    (history : List (Instant × Operation)) (source : σ) (operations : Nat) :
    let before := ((Registry.empty profile latency).run history).2
    let w : Stage σ := ⟨before, source, operations⟩
    let decided := (beforeBurst d around plan idleTimeout number w).registry
    let report := (round d around plan idleTimeout number w).1
    let after := (round d around plan idleTimeout number w).2.registry
    let times := plan.connections * plan.messagesPerConnection
    let drawn := drawnLines d plan.connections times source
    report.created = plan.connections ∧ report.established = plan.connections ∧
    report.sent = times ∧
    (drawn.length = times ∧ (∀ line ∈ drawn, line ∈ lines) ∧ report.received = drawn.countP
      fun line => (splitVerb line).1 = "PING" ∨ (splitVerb line).1 = "ECHO") ∧
    report.closed = plan.connections / 2 ∧
    (number % 5 ≠ 0 → report.reclaimed = 0) ∧
    (number % 3 = 0 ∧ (∃ id, decided.state id = .ok .established) → report.burst = 20) ∧
    (¬ (number % 3 = 0 ∧ ∃ id, decided.state id = .ok .established) → report.burst = 0) ∧
    (∀ id, after.state id = decided.state id) ∧
    after.census.packetsSent = before.census.packetsSent + (report.sent + report.burst) ∧
    after.census.packetsReceived = before.census.packetsReceived + report.received ∧
    ∀ id c, after.get? id = some c → c.inbox.toList = [] ∧ c.outbox.toList = [] := by
  intro before w decided report after times drawn
  have hsound : before.IsSound :=
    Registry.isSound_run (Registry.isSound_empty profile latency) history
  have hround : report.Reports plan number drawn before decided after :=
    round_spec hfair around plan idleTimeout number (w := w) hsound
  obtain ⟨lost, hworked, -⟩ := hround.worked
  obtain ⟨hsent, hreceived⟩ := hworked.packets_eq
  obtain ⟨hlength, hmem⟩ := drawnLines_spec hfair plan.connections times source
  have htargets : establishedIds decided ≠ [] ↔ ∃ id, decided.state id = .ok .established := by
    rw [← List.length_pos_iff, List.length_pos_iff_exists_mem]
    refine exists_congr fun id => (mem_establishedIds hround.isSound_decided).trans ⟨?_, held_of_state⟩
    rintro ⟨c, hget, hopen⟩
    rw [Registry.state_of_get? hget, hopen]
  refine ⟨hround.created_eq, hround.established_eq, hround.sent_eq, ⟨hlength, hmem, ?_⟩,
    hround.closed_eq, hround.reclaimed_eq, fun ⟨hnumber, hsome⟩ => hround.burst_eq.trans
      (if_pos ⟨hnumber, htargets.2 hsome⟩),
    fun hnone => hround.burst_eq.trans (if_neg fun ⟨hnumber, hsome⟩ =>
      hnone ⟨hnumber, htargets.1 hsome⟩),
    hround.alike.state_eq, hsent, hreceived,
    fun id c hget => ?_⟩
  · rw [hround.received_eq, answered]
    simp only [isSome_peerReply?]
  · obtain ⟨hinbox, houtbox⟩ := hround.allCollected id c hget
    rw [hinbox, houtbox]
    exact ⟨rfl, rfl⟩

/-- Two rounds on a registry that holds an established connection and one that was never opened. In
the round of number 3 there is a burst, because at least the older connection is established; in that
of number 4 nothing is reclaimed and there is no burst. -/
theorem round_exact_older_connections :
    let history : List (Instant × Operation) :=
      [(0, .create ⟨"10.0.0.1", 1⟩ ⟨"10.0.0.2", 2⟩ 5), (1, .establish ⟨1⟩), (2, .send ⟨1⟩ "PING a"),
        (3, .create ⟨"10.0.0.1", 3⟩ ⟨"10.0.0.2", 4⟩ 6)]
    let around : Surroundings := ⟨fun operation => 10 * (operation + 1), fun _ => 7⟩
    let w : Stage SplitMix := ⟨((Registry.empty { frameLimit := 8 } .none).run history).2, ⟨42⟩, 0⟩
    let third := round SplitMix.draws around ⟨2, 2, 1⟩ 0 3 w
    let fourth := round SplitMix.draws around ⟨2, 2, 1⟩ 0 4 w
    let drawn := drawnLines SplitMix.draws 2 4 w.source
    SplitMix.draws.Fair ∧ drawn.length = 4 ∧
      third.1.received = drawn.countP
        (fun line => (splitVerb line).1 = "PING" ∨ (splitVerb line).1 = "ECHO") ∧
      third.1.closed = 1 ∧ third.1.burst = 20 ∧ third.2.registry.census.packetsSent = 25 ∧
      fourth.1.reclaimed = 0 ∧ fourth.1.burst = 0 ∧
      fourth.2.registry.census.packetsSent = 5 := by
  intro history around
  have hbefore : ((Registry.empty { frameLimit := 8 } .none).run history).2.census.packetsSent = 1 :=
    by decide +kernel
  obtain ⟨-, -, hsent, ⟨hlength, -, hreceived⟩, hclosed, -, hburst, -, -, hpackets, -⟩ :=
    round_exact SplitMix.fair_draws around ⟨2, 2, 1⟩ 0 3 { frameLimit := 8 } .none history ⟨42⟩ 0
  obtain ⟨-, -, hsent', -, -, hreclaimed, -, hnone, -, hpackets', -⟩ :=
    round_exact SplitMix.fair_draws around ⟨2, 2, 1⟩ 0 4 { frameLimit := 8 } .none history ⟨42⟩ 0
  have hsome := hburst ⟨rfl, ⟨1⟩, by decide +kernel⟩
  replace hnone := hnone (by simp)
  replace hreclaimed := hreclaimed (by decide)
  dsimp only at hsent hlength hreceived hclosed hsome hpackets hsent' hreclaimed hnone hpackets' ⊢
  rw [hbefore, hsent, hsome] at hpackets
  rw [hbefore, hsent', hnone] at hpackets'
  -- What is left is about the figures alone, not about the rounds that lead to them.
  generalize round SplitMix.draws _ _ 0 3 _ = third at *
  generalize round SplitMix.draws _ _ 0 4 _ = fourth at *
  exact ⟨SplitMix.fair_draws, hlength, hreceived, hclosed, hsome, hpackets, hreclaimed, hnone,
    hpackets'⟩

end Workload

end Switchboard
