import Mathlib.Algebra.BigOperators.Group.List.Basic
import Switchboard.Proofs.Connection.Answering
import Switchboard.Proofs.Registry.Totals

/-!
# Work on a registry

What is done to a registry can be told in numbers: how many connections have been made, opened,
closed in order and forced closed, how many frames have been sent, collected and thrown away, and how
many deliveries have been received. The sums over the connections that are held follow from these
numbers (`Registry.Worked`). Works add up, and there is one statement for each kind of operation that
a workload uses: the one that it names is changed (`worked_perform`), one is made (`worked_create`),
or the stale ones are forced closed (`worked_reclaim`). Removing connections is no such work.
-/

namespace Switchboard

/-- What has been done to connections, in numbers. -/
structure Work where
  created : Nat := 0
  opened : Nat := 0
  closed : Nat := 0
  forced : Nat := 0
  sent : Nat := 0
  received : Nat := 0
  collected : Nat := 0
  lost : Nat := 0

/-- Works add up number by number. -/
instance : Add Work where
  add a b :=
    { created := a.created + b.created
      opened := a.opened + b.opened
      closed := a.closed + b.closed
      forced := a.forced + b.forced
      sent := a.sent + b.sent
      received := a.received + b.received
      collected := a.collected + b.collected
      lost := a.lost + b.lost }

/-- What works add up to. -/
theorem Work.add_eq (a b : Work) : a + b =
    ⟨a.created + b.created, a.opened + b.opened, a.closed + b.closed, a.forced + b.forced,
      a.sent + b.sent, a.received + b.received, a.collected + b.collected, a.lost + b.lost⟩ :=
  rfl

namespace Connection

/-- From one connection to another some work has been done. -/
structure Did (done : Work) (c after : Connection) : Prop where
  created_eq : done.created = 0
  transitions_eq : after.block.transitions =
    c.block.transitions + (3 * done.opened + 4 * done.closed + done.forced)
  closed_eq : after.block.gracefullyClosed.toNat = c.block.gracefullyClosed.toNat + done.closed
  packetsSent_eq : after.block.packetsSent = c.block.packetsSent + done.sent
  packetsReceived_eq : after.block.packetsReceived = c.block.packetsReceived + done.received
  outstanding_eq : after.outbox.toList.length + done.collected + done.lost =
    c.outbox.toList.length + done.sent

variable {c : Connection} (now : Instant)

/-- A connection that was closed is opened. -/
theorem did_handshake (hclosed : c.state = .closed) :
    Did { opened := 1 } c (c.drive State.handshake now).2 := by
  have hblock : (c.enterAll now State.handshake).block = _ :=
    Block.enterAll_eq c.block now State.handshake
  rw [drive_handshake, if_pos hclosed]
  refine ⟨rfl, ?_, ?_, ?_, ?_, rfl⟩ <;> rw [hblock] <;> rfl

/-- A connection that was established, and never closed in order before, is taken down. -/
theorem did_teardown (hopen : c.state = .established)
    (hfirst : c.block.gracefullyClosed = false) :
    Did { closed := 1 } c (c.closeAlong State.teardown now).2 := by
  have hblock := block_closedAlong now c State.teardown
  rw [closeAlong_teardown, if_pos hopen]
  refine ⟨rfl, ?_, ?_, ?_, ?_, ?_⟩
  · rw [hblock]
    rfl
  · rw [hblock, hfirst]
    rfl
  · rw [hblock]
    rfl
  · rw [hblock]
    rfl
  · rw [outbox_closedAlong]
    rfl

/-- A connection that was open is forced closed. -/
theorem did_forced : Did { forced := 1, lost := c.outbox.toList.length } c (c.forced now) := by
  refine ⟨rfl, rfl, rfl, rfl, rfl, ?_⟩
  exact Nat.zero_add _

/-- Nothing is done. -/
theorem did_nothing : Did {} c c := ⟨rfl, rfl, rfl, rfl, rfl, rfl⟩

/-- A frame is sent. -/
theorem did_transmit (frame : Bytes) : Did { sent := 1 } c (c.transmit [frame] now) := by
  have hcarried := carried_transmit c [frame] now
  refine ⟨rfl, hcarried.transitions_eq, ?_, hcarried.packetsSent_eq, hcarried.packetsReceived_eq, ?_⟩
  · rw [hcarried.gracefullyClosed_eq]
    rfl
  · rw [outbox_transmit, List.length_append]
    rfl

/-- A delivery is received in silence. -/
theorem Informed.did {frame : Bytes} {after : Connection} (h : Informed [frame] c after) :
    Did { received := 1 } c after := by
  have hcarried := h.carried
  refine ⟨rfl, hcarried.transitions_eq, ?_, hcarried.packetsSent_eq, hcarried.packetsReceived_eq, ?_⟩
  · rw [hcarried.gracefullyClosed_eq]
    rfl
  · rw [h.outbox_eq]
    rfl

/-- The frames are collected. -/
theorem did_drainOutbound : Did { collected := c.outbox.toList.length } c c.drainOutbound.2 := by
  refine ⟨rfl, rfl, rfl, rfl, rfl, ?_⟩
  exact Nat.zero_add _

/-- Collecting messages is not counted. -/
theorem did_drainInbound : Did {} c c.drainInbound.2 := ⟨rfl, rfl, rfl, rfl, rfl, rfl⟩

end Connection

/-- Counting is adding up. -/
theorem sum_map_toNat {α : Type} (elements : List α) (counts : α → Bool) :
    (elements.map fun a => (counts a).toNat).sum = elements.countP counts := by
  induction elements with
  | nil => rfl
  | cons a rest ih =>
    rw [List.map_cons, List.sum_cons, ih, List.countP_cons, Nat.add_comm]
    cases counts a <;> rfl

namespace Registry

/-- A figure added up over the connections that are held. -/
def sum (r : Registry) (figure : Connection → Nat) : Nat :=
  (r.entries.map fun e => figure e.2).sum

/-- From one registry to another some work has been done, and nothing has been removed. -/
structure Worked (r : Registry) (done : Work) (after : Registry) : Prop where
  isSound : after.IsSound
  profile_eq : after.profile = r.profile
  retired_eq : after.retired = r.retired
  size_eq : after.entries.length = r.entries.length + done.created
  transitions_eq : (after.sum fun c => c.block.transitions) =
    (r.sum fun c => c.block.transitions) + (3 * done.opened + 4 * done.closed + done.forced)
  closed_eq : (after.sum fun c => c.block.gracefullyClosed.toNat) =
    (r.sum fun c => c.block.gracefullyClosed.toNat) + done.closed
  packetsSent_eq : (after.sum fun c => c.block.packetsSent) =
    (r.sum fun c => c.block.packetsSent) + done.sent
  packetsReceived_eq : (after.sum fun c => c.block.packetsReceived) =
    (r.sum fun c => c.block.packetsReceived) + done.received
  outstanding_eq : (after.sum fun c => c.outbox.toList.length) + done.collected + done.lost =
    (r.sum fun c => c.outbox.toList.length) + done.sent

variable {r middle after : Registry} {first second done : Work} {id : ConnectionId}
  {c : Connection}

/-- Where nothing has been done everything is as it was. -/
theorem Worked.refl (h : r.IsSound) : r.Worked {} r := ⟨h, rfl, rfl, rfl, rfl, rfl, rfl, rfl, rfl⟩

/-- Works add up. -/
theorem Worked.trans (h : r.Worked first middle) (hlater : middle.Worked second after) :
    r.Worked (first + second) after := by
  refine ⟨hlater.isSound, hlater.profile_eq.trans h.profile_eq, hlater.retired_eq.trans h.retired_eq,
    ?_, ?_, ?_, ?_, ?_, ?_⟩
  · rw [hlater.size_eq, h.size_eq, Work.add_eq, Nat.add_assoc]
  · rw [hlater.transitions_eq, h.transitions_eq, Work.add_eq]
    dsimp only
    omega
  · rw [hlater.closed_eq, h.closed_eq, Work.add_eq, Nat.add_assoc]
  · rw [hlater.packetsSent_eq, h.packetsSent_eq, Work.add_eq, Nat.add_assoc]
  · rw [hlater.packetsReceived_eq, h.packetsReceived_eq, Work.add_eq, Nat.add_assoc]
  · have hfirst := h.outstanding_eq
    have hsecond := hlater.outstanding_eq
    rw [Work.add_eq]
    dsimp only
    omega

/-- Work on the connection that an operation names is work on the registry. -/
theorem worked_perform (h : r.IsSound) (now : Instant) (op : Operation)
    (hop : op.target? = some id) (hget : r.get? id = some c)
    (hdid : c.Did done (op.apply r.profile now c)) : r.Worked done (r.perform now op).2 := by
  have hacted := acted_perform h now hop
  have hsum (figure : Connection → Nat) : (r.perform now op).2.sum figure + figure c =
      r.sum figure + figure (op.apply r.profile now c) := by
    rw [sum, hacted.entries_eq]
    exact sum_updateEntry_of_mem figure _ (nodup_entries h) ((mem_entries h).2 hget)
  have htransitions := hsum fun c => c.block.transitions
  have hclosed := hsum fun c => c.block.gracefullyClosed.toNat
  have hsent := hsum fun c => c.block.packetsSent
  have hreceived := hsum fun c => c.block.packetsReceived
  have houtstanding := hsum fun c => c.outbox.toList.length
  rw [hdid.transitions_eq] at htransitions
  rw [hdid.closed_eq] at hclosed
  rw [hdid.packetsSent_eq] at hsent
  rw [hdid.packetsReceived_eq] at hreceived
  have hcounted := hdid.outstanding_eq
  refine ⟨isSound_perform h now op, hacted.profile_eq, hacted.retired_eq, ?_, ?_, ?_, ?_, ?_, ?_⟩
  · rw [hacted.entries_eq, List.length_map, hdid.created_eq, Nat.add_zero]
  all_goals omega

/-- A connection that is made has done nothing yet. -/
theorem worked_create (h : r.IsSound) (localEnd remoteEnd : Endpoint) (isn : UInt32)
    (now : Instant) :
    r.Worked { created := 1 } (r.perform now (.create localEnd remoteEnd isn)).2 := by
  have hperm : (r.perform now (.create localEnd remoteEnd isn)).2.entries.Perm _ :=
    Shards.entries_insert h.placed (get?_next h)
      (Connection.fresh r.profile ⟨r.lastId + 1⟩ localEnd remoteEnd isn now)
  have hsum (figure : Connection → Nat)
      (hnew : figure (Connection.fresh r.profile ⟨r.lastId + 1⟩ localEnd remoteEnd isn now) = 0) :
      (r.perform now (.create localEnd remoteEnd isn)).2.sum figure = r.sum figure + 0 := by
    have hmap := (hperm.map fun e => figure e.2).sum_nat
    rw [List.map_cons, List.sum_cons, hnew, Nat.zero_add] at hmap
    exact hmap
  exact ⟨isSound_perform h now _, rfl, rfl, hperm.length_eq, hsum _ rfl, hsum _ rfl, hsum _ rfl,
    hsum _ rfl, hsum (fun c => c.outbox.toList.length) rfl⟩

/-- What a pass forces closed and throws away at each connection adds up over the connections. -/
theorem worked_pass (change : Connection → Connection) {forced lost : Connection → Nat}
    (h : after.IsSound) (hprofile : after.profile = r.profile) (hretired : after.retired = r.retired)
    (hentries : after.entries = r.entries.map fun e => (e.1, change e.2))
    (hdid : ∀ c, Connection.Did { forced := forced c, lost := lost c } c (change c)) :
    r.Worked { forced := r.sum forced, lost := r.sum lost } after := by
  have hsum (figure : Connection → Nat) :
      after.sum figure = (r.entries.map fun e => figure (change e.2)).sum := by
    rw [sum, hentries, List.map_map]
    rfl
  have hsame {figure : Connection → Nat} (hkept : ∀ c, figure (change c) = figure c + 0) :
      after.sum figure = r.sum figure + 0 := by
    rw [hsum]
    simp only [hkept, Nat.add_zero]
    rfl
  refine ⟨h, hprofile, hretired, ?_, ?_, hsame fun c => (hdid c).closed_eq,
    hsame fun c => (hdid c).packetsSent_eq, hsame fun c => (hdid c).packetsReceived_eq, ?_⟩
  · rw [hentries, List.length_map]
    rfl
  · have hsteps : ∀ c : Connection,
        (change c).block.transitions = c.block.transitions + forced c := fun c =>
      (hdid c).transitions_eq.trans (congrArg _ (Nat.zero_add _))
    rw [hsum]
    simp only [hsteps, List.sum_map_add, Nat.mul_zero, Nat.zero_add]
    rfl
  · have hsplit : ∀ c : Connection,
        (change c).outbox.toList.length + lost c = c.outbox.toList.length := fun c =>
      (hdid c).outstanding_eq
    change _ + 0 + r.sum lost = _ + 0
    rw [hsum, Nat.add_zero, Nat.add_zero, sum, ← List.sum_map_add]
    simp only [hsplit]
    rfl

/-- A pass over the connections forces the stale ones closed. -/
theorem worked_reclaim (h : r.IsSound) (instant : Instant) (threshold : Nat) (now : Instant) :
    ∃ lost, r.Worked { forced := (r.reclaimAt instant threshold now).1, lost := lost }
        (r.perform now (.reclaim instant threshold)).2 ∧
      ((r.reclaimAt instant threshold now).1 = 0 → lost = 0) := by
  let forced (c : Connection) : Nat := (c.isStale instant threshold).toNat
  let lost (c : Connection) : Nat := if c.isStale instant threshold then c.outbox.toList.length else 0
  have hcount : r.sum forced = r.entries.countP fun e => e.2.isStale instant threshold :=
    sum_map_toNat r.entries fun e => e.2.isStale instant threshold
  have hreclaimed : (r.reclaimAt instant threshold now).1 = r.sum forced := by
    rw [hcount, reclaimAt, connections_eq, List.countP_map]
    rfl
  have hdid : ∀ c : Connection, Connection.Did { forced := forced c, lost := lost c } c
      (if c.isStale instant threshold then c.forced now else c) := by
    intro c
    simp only [forced, lost]
    cases c.isStale instant threshold
    · exact Connection.did_nothing
    · exact Connection.did_forced now
  refine ⟨r.sum lost, ?_, fun hnone => ?_⟩
  · rw [hreclaimed]
    exact worked_pass (fun c => if c.isStale instant threshold then c.forced now else c)
      (isSound_perform h now (.reclaim instant threshold)) rfl rfl
      (entries_reclaimAt r instant threshold now) hdid
  · -- No connection is stale, so none of them has lost anything.
    rw [hreclaimed, hcount, List.countP_eq_zero] at hnone
    apply List.sum_eq_zero
    intro n hn
    obtain ⟨e, he, rfl⟩ := List.mem_map.1 hn
    exact if_neg (hnone e he)

end Registry

end Switchboard
