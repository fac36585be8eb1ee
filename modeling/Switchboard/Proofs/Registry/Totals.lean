import Mathlib.Algebra.GroupWithZero.Nat
import Switchboard.Proofs.Registry.Contributions

/-!
# Totals

Figures that are added up over all connections, those that are held and those that have been
removed. A census reports them (`ofCensus_census`). They grow by what each moment contributes, and a
purge only moves them into the tally (`total_after`, `total_run`).
-/

namespace Switchboard

/-- A figure that is added up over all connections, held or not. -/
inductive Figure
  | connections
  | bytesSent
  | bytesReceived
  | packetsSent
  | packetsReceived
  | transitions
  deriving Repr, DecidableEq

namespace Figure

/-- What one connection adds. -/
def ofBlock (b : Block) : Figure → Nat
  | connections => 1
  | bytesSent => b.bytesSent
  | bytesReceived => b.bytesReceived
  | packetsSent => b.packetsSent
  | packetsReceived => b.packetsReceived
  | transitions => b.transitions

/-- What the connections that have been removed add. -/
def ofTally (t : Tally) : Figure → Nat
  | connections => t.connections
  | bytesSent => t.bytesSent
  | bytesReceived => t.bytesReceived
  | packetsSent => t.packetsSent
  | packetsReceived => t.packetsReceived
  | transitions => t.transitions

/-- What a census reports. -/
def ofCensus (c : Census) : Figure → Nat
  | connections => c.total
  | bytesSent => c.bytesSent
  | bytesReceived => c.bytesReceived
  | packetsSent => c.packetsSent
  | packetsReceived => c.packetsReceived
  | transitions => c.transitions

/-- What a moment contributes. -/
def ofMoment (m : Moment) : Figure → Nat
  | connections => m.created
  | bytesSent => m.placed.flatten.length
  | bytesReceived => m.received.flatten.length
  | packetsSent => m.placed.length
  | packetsReceived => m.received.length
  | transitions => m.steps

/-- A connection that is removed adds to the tally what it added before. -/
theorem ofTally_absorb (f : Figure) (t : Tally) (b : Block) :
    f.ofTally (t.absorb b) = f.ofTally t + f.ofBlock b := by
  cases f <;> rfl

/-- Absorbing connections adds what each of them adds. -/
theorem ofTally_foldl_absorb (f : Figure) (connections : List Connection) (t : Tally) :
    f.ofTally (connections.foldl (fun tally c => tally.absorb c.block) t) =
      f.ofTally t + (connections.map fun c => f.ofBlock c.block).sum := by
  induction connections generalizing t with
  | nil => rfl
  | cons c rest ih =>
    rw [List.foldl_cons, ih, ofTally_absorb, List.map_cons, List.sum_cons, Nat.add_assoc]

end Figure

namespace Registry

/-- A figure added up over all connections that there have been. -/
def total (r : Registry) (f : Figure) : Nat :=
  f.ofTally r.retired + (r.entries.map fun e => f.ofBlock e.2.block).sum

/-- The sum over connections is that of the list of their figures. -/
theorem census_sum (connections : List Connection) (figure : Connection → Nat) :
    Census.sum connections figure = (connections.map figure).sum := by
  induction connections with
  | nil => rfl
  | cons c rest ih =>
    rw [List.map_cons, List.sum_cons, ← ih]
    rfl

/-- The census reports the totals. -/
theorem ofCensus_census (r : Registry) (f : Figure) : f.ofCensus r.census = r.total f := by
  cases f <;>
    simp [Figure.ofCensus, census, Census.take, total, Figure.ofTally, Figure.ofBlock, census_sum,
      connections_eq, Function.comp_def]

end Registry

section Sums

variable {id : ConnectionId} {c : Connection} (figure : Connection → Nat)
  (change : Connection → Connection)

/-- Where an id does not occur, changing its entry changes no sum. -/
theorem sum_updateEntry_of_not_mem {entries : List (ConnectionId × Connection)}
    (h : id ∉ entries.map Prod.fst) :
    ((entries.map (Shards.updateEntry id change)).map fun e => figure e.2).sum =
      (entries.map fun e => figure e.2).sum := by
  have hsame : entries.map (Shards.updateEntry id change) = entries := by
    conv_rhs => rw [← List.map_id entries]
    apply List.map_congr_left
    intro e he
    have hne : e.1 ≠ id := fun heq => h (heq ▸ List.mem_map_of_mem he)
    rw [Shards.updateEntry, if_neg hne]
    rfl
  rw [hsame]

/-- Where an id occurs once, changing its entry exchanges one summand. -/
theorem sum_updateEntry_of_mem {entries : List (ConnectionId × Connection)}
    (hnodup : (entries.map Prod.fst).Nodup) (h : (id, c) ∈ entries) :
    ((entries.map (Shards.updateEntry id change)).map fun e => figure e.2).sum + figure c =
      (entries.map fun e => figure e.2).sum + figure (change c) := by
  induction entries with
  | nil => cases h
  | cons e rest ih =>
    rw [List.map_cons, List.nodup_cons] at hnodup
    rcases List.mem_cons.1 h with rfl | hrest
    · have hothers := sum_updateEntry_of_not_mem figure change hnodup.1
      simp only [List.map_cons, List.sum_cons, hothers, Shards.updateEntry, if_true]
      omega
    · have hne : e.1 ≠ id := fun heq => hnodup.1 (heq ▸ List.mem_map_of_mem hrest)
      have hsum := ih hnodup.2 hrest
      simp only [List.map_cons, List.sum_cons, Shards.updateEntry, if_neg hne] at hsum ⊢
      omega

end Sums

/-- Adding one for some elements of a list adds the number of those. -/
theorem sum_map_add_ite {α : Type} (elements : List α) (figure : α → Nat) (counts : α → Bool) :
    (elements.map fun e => figure e + if counts e = true then 1 else 0).sum =
      (elements.map figure).sum + elements.countP counts := by
  induction elements with
  | nil => rfl
  | cons e rest ih =>
    simp only [List.map_cons, List.sum_cons, ih, List.countP_cons]
    omega

/-- What a figure adds up to over a list is what it adds up to over two complementary parts. -/
theorem sum_map_filter_add {α : Type} (elements : List α) (figure : α → Nat) (test : α → Bool) :
    ((elements.filter test).map figure).sum + ((elements.filter fun a => !test a).map figure).sum =
      (elements.map figure).sum := by
  have hperm := ((List.filter_append_perm test elements).map figure).sum_nat
  rwa [List.map_append, List.sum_append_nat] at hperm

section Totals

variable {m : Moment} {id : ConnectionId} {c : Connection}

/-- A figure of the connection that an operation names grows by what the moment contributes. -/
theorem ofBlock_apply (h : m.before.IsSound) (hop : m.operation.target? = some id)
    (hget : m.before.get? id = some c) (f : Figure) :
    f.ofBlock (m.operation.apply m.before.profile m.now c).block =
      f.ofBlock c.block + f.ofMoment m := by
  have hadvanced := Moment.advanced_apply h hop hget
  cases f with
  | connections =>
    have hcreated : m.created = 0 := by
      rw [Moment.created]
      split
      · next heq =>
        rw [heq] at hop
        cases hop
      · rfl
    exact congrArg (1 + ·) hcreated.symm
  | bytesSent => exact hadvanced.bytesSent_eq
  | bytesReceived => exact hadvanced.bytesReceived_eq
  | packetsSent => exact hadvanced.packetsSent_eq
  | packetsReceived => exact hadvanced.packetsReceived_eq
  | transitions => exact hadvanced.transitions_eq

/-- A moment contributes nothing if the connection that it names is not held. -/
theorem ofMoment_of_missing (h : m.before.IsSound) (hop : m.operation.target? = some id)
    (hget : m.before.get? id = none) (f : Figure) : f.ofMoment m = 0 := by
  obtain ⟨hreceived, hplaced, hsteps⟩ := Moment.nothing_of_missing h hop hget
  cases f with
  | connections =>
    rw [Figure.ofMoment, Moment.created]
    split
    · next heq =>
      rw [heq] at hop
      cases hop
    · rfl
  | bytesSent | packetsSent => simp [Figure.ofMoment, hplaced]
  | bytesReceived | packetsReceived => simp [Figure.ofMoment, hreceived]
  | transitions => exact hsteps

/-- An operation that names a connection adds what its moment contributes. -/
theorem total_of_target (h : m.before.IsSound) (hop : m.operation.target? = some id)
    (f : Figure) : m.after.total f = m.before.total f + f.ofMoment m := by
  have hacted := Registry.acted_perform h m.now hop
  rw [Registry.total, Registry.total, Moment.after, hacted.retired_eq, hacted.entries_eq]
  cases hget : m.before.get? id with
  | none =>
    have hmissing : id ∉ m.before.entries.map Prod.fst := by
      intro hmem
      obtain ⟨⟨key, c⟩, he, rfl⟩ := List.mem_map.1 hmem
      have hheld : m.before.get? key = some c := (Registry.mem_entries h).1 he
      rw [hget] at hheld
      cases hheld
    rw [sum_updateEntry_of_not_mem (fun c => f.ofBlock c.block) _ hmissing,
      ofMoment_of_missing h hop hget, Nat.add_zero]
  | some c =>
    have hsum := sum_updateEntry_of_mem (fun c => f.ofBlock c.block)
      (m.operation.apply m.before.profile m.now) (Registry.nodup_entries h)
      ((Registry.mem_entries h).2 hget)
    rw [ofBlock_apply h hop hget] at hsum
    omega

/-- The totals after an operation: what has been removed, what has been added, and what has become
of the rest. -/
theorem total_of_effected {r after : Registry} {now : Instant} {op : Operation}
    (h : r.Effected now op after) (f : Figure) :
    after.total f = f.ofTally r.retired +
      ((r.connections.filter op.removes).map fun c => f.ofBlock c.block).sum +
      (((op.born r now).map fun e => f.ofBlock e.2.block).sum +
        ((r.entries.filter fun e => !op.removes e.2).map fun e =>
          f.ofBlock (op.effect r.profile now e.1 e.2).block).sum) := by
  have hsum := (h.entries_perm.map fun e => f.ofBlock e.2.block).sum_nat
  rw [List.map_append, List.sum_append_nat, List.map_map] at hsum
  rw [Registry.total, h.retired_eq, Figure.ofTally_foldl_absorb, hsum]
  rfl

/-- An operation that removes nothing and changes no connection adds those that it makes. -/
theorem total_of_unchanged {r after : Registry} {now : Instant} {op : Operation}
    (h : r.Effected now op after) (hop : op ≠ .purge)
    (heffect : ∀ id c, op.effect r.profile now id c = c) (f : Figure) :
    after.total f =
      r.total f + ((op.born r now).map fun e => f.ofBlock e.2.block).sum := by
  have hkept : (r.entries.filter fun e => !op.removes e.2) = r.entries := by
    simp [Registry.removes_eq_false hop]
  rw [total_of_effected h, Registry.filter_removes hop, hkept, Registry.total]
  simp only [heffect, List.map_nil, List.sum_nil]
  omega

/-- Every connection that is forced closed takes one step, and nothing else is counted. -/
theorem ofBlock_sweep (c : Connection) (now : Instant) (isStale : Bool) (f : Figure) :
    f.ofBlock (if isStale then c.forced now else c).block =
      f.ofBlock c.block + if f = .transitions ∧ isStale then 1 else 0 := by
  cases isStale <;> cases f <;> rfl

/-- A pass over the connections counts as many steps as it forces connections closed. -/
theorem total_of_reclaim {r after : Registry} {now instant : Instant} {threshold : Nat}
    (h : r.Effected now (.reclaim instant threshold) after) (f : Figure) :
    after.total f = r.total f +
      if f = .transitions then r.connections.countP fun c => c.isStale instant threshold
      else 0 := by
  have heffect : ∀ id c, (Operation.reclaim instant threshold).effect r.profile now id c =
      if c.isStale instant threshold then c.forced now else c := fun _ _ => rfl
  have hswept : (r.entries.map fun e => f.ofBlock
        (if e.2.isStale instant threshold then e.2.forced now else e.2).block).sum =
      (r.entries.map fun e => f.ofBlock e.2.block).sum +
        if f = .transitions then r.connections.countP fun c => c.isStale instant threshold
        else 0 := by
    simp only [ofBlock_sweep]
    by_cases hf : f = .transitions
    · simp only [hf, true_and, if_true, sum_map_add_ite, Registry.connections_eq, List.countP_map,
        Function.comp_def]
    · simp only [hf, false_and, if_false, Nat.add_zero]
  have hkept : (r.entries.filter fun e =>
      !(Operation.reclaim instant threshold).removes e.2) = r.entries := by
    simp [Registry.removes_eq_false]
  rw [total_of_effected h, Registry.filter_removes (by simp), hkept, Registry.total]
  simp only [heffect, hswept, Operation.born, List.map_nil, List.sum_nil]
  omega

/-- A purge moves figures into the tally. -/
theorem total_of_purge {r after : Registry} {now : Instant} (h : r.Effected now .purge after)
    (f : Figure) : after.total f = r.total f := by
  have heffect : ∀ id c, Operation.purge.effect r.profile now id c = c := fun _ _ => rfl
  have hall := sum_map_filter_add r.entries (fun e => f.ofBlock e.2.block) fun e =>
    Operation.purge.removes e.2
  have hremoved : ((r.connections.filter Operation.purge.removes).map fun c =>
      f.ofBlock c.block).sum =
      ((r.entries.filter fun e => Operation.purge.removes e.2).map fun e =>
        f.ofBlock e.2.block).sum := by
    rw [Registry.connections_eq, List.filter_map, List.map_map]
    rfl
  rw [total_of_effected h, hremoved, Registry.total]
  simp only [heffect, Operation.born, List.map_nil, List.sum_nil]
  omega

/-- The totals grow by what each moment contributes. -/
theorem total_after (h : m.before.IsSound) (f : Figure) :
    m.after.total f = m.before.total f + f.ofMoment m := by
  have heffected := Registry.effected_perform h m.now m.operation
  cases hop : m.operation.target? with
  | some id => exact total_of_target h hop f
  | none =>
    obtain ⟨r, now, op⟩ := m
    cases op with
    | create localEnd remoteEnd isn =>
      refine (total_of_unchanged heffected (by simp) (fun _ _ => rfl) f).trans ?_
      cases f <;> rfl
    | reclaim instant threshold =>
      refine (total_of_reclaim heffected f).trans ?_
      cases f <;> rfl
    | purge =>
      refine (total_of_purge heffected f).trans ?_
      cases f <;> rfl
    | ids | size | census =>
      refine (total_of_unchanged heffected (by simp) (fun _ _ => rfl) f).trans ?_
      cases f <;> rfl
    | _ => cases hop

/-- After every history the totals are what its moments have contributed. -/
theorem total_run (profile : Profile) (latency : Latency) (history : List (Instant × Operation))
    (f : Figure) :
    ((Registry.empty profile latency).run history).2.total f =
      (((Registry.empty profile latency).moments history).map f.ofMoment).sum := by
  refine (Registry.history_induction (Registry.isSound_empty profile latency)
    (motive := fun past r => r.total f = (past.map f.ofMoment).sum) ?_ ?_ history).2
  · rw [Registry.total, Registry.entries_empty]
    cases f <;> rfl
  · intro past m hsound hpast
    rw [total_after hsound, hpast, List.map_append, List.sum_append_nat]
    rfl

end Totals

end Switchboard
