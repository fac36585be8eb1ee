import Mathlib.Data.List.Nodup
import Switchboard.Proofs.Registry.PlainRegistry

/-!
# Visits

The passes over a whole registry, connection by connection: a pass looks up one id after the other,
and deals with each connection that it is after. A pass that reclaims forces the connection closed
where it stands, one that purges adds its figures to the tally and removes it.

Main statement: a sharded registry answers every history as one with a single table, it keeps each
id once and in its own shard, and it does not matter in which order a pass visits the ids
(`sharded_eq_plain`).
-/

namespace Switchboard

namespace Shards

variable {α : Type} {s : Shards α}

/-- Take the value of an id away. -/
def erase (s : Shards α) (id : ConnectionId) : Shards α :=
  s.changeTable id fun table => table.erase id

/-- Erasing takes the value of the id and leaves the others alone. -/
theorem get?_erase (s : Shards α) (id key : ConnectionId) :
    (s.erase id).get? key = if key = id then none else s.get? key := by
  rw [get?, erase, tableOf_changeTable]
  by_cases hkey : key = id
  · subst hkey
    simp
  · rw [if_neg hkey]
    split
    · rw [Std.TreeMap.getElem?_erase, if_neg (order_ne hkey), get?]
    · rfl

/-- Erasing moves no id. -/
theorem placed_erase (h : s.Placed) (id : ConnectionId) : (s.erase id).Placed := by
  intro i e he
  rw [erase, row_changeTable] at he
  split at he
  · rw [Std.TreeMap.mem_toList_iff_getElem?_eq_some, Std.TreeMap.getElem?_erase] at he
    split at he
    · cases he
    · exact h i e (Std.TreeMap.mem_toList_iff_getElem?_eq_some.2 he)
  · exact h i e he

/-- The table of a shard holds the ids that have a value and belong there. -/
theorem mem_keys_table (h : s.Placed) (id : ConnectionId) (i : Fin shardCount) :
    id ∈ (s.tables.get i).keys ↔ (s.get? id).isSome = true ∧ shardOf id = i := by
  rw [Std.TreeMap.mem_keys, ← Std.TreeMap.isSome_getElem?_iff_mem]
  constructor
  · intro hsome
    obtain ⟨v, hv⟩ := Option.isSome_iff_exists.1 hsome
    obtain rfl : shardOf id = i := h i (id, v) (Std.TreeMap.mem_toList_iff_getElem?_eq_some.2 hv)
    exact ⟨hsome, rfl⟩
  · rintro ⟨hsome, rfl⟩
    exact hsome

end Shards

namespace Registry

variable {r : Registry} {order : List ConnectionId}

/-- Look an id up, and count and deal with its connection if a pass is after it. -/
def visit (isSought : Connection → Bool) (deal : ConnectionId → Connection → Registry → Registry)
    (visited : Nat × Registry) (id : ConnectionId) : Nat × Registry :=
  match visited.2.get? id with
  | some c => if isSought c then (visited.1 + 1, deal id c visited.2) else visited
  | none => visited

/-- Force closed, id by id, every connection that is stale. -/
def reclaimVisiting (r : Registry) (instant : Instant) (threshold : Nat) (now : Instant)
    (order : List ConnectionId) : Nat × Registry :=
  order.foldl (visit (fun c => c.isStale instant threshold) fun id c r =>
    { r with shards := r.shards.modify id fun _ => c.forced now }) (0, r)

/-- Remove, id by id, every connection that is finished. -/
def purgeVisiting (r : Registry) (order : List ConnectionId) : Nat × Registry :=
  order.foldl (visit (fun c => c.block.isFinished) fun id c r =>
    { r with shards := r.shards.erase id, retired := r.retired.absorb c.block }) (0, r)

/-- Dealing with a connection replaces or removes it, notes it in the tally, and does nothing
else. -/
structure DealsWith (deal : ConnectionId → Connection → Registry → Registry)
    (change : Connection → Option Connection) (note : Tally → Connection → Tally) : Prop where
  get?_eq : ∀ id c r key, r.get? id = some c →
    (deal id c r).get? key = if key = id then change c else r.get? key
  profile_eq : ∀ id c r, (deal id c r).profile = r.profile
  lastId_eq : ∀ id c r, (deal id c r).lastId = r.lastId
  retired_eq : ∀ id c r, (deal id c r).retired = note r.retired c
  placed : ∀ id c r, r.shards.Placed → (deal id c r).shards.Placed

/-- Forcing a connection closed deals with it. -/
theorem dealsWith_forced (now : Instant) :
    DealsWith (fun id c r => { r with shards := r.shards.modify id fun _ => c.forced now })
      (fun c => some (c.forced now)) (fun tally _ => tally) where
  get?_eq := by
    intro id c r key hget
    have hshards : r.shards.get? id = some c := hget
    refine (Shards.get?_modify ..).trans ?_
    rw [hshards]
    rfl
  profile_eq _ _ _ := rfl
  lastId_eq _ _ _ := rfl
  retired_eq _ _ _ := rfl
  placed _ _ _ h := Shards.placed_modify h _ _

/-- Removing a connection deals with it. -/
theorem dealsWith_removed :
    DealsWith
      (fun id c r => { r with shards := r.shards.erase id, retired := r.retired.absorb c.block })
      (fun _ => none) (fun tally c => tally.absorb c.block) where
  get?_eq id _ r key _ := Shards.get?_erase r.shards id key
  profile_eq _ _ _ := rfl
  lastId_eq _ _ _ := rfl
  retired_eq _ _ _ := rfl
  placed _ _ _ h := Shards.placed_erase h _

/-- From one registry to another a pass has visited ids: it has counted and noted the connections
that it is after, has dealt with these, and has left everything else alone. -/
structure Visited (isSought : Connection → Bool) (change : Connection → Option Connection)
    (note : Tally → Connection → Tally) (order : List ConnectionId) (r : Registry) (count : Nat)
    (after : Registry) : Prop where
  count_eq : count = (order.filterMap r.get?).countP isSought
  profile_eq : after.profile = r.profile
  lastId_eq : after.lastId = r.lastId
  retired_eq : after.retired = ((order.filterMap r.get?).filter isSought).foldl note r.retired
  placed : r.shards.Placed → after.shards.Placed
  get?_eq : ∀ key, after.get? key =
    if key ∈ order then (r.get? key).bind fun c => if isSought c then change c else some c
    else r.get? key

variable {isSought : Connection → Bool} {change : Connection → Option Connection}
  {note : Tally → Connection → Tally}
  {deal : ConnectionId → Connection → Registry → Registry}

/-- A visit to a connection that the pass is after counts it and deals with it. -/
theorem Visited.dealt {count : Nat} {after : Registry} {id : ConnectionId} {c : Connection}
    (h : Visited isSought change note order r count after) (hdeal : DealsWith deal change note)
    (hid : id ∉ order) (hheld : r.get? id = some c) (hc : isSought c = true) :
    Visited isSought change note (order ++ [id]) r (count + 1) (deal id c after) := by
  have hseen : (order ++ [id]).filterMap r.get? = order.filterMap r.get? ++ [c] := by
    rw [List.filterMap_append, List.filterMap_cons_some hheld, List.filterMap_nil]
  -- The earlier visits have not touched this id.
  have hget : after.get? id = some c := by rw [h.get?_eq, if_neg hid, hheld]
  refine ⟨?_, (hdeal.profile_eq id c after).trans h.profile_eq,
    (hdeal.lastId_eq id c after).trans h.lastId_eq, ?_,
    fun hr => hdeal.placed _ _ _ (h.placed hr), fun key => ?_⟩
  · rw [hseen, List.countP_append, ← h.count_eq, List.countP_singleton, if_pos hc]
  · rw [hseen, List.filter_append, List.foldl_append, ← h.retired_eq, hdeal.retired_eq,
      List.filter_cons_of_pos hc]
    rfl
  · rw [hdeal.get?_eq id c after key hget, h.get?_eq]
    by_cases hkey : key = id
    · simp [hkey, hheld, hc]
    · simp [hkey]

/-- A visit to an id under which the pass finds nothing that it is after does nothing. -/
theorem Visited.skipped {count : Nat} {after : Registry} {id : ConnectionId}
    (h : Visited isSought change note order r count after) (hid : id ∉ order)
    (hunsought : ∀ c ∈ r.get? id, isSought c ≠ true) :
    Visited isSought change note (order ++ [id]) r count after := by
  have hseen : (order ++ [id]).filterMap r.get? =
      order.filterMap r.get? ++ (r.get? id).toList := by
    rw [List.filterMap_append]
    cases hheld : r.get? id <;> simp [hheld]
  have hnone : ∀ c ∈ (r.get? id).toList, isSought c ≠ true := fun c hc =>
    hunsought c (Option.mem_toList.1 hc)
  refine ⟨?_, h.profile_eq, h.lastId_eq, ?_, h.placed, fun key => ?_⟩
  · rw [hseen, List.countP_append, ← h.count_eq, List.countP_eq_zero.2 hnone, Nat.add_zero]
  · rw [hseen, List.filter_append, List.filter_eq_nil_iff.2 hnone, List.append_nil, h.retired_eq]
  · rw [h.get?_eq]
    by_cases hkey : key = id
    · subst hkey
      cases hheld : r.get? key with
      | none => simp [hid]
      | some c => simp [hid, hunsought c hheld]
    · simp [hkey]

/-- A visit deals with the connection if the pass is after it, and does nothing otherwise. -/
theorem Visited.visit {count : Nat} {after : Registry} {id : ConnectionId}
    (h : Visited isSought change note order r count after) (hdeal : DealsWith deal change note)
    (hid : id ∉ order) :
    Visited isSought change note (order ++ [id]) r (visit isSought deal (count, after) id).1
      (visit isSought deal (count, after) id).2 := by
  have hget : after.get? id = r.get? id := by rw [h.get?_eq, if_neg hid]
  rw [Registry.visit, hget]
  cases hheld : r.get? id with
  | none =>
    refine h.skipped hid fun c hc => ?_
    rw [hheld] at hc
    cases hc
  | some c =>
    by_cases hc : isSought c = true
    · simp only [if_pos hc]
      exact h.dealt hdeal hid hheld hc
    · simp only [if_neg hc]
      refine h.skipped hid fun c' hc' => ?_
      obtain rfl : c = c' := Option.some.inj (hheld.symm.trans hc')
      exact hc

/-- A pass over distinct ids visits them. -/
theorem visited_foldl (isSought : Connection → Bool) (hdeal : DealsWith deal change note)
    (horder : order.Nodup) (r : Registry) :
    Visited isSought change note order r (order.foldl (visit isSought deal) (0, r)).1
      (order.foldl (visit isSought deal) (0, r)).2 := by
  induction order using List.reverseRecOn with
  | nil => exact ⟨rfl, rfl, rfl, rfl, id, fun key => by simp⟩
  | append_singleton order id ih =>
    have hnodup := List.nodup_append.1 horder
    have hid : id ∉ order := fun hmem => hnodup.2.2 id hmem id (List.mem_singleton.2 rfl) rfl
    rw [List.foldl_append, List.foldl_cons, List.foldl_nil]
    exact (ih hnodup.1).visit hdeal hid

/-- From outside two passes are the same if they count the same and leave the same view, and
whatever is done afterwards is answered the same. -/
structure SamePass (first second : Nat × Registry) : Prop where
  count_eq : first.1 = second.1
  view_eq : first.2.view = second.2.view
  answers_eq : ∀ later, (first.2.run later).1 = (second.2.run later).1

/-- The ids of the shards are those that are held. -/
theorem mem_shard_keys (hr : r.IsSound) (id : ConnectionId) :
    id ∈ r.shards.keys ↔ r.contains id = true := by
  have hids : id ∈ r.ids ↔ id ∈ r.shards.keys := List.mem_mergeSort
  exact hids.symm.trans ((mem_ids hr).trans Option.isSome_iff_exists.symm)

/-- An order of all ids names none of them twice. -/
theorem nodup_order (hr : r.IsSound) (horder : order.Perm r.shards.keys) : order.Nodup :=
  horder.nodup_iff.2 (Shards.keys_eq r.shards ▸ nodup_entries hr)

/-- Over all shards an id that is held stands once, and no other id stands there. -/
theorem count_keys (hr : r.IsSound) (id : ConnectionId) :
    r.shards.keys.count id = if r.contains id then 1 else 0 := by
  rw [(nodup_order hr (.refl _)).count]
  exact if_congr (mem_shard_keys hr id) rfl rfl

/-- Visiting all ids sees all connections. -/
theorem seen_perm (hr : r.IsSound) (horder : order.Perm r.shards.keys) :
    (order.filterMap r.get?).Perm r.connections := by
  rw [connections_eq_filterMap hr, entries, ← Shards.keys_eq]
  exact horder.filterMap r.get?

/-- After a pass over all ids every connection has been dealt with that the pass is after. -/
theorem Visited.get?_all {count : Nat} {after : Registry} (hr : r.IsSound)
    (horder : order.Perm r.shards.keys) (h : Visited isSought change note order r count after)
    (key : ConnectionId) :
    after.get? key = (r.get? key).bind fun c => if isSought c then change c else some c := by
  rw [h.get?_eq]
  split
  · rfl
  · next hkey =>
    rw [horder.mem_iff, mem_shard_keys hr, contains, Option.not_isSome_iff_eq_none] at hkey
    rw [hkey, Option.bind_none]

/-- A pass in any order is like one that leaves the same view, if this one is a pass of the plain
registry. -/
theorem Visited.samePass {p : PlainRegistry} {count : Nat} {after : Registry}
    {outcome : Nat × Registry} (h : Visited isSought change note order r count after)
    (hr : r.IsSound) (hsound : outcome.2.IsSound) (hplain : outcome.2.view = p.view)
    (hcount : count = outcome.1) (hview : after.view = outcome.2.view) :
    SamePass (count, after) outcome := by
  refine ⟨hcount, hview, fun later => ?_⟩
  have hafter : after.IsSound := by
    refine ⟨h.placed hr.placed, fun id c hget => ?_⟩
    have hfind : after.get? id = outcome.2.get? id := congrFun (congrArg View.find hview) id
    have hlast : after.lastId = outcome.2.lastId := congrArg View.lastId hview
    exact hlast ▸ hsound.known id c (hfind ▸ hget)
  rw [(run_eq_plain hafter (hview.trans hplain) later).1, (run_eq_plain hsound hplain later).1]

/-- It does not matter in which order a pass forces connections closed. -/
theorem reclaimVisiting_same {p : PlainRegistry} (hr : r.IsSound) (h : r.view = p.view)
    (horder : order.Perm r.shards.keys) (instant : Instant) (threshold : Nat) (now : Instant) :
    SamePass (r.reclaimVisiting instant threshold now order)
      (r.reclaimAt instant threshold now) := by
  have hvisited := visited_foldl (fun c => c.isStale instant threshold)
    (dealsWith_forced now) (nodup_order hr horder) r
  refine hvisited.samePass hr (isSound_perform hr now (.reclaim instant threshold))
    (reclaim_eq_plain hr h instant threshold now).2 ?_ ?_
  · exact hvisited.count_eq.trans ((seen_perm hr horder).countP_eq _)
  · refine View.ext hvisited.profile_eq hvisited.lastId_eq ?_ (funext fun key => ?_)
    · exact hvisited.retired_eq.trans (List.foldl_fixed _)
    · refine (hvisited.get?_all hr horder key).trans (Eq.trans ?_ (get?_reclaimAt ..).symm)
      cases r.get? key with
      | none => rfl
      | some c => exact (apply_ite some ..).symm

/-- It does not matter in which order a purge removes connections. -/
theorem purgeVisiting_same {p : PlainRegistry} (hr : r.IsSound) (h : r.view = p.view)
    (horder : order.Perm r.shards.keys) : SamePass (r.purgeVisiting order) r.purge := by
  have hvisited := visited_foldl (fun c => c.block.isFinished) dealsWith_removed
    (nodup_order hr horder) r
  have hfinished := (seen_perm hr horder).filter fun c => c.block.isFinished
  refine hvisited.samePass hr (isSound_perform hr 0 .purge) (purge_eq_plain hr h).2 ?_ ?_
  · rw [hvisited.count_eq, List.countP_eq_length_filter]
    exact hfinished.length_eq
  · refine View.ext hvisited.profile_eq hvisited.lastId_eq ?_ (funext fun key => ?_)
    · exact hvisited.retired_eq.trans (Tally.foldl_absorb_perm hfinished r.retired)
    · refine (hvisited.get?_all hr horder key).trans (Eq.trans ?_ (get?_purge ..).symm)
      cases r.get? key with
      | none => rfl
      | some c => cases hc : c.block.isFinished <;> simp [Option.filter, hc]

end Registry

/-- Every history is answered the same by a sharded registry and by one with a single table, and
both end with the same counter, profile, tally and connections. The sharded one keeps each id that
is held exactly once, in the shard that its number leaves modulo 64. It does not matter in which
order the shards and the connections in them are visited: to reclaim, to purge, or to take a census.
-/
theorem sharded_eq_plain (profile : Profile) (latency : Latency)
    (history : List (Instant × Operation)) :
    let sharded := (Registry.empty profile latency).run history
    let plain := (PlainRegistry.empty profile).run history
    let r := sharded.2
    sharded.1 = plain.1 ∧ r.view = plain.2.view ∧
      (∀ id, r.shards.keys.count id = if r.contains id then 1 else 0) ∧
      (∀ id (i : Fin shardCount), id ∈ (r.shards.tables.get i).keys ↔
        r.contains id = true ∧ id.raw % 64 = i.val) ∧
      ∀ order, order.Perm r.shards.keys →
        (∀ instant threshold now, Registry.SamePass
          (r.reclaimVisiting instant threshold now order) (r.reclaimAt instant threshold now)) ∧
        Registry.SamePass (r.purgeVisiting order) r.purge ∧
        Census.take r.retired (order.filterMap r.get?) = r.census := by
  have hempty := Registry.isSound_empty profile latency
  have hsound := Registry.isSound_run hempty history
  obtain ⟨hanswers, hview⟩ :=
    Registry.run_eq_plain hempty (Registry.view_empty profile latency) history
  refine ⟨hanswers, hview, Registry.count_keys hsound, fun id i => ?_, fun order horder =>
    ⟨Registry.reclaimVisiting_same hsound hview horder,
      Registry.purgeVisiting_same hsound hview horder,
      Census.take_perm (Registry.seen_perm hsound horder) _⟩⟩
  rw [Shards.mem_keys_table hsound.placed, Fin.ext_iff]
  rfl

set_option maxRecDepth 4000 in
/-- Of 66 connections those of the ids 1 and 65 share a shard. They are opened and closed, and a
purge that visits the last id first removes both. -/
theorem sharded_eq_plain_shared_shard :
    let history : List (Instant × Operation) :=
      List.replicate 66 (0, .create ⟨"10.0.0.1", 1⟩ ⟨"10.0.0.2", 2⟩ 5) ++
        [(1, .establish ⟨1⟩), (1, .establish ⟨65⟩), (2, .close ⟨65⟩), (3, .peerClose ⟨1⟩)]
    let sharded := (Registry.empty {} .none).run history
    let plain := (PlainRegistry.empty {}).run history
    let r := sharded.2
    sharded.1 = plain.1 ∧ r.view = plain.2.view ∧ r.shards.keys.count ⟨65⟩ = 1 ∧
      r.shards.keys.count ⟨67⟩ = 0 ∧ ⟨65⟩ ∈ (r.shards.tables.get (Shards.shardOf ⟨1⟩)).keys ∧
      (r.purgeVisiting r.shards.keys.reverse).1 = 2 := by
  intro history sharded plain r
  have hall := sharded_eq_plain {} .none history
  have hcount := hall.2.2.1
  have hpurge := (hall.2.2.2.2 _ (List.reverse_perm _)).2.1
  refine ⟨hall.1, hall.2.1, (hcount ⟨65⟩).trans ?_, (hcount ⟨67⟩).trans ?_,
    (hall.2.2.2.1 ⟨65⟩ _).2 ⟨?_, rfl⟩, hpurge.count_eq.trans ?_⟩ <;> decide +kernel

end Switchboard
