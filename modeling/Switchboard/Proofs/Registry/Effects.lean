import Switchboard.Proofs.Connection.Driving
import Switchboard.Proofs.Registry.Index
import Switchboard.Registry.Operation

/-!
# The effects of operations

An operation on a registry acts on the connections one by one. Which ones it reaches is decided by
their ids alone: the one that it names, or all of them if it names none. What it makes of a
connection is a function of that connection (`Operation.apply`), and so is what it answers about one
that it names (`Operation.answerHeld?`). Besides, a creation adds one connection, and a purge removes
those that are finished.

Main statement: after an operation the registry holds exactly the connections that this gives
(`effected_perform`, `get?_perform`). It is stated for sound registries, in which every id stands in
its own shard and has been given out; a registry that has never held a connection is sound, and
every operation keeps it so (`isSound_perform`).
-/

namespace Switchboard

namespace Operation

/-- What an operation makes of a connection that it reaches. -/
def apply (profile : Profile) (now : Instant) (c : Connection) : Operation → Connection
  | establish _ => (c.drive State.handshake now).2
  | listen _ => (c.advance .listen now).2
  | accept _ => (c.drive State.passiveOpen now).2
  | transition _ target => (c.advance target now).2
  | send _ text => if c.block.carriesData then c.transmit [encodeLine text] now else c
  | deliver _ chunk => (c.receive profile chunk now).2
  | close _ => (c.closeAlong State.teardown now).2
  | peerClose _ => (c.closeAlong State.passiveClose now).2
  | reclaim instant threshold => if c.isStale instant threshold then c.forced now else c
  | drainOutbound _ => c.drainOutbound.2
  | drainInbound _ => c.drainInbound.2
  | create .. | purge | state _ | block _ | contains _ | ids | size | census => c

/-- What an operation answers about a connection that it names and that is held. -/
def answerHeld? (profile : Profile) (now : Instant) (c : Connection) : Operation → Option Answer
  | establish _ => some (.decided (.ok (c.drive State.handshake now).1))
  | listen _ => some (.decided (.ok (c.advance .listen now).1))
  | accept _ => some (.decided (.ok (c.drive State.passiveOpen now).1))
  | transition _ target => some (.decided (.ok (c.advance target now).1))
  | send _ _ => some (.decided (.ok c.block.carriesData))
  | deliver _ chunk => some (.counted (c.receive profile chunk now).1)
  | close _ => some (.decided (.ok (c.closeAlong State.teardown now).1))
  | peerClose _ => some (.decided (.ok (c.closeAlong State.passiveClose now).1))
  | drainOutbound _ => some (.frames (.ok c.outbox.toList))
  | drainInbound _ => some (.messages (.ok c.inbox.toList))
  | state _ => some (.state (.ok c.state))
  | block _ => some (.block (.ok c.block))
  | contains _ => some (.held true)
  | create .. | reclaim .. | purge | ids | size | census => none

/-- What an operation answers about a connection that it names and that is not held. -/
def answerMissing? : Operation → Option Answer
  | establish id | listen id | accept id | transition id _ | send id _ | close id | peerClose id =>
    some (.decided (.error (.notFound id)))
  | deliver _ _ => some (.counted 0)
  | drainOutbound id => some (.frames (.error (.notFound id)))
  | drainInbound id => some (.messages (.error (.notFound id)))
  | state id => some (.state (.error (.notFound id)))
  | block id => some (.block (.error (.notFound id)))
  | contains _ => some (.held false)
  | create .. | reclaim .. | purge | ids | size | census => none

/-- Whether an operation reaches the connection of an id. -/
def reaches (op : Operation) (id : ConnectionId) : Bool :=
  op.target?.all fun named => named = id

/-- What an operation makes of the connection of an id. -/
def effect (op : Operation) (profile : Profile) (now : Instant) (id : ConnectionId)
    (c : Connection) : Connection :=
  if op.reaches id then op.apply profile now c else c

/-- Whether an operation removes a connection. -/
def removes (op : Operation) (c : Connection) : Bool :=
  op = purge && c.block.isFinished

/-- The connection that an operation adds to a registry, if it adds one. -/
def born (r : Registry) (now : Instant) : Operation → List (ConnectionId × Connection)
  | create localEnd remoteEnd isn =>
    let id : ConnectionId := ⟨r.lastId + 1⟩
    [(id, Connection.fresh r.profile id localEnd remoteEnd isn now)]
  | _ => []

end Operation

namespace Registry

open Operation (born removes effect)

variable {r : Registry} {now : Instant} {op : Operation} {id : ConnectionId} {c : Connection}

/-- Every connection that is held, with its id. -/
def entries (r : Registry) : List (ConnectionId × Connection) :=
  r.shards.entries

/-- Ids stand where they belong, and have been given out. -/
structure IsSound (r : Registry) : Prop where
  placed : r.shards.Placed
  known : ∀ id c, r.get? id = some c → id.raw ≤ r.lastId

/-- A registry that has never held a connection has no entries. -/
theorem entries_empty (profile : Profile) (latency : Latency) :
    (empty profile latency).entries = [] :=
  Shards.entries_empty

/-- A registry that has never held a connection finds none. -/
theorem get?_empty (profile : Profile) (latency : Latency) (id : ConnectionId) :
    (empty profile latency).get? id = none := by
  rw [Option.eq_none_iff_forall_ne_some]
  intro c hget
  have hmem : (id, c) ∈ (empty profile latency).entries :=
    (Shards.mem_entries Shards.placed_empty).2 hget
  rw [entries_empty] at hmem
  cases hmem

/-- A registry that has never held a connection is sound. -/
theorem isSound_empty (profile : Profile) (latency : Latency) : (empty profile latency).IsSound where
  placed := Shards.placed_empty
  known := by
    intro id c hget
    rw [get?_empty] at hget
    cases hget

/-- The connections of a registry are those of its entries. -/
theorem connections_eq (r : Registry) : r.connections = r.entries.map Prod.snd :=
  Shards.values_eq r.shards

/-- What is found in a sound registry is an entry. -/
theorem mem_entries (h : r.IsSound) : (id, c) ∈ r.entries ↔ r.get? id = some c :=
  Shards.mem_entries h.placed

/-- No id of a sound registry occurs twice. -/
theorem nodup_entries (h : r.IsSound) : (r.entries.map Prod.fst).Nodup :=
  Shards.nodup_keys h.placed

/-- The next id is not held. -/
theorem get?_next (h : r.IsSound) : r.get? ⟨r.lastId + 1⟩ = none := by
  by_contra hheld
  obtain ⟨c, hget⟩ := Option.ne_none_iff_exists'.1 hheld
  exact Nat.not_succ_le_self _ (h.known _ c hget)

/-- Only what is held under the id matters when its entry is changed. -/
theorem map_updateEntry_congr (h : r.IsSound) {change other : Connection → Connection}
    (hsame : ∀ c, r.get? id = some c → change c = other c) :
    r.entries.map (Shards.updateEntry id change) = r.entries.map (Shards.updateEntry id other) := by
  apply List.map_congr_left
  rintro ⟨key, c⟩ he
  rw [Shards.updateEntry, Shards.updateEntry]
  split
  · next hkey =>
    have hget : r.get? id = some c := hkey ▸ (mem_entries h).1 he
    rw [hsame c hget]
  · rfl

/-- Changing an entry to what it is changes nothing. -/
theorem map_updateEntry_self (entries : List (ConnectionId × Connection)) (id : ConnectionId) :
    entries.map (Shards.updateEntry id fun c => c) = entries := by
  conv_rhs => rw [← List.map_id entries]
  apply List.map_congr_left
  intro e _
  rw [Shards.updateEntry]
  split <;> rfl

/-- From one registry to another, the connection of one id has been changed, and nothing else has
happened. -/
structure Acted (r : Registry) (id : ConnectionId) (change : Connection → Connection)
    (after : Registry) : Prop where
  entries_eq : after.entries = r.entries.map (Shards.updateEntry id change)
  placed : after.shards.Placed
  profile_eq : after.profile = r.profile
  lastId_eq : after.lastId = r.lastId
  retired_eq : after.retired = r.retired

/-- If the change changes nothing, nothing has happened. -/
theorem acted_self (h : r.IsSound) (id : ConnectionId) {change : Connection → Connection}
    (hchange : ∀ c, r.get? id = some c → change c = c) : r.Acted id change r where
  entries_eq := by
    calc r.entries = r.entries.map (Shards.updateEntry id fun c => c) :=
          (map_updateEntry_self r.entries id).symm
      _ = r.entries.map (Shards.updateEntry id change) :=
          map_updateEntry_congr h fun c hget => (hchange c hget).symm
  placed := h.placed
  profile_eq := rfl
  lastId_eq := rfl
  retired_eq := rfl

/-- Acting on one connection changes it, if it is held. -/
theorem acted_act {α : Type} (h : r.IsSound) (id : ConnectionId)
    {action : Connection → α × Connection} {change : Connection → Connection}
    (hchange : ∀ c, r.get? id = some c → (action c).2 = change c) :
    r.Acted id change (r.act id action).2 := by
  cases hget : r.get? id with
  | none =>
    have hact : (r.act id action).2 = r := by rw [act, hget]
    rw [hact]
    apply acted_self h
    intro c hheld
    rw [hget] at hheld
    cases hheld
  | some c =>
    have hact : (r.act id action).2 =
        { r with shards := r.shards.modify id fun _ => (action c).2 } := by rw [act, hget]
    rw [hact]
    refine ⟨?_, Shards.placed_modify h.placed id _, rfl, rfl, rfl⟩
    rw [entries, Shards.entries_modify h.placed]
    apply map_updateEntry_congr h
    intro c' hheld
    rw [← hchange c' hheld, Option.some.inj (hget.symm.trans hheld)]

/-- Acting on one connection changes what is found under its id, in any registry. -/
theorem get?_act {α : Type} (r : Registry) (id key : ConnectionId)
    (action : Connection → α × Connection) :
    (r.act id action).2.get? key =
      if key = id then (r.get? id).map fun c => (action c).2 else r.get? key := by
  cases hget : r.get? id with
  | none =>
    have hact : (r.act id action).2 = r := by rw [act, hget]
    rw [hact]
    split
    · next hkey => rw [hkey, hget, Option.map_none]
    · rfl
  | some c =>
    have hact : (r.act id action).2 =
        { r with shards := r.shards.modify id fun _ => (action c).2 } := by rw [act, hget]
    have hshards : r.shards.get? id = some c := hget
    rw [hact, get?, Shards.get?_modify, hshards]
    rfl

/-- A pass over all connections forces the stale ones closed, in any registry. -/
theorem get?_reclaimAt (r : Registry) (instant : Instant) (threshold : Nat) (now : Instant)
    (key : ConnectionId) :
    (r.reclaimAt instant threshold now).2.get? key =
      (r.get? key).map fun c => if c.isStale instant threshold then c.forced now else c := by
  refine (Shards.get?_mapValues ..).trans (congrArg (Option.map · (r.get? key)) ?_)
  funext c
  by_cases hstale : c.isStale instant threshold = true
  · simp [hstale, Connection.reclaim?_of_isStale now hstale]
  · simp [hstale]

/-- A purge keeps the connections that are not finished, in any registry. -/
theorem get?_purge (r : Registry) (key : ConnectionId) :
    r.purge.2.get? key = (r.get? key).filter fun c => !c.block.isFinished :=
  Shards.get?_retain ..

/-- Only what an action makes of the connection matters for what is left. -/
theorem act_congr {α β : Type} {action : Connection → α × Connection}
    {other : Connection → β × Connection}
    (hsame : ∀ c, r.get? id = some c → (action c).2 = (other c).2) :
    (r.act id action).2 = (r.act id other).2 := by
  rw [act, act]
  split
  · next c hget => simp only [hsame c hget]
  · rfl

/-- An action that makes of the connection what it is leaves the registry as it is, down to the
shape of its tables. -/
theorem act_eq_self {α : Type} {action : Connection → α × Connection}
    (hsame : ∀ c, r.get? id = some c → (action c).2 = c) : (r.act id action).2 = r := by
  rw [act]
  split
  · next c hget =>
    have hshards : r.shards.modify id (fun _ => (action c).2) = r.shards :=
      (hsame c hget).symm ▸ Shards.modify_self hget
    simp only [hshards]
  · rfl

/-- Delivering has the connection receive. -/
theorem deliver_eq_act (r : Registry) (id : ConnectionId) (chunk : Bytes) (now : Instant) :
    (r.deliver id chunk now).2 = (r.act id fun c => c.receive r.profile chunk now).2 := by
  rw [deliver]
  split <;> simp_all

/-- An operation that names a connection acts on it, and on nothing else. -/
theorem perform_eq_act (now : Instant) (hop : op.target? = some id) :
    (r.perform now op).2 = (r.act id fun c => ((), op.apply r.profile now c)).2 := by
  cases op with
  | create | reclaim | purge | ids | size | census => cases hop
  | establish | listen | accept | transition | close | peerClose | drainOutbound | drainInbound =>
    cases hop
    simp only [perform, establish, listen, accept, transition, close, peerClose, drainOutbound,
      drainInbound]
    exact act_congr fun _ _ => rfl
  | send _ text =>
    cases hop
    refine act_congr fun c _ => ?_
    by_cases hdata : c.block.carriesData = true <;>
      simp [Connection.send, Operation.apply, hdata]
  | deliver _ chunk =>
    cases hop
    exact (r.deliver_eq_act id chunk now).trans (act_congr fun _ _ => rfl)
  | state | block | contains =>
    cases hop
    exact (act_eq_self fun _ _ => rfl).symm

/-- An operation that names a connection changes it, if it is held. -/
theorem acted_perform (h : r.IsSound) (now : Instant) (hop : op.target? = some id) :
    r.Acted id (op.apply r.profile now) (r.perform now op).2 := by
  rw [perform_eq_act now hop]
  exact acted_act h id fun _ _ => rfl

/-- From one registry to another, an operation has had its effect on every connection, and nothing
else has happened. -/
structure Effected (r : Registry) (now : Instant) (op : Operation) (after : Registry) : Prop where
  entries_perm : after.entries.Perm (op.born r now ++
    (r.entries.filter fun e => !op.removes e.2).map fun e =>
      (e.1, op.effect r.profile now e.1 e.2))
  placed : after.shards.Placed
  profile_eq : after.profile = r.profile
  lastId_eq : after.lastId = r.lastId + (op.born r now).length
  retired_eq : after.retired =
    (r.connections.filter op.removes).foldl (fun tally c => tally.absorb c.block) r.retired

/-- Nothing is removed except by a purge. -/
theorem removes_eq_false (hop : op ≠ .purge) (c : Connection) : op.removes c = false := by
  simp [Operation.removes, hop]

/-- An established connection is not removed. -/
theorem removes_of_established (hopen : c.state = .established) (op : Operation) :
    op.removes c = false := by
  have hunfinished : c.block.isFinished = false := by
    rw [Block.isFinished, show c.block.state = .established from hopen]
    rfl
  rw [Operation.removes, hunfinished, Bool.and_false]

/-- Without a purge the tally stays as it is. -/
theorem filter_removes (hop : op ≠ .purge) (connections : List Connection) :
    connections.filter op.removes = [] := by
  rw [List.filter_eq_nil_iff]
  intro c _
  simp [removes_eq_false hop]

/-- An operation that adds and removes nothing has had its effect if it has had it on every entry. -/
theorem effected_of_entries {after : Registry} (hborn : op.born r now = []) (hop : op ≠ .purge)
    (hentries : after.entries = r.entries.map fun e => (e.1, op.effect r.profile now e.1 e.2))
    (hplaced : after.shards.Placed) (hprofile : after.profile = r.profile)
    (hlast : after.lastId = r.lastId) (hretired : after.retired = r.retired) :
    r.Effected now op after where
  entries_perm := by
    simp [hentries, hborn, removes_eq_false hop]
  placed := hplaced
  profile_eq := hprofile
  lastId_eq := by rw [hlast, hborn, List.length_nil, Nat.add_zero]
  retired_eq := by rw [hretired, filter_removes hop, List.foldl_nil]

/-- An operation that names no connection has its effect on every entry. -/
theorem effect_of_untargeted (hop : op.target? = none) (profile : Profile) :
    op.effect profile now id c = op.apply profile now c := by
  simp [Operation.effect, Operation.reaches, hop]

/-- What an operation makes of the connection that it names. -/
theorem effect_of_target (hop : op.target? = some id) (profile : Profile)
    (now : Instant) : op.effect profile now id c = op.apply profile now c := by
  simp [Operation.effect, Operation.reaches, hop]

/-- An operation makes nothing of a connection that it does not reach. -/
theorem effect_of_other {named : ConnectionId} (hop : op.target? = some named)
    (hne : id ≠ named) (profile : Profile) (now : Instant) : op.effect profile now id c = c := by
  simp [Operation.effect, Operation.reaches, hop, hne.symm]

/-- What an operation makes of a connection: the operation names it, or is a pass over all connections,
or leaves it as it is. -/
theorem effect_cases (op : Operation) (profile : Profile) (now : Instant) (id : ConnectionId)
    (c : Connection) :
    (op.target? = some id ∧ op.effect profile now id c = op.apply profile now c) ∨
    (∃ instant threshold, op = .reclaim instant threshold ∧ op.effect profile now id c =
      if c.isStale instant threshold then c.forced now else c) ∨
    (op.target? ≠ some id ∧ (∀ instant threshold, op ≠ .reclaim instant threshold) ∧
      op.effect profile now id c = c) := by
  cases hop : op.target? with
  | some named =>
    by_cases hid : id = named
    · exact .inl ⟨congrArg some hid.symm, effect_of_target (hid ▸ hop) profile now⟩
    · refine .inr (.inr ⟨fun heq => hid (Option.some.inj heq).symm, ?_,
        effect_of_other hop hid profile now⟩)
      rintro instant threshold rfl
      cases hop
  | none =>
    rw [effect_of_untargeted hop profile]
    cases op with
    | reclaim instant threshold => exact .inr (.inl ⟨instant, threshold, rfl, rfl⟩)
    | create | purge | ids | size | census => exact .inr (.inr ⟨by simp, by simp, rfl⟩)
    | _ => cases hop

/-- An operation that names a connection adds nothing and is no purge. -/
theorem born_eq_nil_of_target (r : Registry) (now : Instant) (hop : op.target? = some id) :
    op.born r now = [] ∧ op ≠ .purge := by
  cases op with
  | create | purge => cases hop
  | _ => exact ⟨rfl, by simp⟩

/-- An operation that names a connection has had its effect if that one has been changed. -/
theorem Acted.effected {after : Registry} (hop : op.target? = some id)
    (h : r.Acted id (op.apply r.profile now) after) : r.Effected now op after := by
  obtain ⟨hborn, hpurge⟩ := born_eq_nil_of_target r now hop
  refine effected_of_entries hborn hpurge ?_ h.placed h.profile_eq h.lastId_eq h.retired_eq
  rw [h.entries_eq]
  apply List.map_congr_left
  intro e _
  by_cases hkey : e.1 = id
  · simp [Shards.updateEntry, Operation.effect, Operation.reaches, hop, hkey]
  · simp [Shards.updateEntry, Operation.effect, Operation.reaches, hop, hkey, Ne.symm hkey]

/-- A creation adds its connection. -/
theorem effected_create (h : r.IsSound) (localEnd remoteEnd : Endpoint) (isn : UInt32)
    (now : Instant) :
    r.Effected now (.create localEnd remoteEnd isn) (r.create localEnd remoteEnd isn now).2 where
  entries_perm := by
    have heffect : ∀ id c,
        (Operation.create localEnd remoteEnd isn).effect r.profile now id c = c := fun _ _ => rfl
    have hkept : ∀ c, (Operation.create localEnd remoteEnd isn).removes c = false :=
      removes_eq_false (by simp)
    simp only [hkept, heffect, Bool.not_false, List.filter_true, Prod.eta, List.map_id']
    exact Shards.entries_insert h.placed (get?_next h) _
  placed := Shards.placed_insert h.placed _ _
  profile_eq := rfl
  lastId_eq := rfl
  retired_eq := by
    rw [filter_removes (by simp)]
    rfl

/-- A pass over all connections forces the stale ones closed. -/
theorem entries_reclaimAt (r : Registry) (instant : Instant) (threshold : Nat) (now : Instant) :
    (r.reclaimAt instant threshold now).2.entries = r.entries.map fun e =>
      (e.1, if e.2.isStale instant threshold then e.2.forced now else e.2) := by
  refine (Shards.entries_mapValues r.shards _).trans (List.map_congr_left fun e _ => ?_)
  by_cases hstale : e.2.isStale instant threshold = true
  · simp [hstale, Connection.reclaim?_of_isStale now hstale]
  · simp [hstale]

/-- A pass over all connections has its effect on every one of them. -/
theorem effected_reclaim (h : r.IsSound) (instant : Instant) (threshold : Nat) (now : Instant) :
    r.Effected now (.reclaim instant threshold) (r.reclaimAt instant threshold now).2 :=
  effected_of_entries rfl (by simp) (entries_reclaimAt r instant threshold now)
    (Shards.placed_mapValues h.placed _) rfl rfl rfl

/-- A purge removes the finished connections and remembers their figures. -/
theorem effected_purge (h : r.IsSound) (now : Instant) : r.Effected now .purge r.purge.2 where
  entries_perm := by
    have hretain := Shards.entries_retain r.shards fun c => !c.block.isFinished
    have heffect : ∀ id c, Operation.purge.effect r.profile now id c = c := fun _ _ => rfl
    simp only [purge, entries, hretain, Operation.born, Operation.removes, heffect, decide_true,
      Bool.true_and, List.nil_append, Prod.eta, List.map_id']
    exact List.Perm.refl _
  placed := Shards.placed_retain h.placed _
  profile_eq := rfl
  lastId_eq := rfl
  retired_eq := rfl

/-- Every operation on a sound registry has its effect. -/
theorem effected_perform (h : r.IsSound) (now : Instant) (op : Operation) :
    r.Effected now op (r.perform now op).2 := by
  cases hop : op.target? with
  | some id => exact (acted_perform h now hop).effected hop
  | none =>
    cases op with
    | create localEnd remoteEnd isn => exact effected_create h localEnd remoteEnd isn now
    | reclaim instant threshold => exact effected_reclaim h instant threshold now
    | purge => exact effected_purge h now
    | ids | size | census =>
      exact effected_of_entries rfl (by simp) (by simp [effect_of_untargeted, hop, Operation.apply,
        perform]) h.placed rfl rfl rfl
    | _ => cases hop

/-- What an operation adds stands under the next id. -/
theorem raw_of_mem_born (hborn : (id, c) ∈ op.born r now) :
    id.raw = r.lastId + 1 ∧ (op.born r now).length = 1 := by
  cases op with
  | create localEnd remoteEnd isn =>
    obtain ⟨rfl, -⟩ := Prod.mk.inj (List.mem_singleton.1 hborn)
    exact ⟨rfl, rfl⟩
  | _ => cases hborn

/-- What an operation adds is a new connection. -/
theorem fresh_of_mem_born (hborn : (id, c) ∈ op.born r now) :
    ∃ localEnd remoteEnd isn, c = Connection.fresh r.profile id localEnd remoteEnd isn now := by
  cases op with
  | create localEnd remoteEnd isn =>
    obtain ⟨rfl, rfl⟩ := Prod.mk.inj (List.mem_singleton.1 hborn)
    exact ⟨localEnd, remoteEnd, isn, rfl⟩
  | _ => cases hborn

/-- An id that has been given out is not given out again. -/
theorem not_mem_born (hknown : id.raw ≤ r.lastId) : (id, c) ∉ op.born r now := by
  intro hborn
  have hraw := (raw_of_mem_born hborn).1
  omega

/-- An entry afterwards has been added, or is what has become of one that was not removed. -/
theorem Effected.mem_entries_iff {after : Registry} (h : r.Effected now op after) :
    (id, c) ∈ after.entries ↔ (id, c) ∈ op.born r now ∨
      ∃ c₀, (id, c₀) ∈ r.entries ∧ op.removes c₀ = false ∧
        op.effect r.profile now id c₀ = c := by
  rw [h.entries_perm.mem_iff, List.mem_append, List.mem_map]
  constructor
  · rintro (hborn | ⟨⟨key, c₀⟩, hkept, heq⟩)
    · exact .inl hborn
    · obtain ⟨rfl, hc⟩ := Prod.mk.inj heq
      obtain ⟨hmem, hremoves⟩ := List.mem_filter.1 hkept
      exact .inr ⟨c₀, hmem, by simpa using hremoves, hc⟩
  · rintro (hborn | ⟨c₀, hmem, hremoves, rfl⟩)
    · exact .inl hborn
    · exact .inr ⟨(id, c₀), List.mem_filter.2 ⟨hmem, by simp [hremoves]⟩, rfl⟩

/-- An operation keeps a registry sound. -/
theorem isSound_perform (h : r.IsSound) (now : Instant) (op : Operation) :
    (r.perform now op).2.IsSound := by
  have heffected := effected_perform h now op
  refine ⟨heffected.placed, ?_⟩
  intro id c hget
  have hmem := (Shards.mem_entries heffected.placed).2 hget
  rw [heffected.lastId_eq]
  obtain hborn | ⟨c₀, hheld, -, -⟩ := heffected.mem_entries_iff.1 hmem
  · obtain ⟨hraw, hone⟩ := raw_of_mem_born hborn
    rw [hraw, hone]
  · exact Nat.le_add_right_of_le (h.known id c₀ ((mem_entries h).1 hheld))

/-- An operation does not change what connections are made with. -/
theorem profile_perform (h : r.IsSound) (now : Instant) (op : Operation) :
    (r.perform now op).2.profile = r.profile :=
  (effected_perform h now op).profile_eq

/-- An id that has been given out stays given out. -/
theorem lastId_le_perform (h : r.IsSound) (now : Instant) (op : Operation) :
    r.lastId ≤ (r.perform now op).2.lastId := by
  rw [(effected_perform h now op).lastId_eq]
  exact Nat.le_add_right _ _

/-- What is found after an operation has been added, or is what has become of a connection that was
found before and not removed. -/
theorem get?_perform (h : r.IsSound) (now : Instant) (op : Operation) :
    (r.perform now op).2.get? id = some c ↔ (id, c) ∈ op.born r now ∨
      ∃ c₀, r.get? id = some c₀ ∧ op.removes c₀ = false ∧
        op.effect r.profile now id c₀ = c := by
  rw [← mem_entries (isSound_perform h now op), (effected_perform h now op).mem_entries_iff]
  simp only [mem_entries h]

/-- An operation that names a connection which is held answers for this connection. -/
theorem perform_held (now : Instant) (hop : op.target? = some id) (hget : r.get? id = some c) :
    op.answerHeld? r.profile now c = some (r.perform now op).1 := by
  cases op with
  | create | reclaim | purge | ids | size | census => cases hop
  | send _ text =>
    cases hop
    by_cases hdata : c.block.carriesData = true <;>
      simp [Operation.answerHeld?, perform, send, act, hget, Connection.send, hdata]
  | _ =>
    cases hop
    simp [Operation.answerHeld?, perform, establish, listen, accept, transition, deliver, close,
      peerClose, drainOutbound, drainInbound, state, block, contains, act, look, hget,
      Connection.drainOutbound, Connection.drainInbound]

/-- An operation that names a connection which is not held is refused. -/
theorem perform_missing (now : Instant) (hop : op.target? = some id) (hget : r.get? id = none) :
    op.answerMissing? = some (r.perform now op).1 := by
  cases op with
  | create | reclaim | purge | ids | size | census => cases hop
  | _ =>
    cases hop
    simp [Operation.answerMissing?, perform, establish, listen, accept, transition, send, deliver,
      close, peerClose, drainOutbound, drainInbound, state, block, contains, act, look, hget]

/-- An operation that names a connection changes it, if it is held. -/
theorem get?_target (h : r.IsSound) (now : Instant) (hop : op.target? = some id) :
    (r.perform now op).2.get? id = (r.get? id).map (op.apply r.profile now) := by
  obtain ⟨hborn, hpurge⟩ := born_eq_nil_of_target r now hop
  have heffect : ∀ c, op.effect r.profile now id c = op.apply r.profile now c := fun _ =>
    effect_of_target hop r.profile now
  apply Option.ext
  intro c
  rw [get?_perform h, hborn]
  simp [removes_eq_false hpurge, heffect, Option.map_eq_some_iff]

/-- What an operation does not reach stays as it is. -/
theorem get?_other (h : r.IsSound) (now : Instant) {named : ConnectionId}
    (hop : op.target? = some named) (hne : id ≠ named) :
    (r.perform now op).2.get? id = r.get? id := by
  obtain ⟨hborn, hpurge⟩ := born_eq_nil_of_target r now hop
  have heffect : ∀ c, op.effect r.profile now id c = c := fun _ =>
    effect_of_other hop hne r.profile now
  apply Option.ext
  intro c
  rw [get?_perform h, hborn]
  simp [removes_eq_false hpurge, heffect]

end Registry

end Switchboard
