import Switchboard.Proofs.Registry.Distribution
import Switchboard.Proofs.Registry.Ledger
import Switchboard.Proofs.Registry.Origins
import Switchboard.Proofs.Registry.Refusals
import Switchboard.Proofs.Registry.Reopenings

/-!
# Identities

Ids are given out one after the other, and a connection is known by its id until it is removed. So
at any time every id that has been given out is either held or removed, and never both. The views of
the collection, which are the lookup, the listing of the ids, the number of connections, and the
census with its distribution, agree on which ones are held.

Main statement: `identities_coherent`. It rests on one invariant (`Registry.Numbered`): the ids held
and the ids removed are together the ids given out, each of them once.
-/

namespace Switchboard

/-- Whether the answer says that there is no connection of this id. -/
def Answer.isNotFound : Answer → Bool
  | .decided (.error (.notFound _)) | .frames (.error (.notFound _))
  | .messages (.error (.notFound _)) | .state (.error (.notFound _))
  | .block (.error (.notFound _)) | .held false => true
  | _ => false

/-- Consecutive ids, from a first one on. -/
def idsFrom (first count : Nat) : List ConnectionId :=
  (List.range' first count).map ConnectionId.mk

/-- Consecutive ids are those whose numbers lie between the first one and the last one. -/
theorem mem_idsFrom {first count : Nat} {id : ConnectionId} :
    id ∈ idsFrom first count ↔ first ≤ id.raw ∧ id.raw < first + count := by
  rw [idsFrom, List.mem_map]
  constructor
  · rintro ⟨raw, hraw, rfl⟩
    exact List.mem_range'_1.1 hraw
  · intro hraw
    exact ⟨id.raw, List.mem_range'_1.2 hraw, rfl⟩

/-- Consecutive ids are different. -/
theorem nodup_idsFrom (first count : Nat) : (idsFrom first count).Nodup :=
  (List.nodup_range').map fun _ _ => ConnectionId.mk.inj

/-- Consecutive ids followed by the next ones are consecutive. -/
theorem idsFrom_append (first count more : Nat) :
    idsFrom first count ++ idsFrom (first + count) more = idsFrom first (count + more) := by
  rw [idsFrom, idsFrom, ← List.map_append, List.range'_append_1, idsFrom]

namespace Operation

variable {op : Operation} {answer : Answer}

/-- An operation that names a connection which is held does not answer that there is none. -/
theorem isNotFound_of_held {profile : Profile} {now : Instant} {c : Connection}
    (h : op.answerHeld? profile now c = some answer) : answer.isNotFound = false := by
  cases op with
  | create | reclaim | purge | ids | size | census => cases h
  | _ =>
    obtain rfl := Option.some.inj h
    rfl

/-- An operation that names a connection which is not held answers that there is none, unless it is a
delivery. -/
theorem isNotFound_of_missing (hdeliver : ∀ id chunk, op ≠ .deliver id chunk)
    (h : op.answerMissing? = some answer) : answer.isNotFound = true := by
  cases op with
  | create | reclaim | purge | ids | size | census => cases h
  | deliver id chunk => exact absurd rfl (hdeliver id chunk)
  | _ =>
    obtain rfl := Option.some.inj h
    rfl

end Operation

namespace Moment

variable {m : Moment} {id : ConnectionId}

/-- The id that is given out, if one is. -/
def given (m : Moment) : List ConnectionId :=
  match m.answer with
  | .created id => [id]
  | _ => []

/-- The ids of the connections that a purge removes. -/
def removed (m : Moment) : List ConnectionId :=
  match m.operation with
  | .purge => m.before.ids.filter fun id => !m.after.contains id
  | _ => []

/-- Ids are given out in their order. -/
theorem given_eq_idsFrom (m : Moment) :
    m.given = idsFrom (1 + m.before.lastId) m.created := by
  rw [Nat.add_comm]
  obtain ⟨r, now, op⟩ := m
  cases op <;> rfl

/-- An id is given out to the connection that is added. -/
theorem given_eq_born (m : Moment) :
    m.given = (m.operation.born m.before m.now).map Prod.fst := by
  obtain ⟨r, now, op⟩ := m
  cases op <;> rfl

/-- What has been removed was held before and is not held any more. -/
theorem mem_removed (h : m.before.IsSound) : id ∈ m.removed ↔
    ∃ c, m.before.get? id = some c ∧ m.operation.removes c = true := by
  rw [removed]
  split
  · next hop =>
    rw [List.mem_filter, Registry.mem_ids h]
    constructor
    · rintro ⟨⟨c, hget⟩, hgone⟩
      refine ⟨c, hget, ?_⟩
      by_contra hkept
      have hafter : m.after.get? id = some c :=
        (get?_after_iff h).2 (.inr ⟨c, hget, Bool.eq_false_iff.2 hkept, by rw [hop]; rfl⟩)
      rw [Registry.contains, hafter] at hgone
      cases hgone
    · rintro ⟨c, hget, hremoves⟩
      refine ⟨⟨c, hget⟩, ?_⟩
      rw [Registry.contains, Bool.not_eq_true', Option.isSome_eq_false_iff, Option.isNone_iff_eq_none,
        Option.eq_none_iff_forall_ne_some]
      intro after hafter
      rcases (get?_after_iff h).1 hafter with hborn | ⟨c₀, hheld, hkept, -⟩
      · rw [hop] at hborn
        cases hborn
      · rw [Option.some.inj (hheld.symm.trans hget), hremoves] at hkept
        cases hkept
  · next hop =>
    refine iff_of_false List.not_mem_nil ?_
    rintro ⟨c, -, hremoves⟩
    rw [Registry.removes_eq_false hop] at hremoves
    cases hremoves

/-- An id is held after a moment or removed in it if it has been given out in it or was held
before. -/
theorem mem_ids_after_or_removed (h : m.before.IsSound) :
    id ∈ m.after.ids ∨ id ∈ m.removed ↔ id ∈ m.given ∨ id ∈ m.before.ids := by
  rw [Registry.mem_ids (isSound_after h), Registry.mem_ids h, mem_removed h, given_eq_born]
  constructor
  · rintro (⟨c, hafter⟩ | ⟨c, hget, -⟩)
    · rcases (get?_after_iff h).1 hafter with hborn | ⟨c₀, hget, -⟩
      · exact .inl (List.mem_map_of_mem hborn)
      · exact .inr ⟨c₀, hget⟩
    · exact .inr ⟨c, hget⟩
  · rintro (hgiven | ⟨c, hget⟩)
    · obtain ⟨⟨key, c⟩, hborn, rfl⟩ := List.mem_map.1 hgiven
      exact .inl ⟨c, (get?_after_iff h).2 (.inl hborn)⟩
    · cases hremoves : m.operation.removes c with
      | true => exact .inr ⟨c, hget, hremoves⟩
      | false => exact .inl ⟨_, (get?_after_iff h).2 (.inr ⟨c, hget, hremoves, rfl⟩)⟩

/-- What is removed is not held afterwards. -/
theorem not_mem_ids_after_of_removed (h : m.before.IsSound) (hremoved : id ∈ m.removed) :
    id ∉ m.after.ids := by
  rw [Registry.mem_ids (isSound_after h)]
  rintro ⟨c, hafter⟩
  rw [removed] at hremoved
  split at hremoved
  · have hgone := (List.mem_filter.1 hremoved).2
    rw [Registry.contains, hafter] at hgone
    cases hgone
  · cases hremoved

/-- No id is removed twice. -/
theorem nodup_removed (h : m.before.IsSound) : m.removed.Nodup := by
  rw [removed]
  split
  · exact (Registry.nodup_ids h).filter _
  · exact List.nodup_nil

/-- No id that is held is given out. -/
theorem not_mem_given_of_held (h : m.before.IsSound) (hheld : id ∈ m.before.ids) :
    id ∉ m.given := by
  rw [given_eq_born]
  intro hgiven
  obtain ⟨c, hget⟩ := (Registry.mem_ids h).1 hheld
  obtain ⟨⟨key, c'⟩, hborn, rfl⟩ := List.mem_map.1 hgiven
  exact Registry.not_mem_born (h.known key c hget) hborn

/-- The ids held after a moment and those removed in it are the ids given out in it and those held
before. -/
theorem ids_after_perm (h : m.before.IsSound) :
    (m.after.ids ++ m.removed).Perm (m.given ++ m.before.ids) := by
  have hleft : (m.after.ids ++ m.removed).Nodup :=
    (Registry.nodup_ids (isSound_after h)).append (nodup_removed h) fun id hheld hremoved =>
      not_mem_ids_after_of_removed h hremoved hheld
  have hgiven : m.given.Nodup := m.given_eq_idsFrom ▸ nodup_idsFrom ..
  have hright : (m.given ++ m.before.ids).Nodup :=
    hgiven.append (Registry.nodup_ids h) fun id hborn hheld => not_mem_given_of_held h hheld hborn
  refine (List.perm_ext_iff_of_nodup hleft hright).2 fun id => ?_
  rw [List.mem_append, List.mem_append]
  exact mem_ids_after_or_removed h

/-- A purge counts what it removes. -/
theorem length_removed (h : m.before.IsSound) : m.removed.length = m.purged := by
  have hlength := (ids_after_perm h).length_eq
  have hentries := length_entries_after h
  rw [List.length_append, List.length_append, given_eq_idsFrom, idsFrom, List.length_map,
    List.length_range', m.after.ids_perm.length_eq, m.before.ids_perm.length_eq, List.length_map,
    List.length_map] at hlength
  omega

end Moment

namespace Registry

/-- What has been given out so far are the ids from the first one to the last one, and those that are
held and those that have been removed are together what has been given out. -/
structure Numbered (past : List Moment) (r : Registry) : Prop where
  lastId_eq : r.lastId = (past.map Moment.created).sum
  given_eq : past.flatMap Moment.given = idsFrom 1 r.lastId
  perm : (r.ids ++ past.flatMap Moment.removed).Perm (past.flatMap Moment.given)

/-- In the beginning nothing has been given out. -/
theorem numbered_empty (profile : Profile) (latency : Latency) :
    Numbered [] (empty profile latency) where
  lastId_eq := rfl
  given_eq := rfl
  perm := by
    rw [List.flatMap_nil, List.append_nil, List.flatMap_nil]
    have hids := (empty profile latency).ids_perm
    rwa [entries_empty] at hids

/-- Every moment gives out the next ids, and removes what it removes of those held. -/
theorem Numbered.after {past : List Moment} {m : Moment} (h : m.before.IsSound)
    (hpast : Numbered past m.before) : Numbered (past ++ [m]) m.after where
  lastId_eq := by
    rw [lastId_after h, hpast.lastId_eq, List.map_append, List.sum_append_nat]
    rfl
  given_eq := by
    rw [List.flatMap_append, List.flatMap_singleton, hpast.given_eq, lastId_after h,
      Moment.given_eq_idsFrom, idsFrom_append]
  perm := by
    rw [List.flatMap_append, List.flatMap_append, List.flatMap_singleton, List.flatMap_singleton]
    have hbefore : (past.flatMap Moment.removed ++ m.removed).Perm
        (m.removed ++ past.flatMap Moment.removed) := List.perm_append_comm
    calc m.after.ids ++ (past.flatMap Moment.removed ++ m.removed)
      _ |>.Perm (m.after.ids ++ m.removed ++ past.flatMap Moment.removed) := by
        rw [List.append_assoc]
        exact hbefore.append_left _
      _ |>.Perm (m.given ++ m.before.ids ++ past.flatMap Moment.removed) :=
        (Moment.ids_after_perm h).append_right _
      _ |>.Perm (m.given ++ past.flatMap Moment.given) := by
        rw [List.append_assoc]
        exact hpast.perm.append_left _
      _ |>.Perm (past.flatMap Moment.given ++ m.given) := List.perm_append_comm

/-- Every history gives out ids in this way. -/
theorem numbered_run (profile : Profile) (latency : Latency) (history : List (Instant × Operation)) :
    Numbered ((empty profile latency).moments history) ((empty profile latency).run history).2 :=
  (history_induction (isSound_empty profile latency) (numbered_empty profile latency)
    (fun _ _ hsound hpast => hpast.after hsound) history).2

section Views

variable {past : List Moment} {r : Registry} {id : ConnectionId}

/-- The ids that are held are those that have been given out and not removed. -/
theorem Numbered.mem_ids_iff (h : Numbered past r) :
    id ∈ r.ids ↔ 1 ≤ id.raw ∧ id.raw ≤ (past.map Moment.created).sum ∧
      id ∉ past.flatMap Moment.removed := by
  have hgiven : id ∈ past.flatMap Moment.given ↔ 1 ≤ id.raw ∧ id.raw ≤ r.lastId := by
    rw [h.given_eq, mem_idsFrom, Nat.lt_one_add_iff]
  have hnodup : (r.ids ++ past.flatMap Moment.removed).Nodup :=
    h.perm.nodup_iff.2 (h.given_eq ▸ nodup_idsFrom ..)
  rw [← h.lastId_eq, ← and_assoc, ← hgiven, ← h.perm.mem_iff, List.mem_append]
  constructor
  · intro hheld
    exact ⟨.inl hheld, fun hremoved => (List.nodup_append.1 hnodup).2.2 id hheld id hremoved rfl⟩
  · rintro ⟨hheld | hremoved, hkept⟩
    · exact hheld
    · exact absurd hremoved hkept

/-- An id is not held if and only if nothing is found under it. -/
theorem not_mem_ids (h : r.IsSound) : id ∉ r.ids ↔ r.get? id = none := by
  rw [mem_ids h, Option.eq_none_iff_forall_ne_some, not_exists]

/-- The ids that are held are listed in strictly ascending order. -/
theorem ids_ascending (h : r.IsSound) : r.ids.Pairwise fun a b => a.raw < b.raw := by
  have hboth := r.ids_sorted.and (nodup_ids h)
  refine hboth.imp fun {a b} hab => Nat.lt_of_le_of_ne hab.1 fun hraw => hab.2 ?_
  exact congrArg ConnectionId.mk hraw

/-- The connections in a state are those under whose ids this state is found. -/
theorem countIn_eq_ids (h : r.IsSound) (s : State) :
    Census.countIn r.connections s = (r.ids.filter fun id => r.state id = .ok s).length := by
  rw [Census.countIn, (connections_perm_ids h).countP_eq, List.countP_filterMap,
    ← List.countP_eq_length_filter]
  refine List.countP_congr fun id hid => ?_
  obtain ⟨c, hget⟩ := (mem_ids h).1 hid
  simp [hget, state_of_get? hget]

/-- There are as many connections as ids. -/
theorem length_connections (r : Registry) : r.connections.length = r.ids.length := by
  rw [connections_eq, List.length_map, r.ids_perm.length_eq, List.length_map]

/-- The operations that name a connection find it if its id is listed. -/
theorem perform_of_target (h : r.IsSound) (now : Instant) {op : Operation}
    (hop : op.target? = some id) :
    (∀ c, r.get? id = some c → op.answerHeld? r.profile now c = some (r.perform now op).1 ∧
      (r.perform now op).2.get? id = some (op.apply r.profile now c)) ∧
    (id ∉ r.ids → op.answerMissing? = some (r.perform now op).1 ∧ (r.perform now op).2 = r) ∧
    ((∀ chunk, op ≠ .deliver id chunk) →
      ((r.perform now op).1.isNotFound = true ↔ id ∉ r.ids)) := by
  have hmissing : id ∉ r.ids →
      op.answerMissing? = some (r.perform now op).1 ∧ (r.perform now op).2 = r := by
    intro hid
    have hget := (not_mem_ids h).1 hid
    exact ⟨perform_missing now hop hget, perform_unchanged_of_missing now hop hget⟩
  refine ⟨fun c hget => ⟨perform_held now hop hget, ?_⟩, hmissing, fun hdeliver => ⟨?_, ?_⟩⟩
  · rw [get?_target h now hop, hget, Option.map_some]
  · intro hnone hid
    obtain ⟨c, hget⟩ := (mem_ids h).1 hid
    rw [Operation.isNotFound_of_held (perform_held now hop hget)] at hnone
    cases hnone
  · intro hid
    refine Operation.isNotFound_of_missing (fun named chunk heq => ?_) (hmissing hid).1
    obtain rfl : named = id := by simpa [heq, Operation.target?] using hop
    exact hdeliver chunk heq

end Views

/-- What a history has removed is not held after any later one. -/
theorem not_mem_ids_of_removed {profile : Profile} {latency : Latency}
    {history : List (Instant × Operation)} {id : ConnectionId}
    (hremoved : id ∈ ((empty profile latency).moments history).flatMap Moment.removed)
    (later : List (Instant × Operation)) :
    id ∉ (((empty profile latency).run history).2.run later).2.ids := by
  have hlater := numbered_run profile latency (history ++ later)
  rw [moments_append, run_append] at hlater
  intro hheld
  obtain ⟨-, -, hkept⟩ := hlater.mem_ids_iff.1 hheld
  rw [List.flatMap_append] at hkept
  exact hkept (List.mem_append_left _ hremoved)

end Registry

/-- In every state that a history leads to, let `n` connections have been made so far. They were given
the ids 1, 2, ..., `n`, in this order. Those listed are in strictly ascending order, and they are the
ones up to `n` that no purge has removed. Every lookup and every operation that names a connection
finds it if its id is listed and answers that there is none if it is not; an id that has been removed
is never found again. Of every connection that is held, its id and its ends are those of its creation.

The number of connections, the list of ids and the census agree. The distribution has one entry for
each state in which connections are held, with their number, and the connections ever made are those
held and those removed. -/
theorem identities_coherent (profile : Profile) (latency : Latency)
    (history : List (Instant × Operation)) :
    let r := ((Registry.empty profile latency).run history).2
    let past := (Registry.empty profile latency).moments history
    let n := (past.map Moment.created).sum
    let removed := past.flatMap Moment.removed
    let census := r.census
    past.flatMap Moment.given = (List.range' 1 n).map ConnectionId.mk ∧
    r.ids.Pairwise (fun a b => a.raw < b.raw) ∧
    (∀ id, id ∈ r.ids ↔ 1 ≤ id.raw ∧ id.raw ≤ n ∧ id ∉ removed) ∧
    (∀ id, (r.contains id = true ↔ id ∈ r.ids) ∧ ((∃ s, r.state id = .ok s) ↔ id ∈ r.ids) ∧
      ((∃ b, r.block id = .ok b) ↔ id ∈ r.ids)) ∧
    (∀ op id now, op.target? = some id →
      (∀ c, r.get? id = some c → op.answerHeld? r.profile now c = some (r.perform now op).1 ∧
        (r.perform now op).2.get? id = some (op.apply r.profile now c)) ∧
      (id ∉ r.ids → op.answerMissing? = some (r.perform now op).1 ∧ (r.perform now op).2 = r) ∧
      ((∀ chunk, op ≠ .deliver id chunk) →
        ((r.perform now op).1.isNotFound = true ↔ id ∉ r.ids))) ∧
    (∀ id ∈ removed, ∀ later, (r.run later).2.contains id = false ∧
      (r.run later).2.state id = .error (.notFound id)) ∧
    (∀ id c, r.get? id = some c → c.block.id = id ∧ ∃ m ∈ past, ∃ isn,
      m.operation = .create c.block.localEnd c.block.remoteEnd isn ∧ m.answer = .created id) ∧
    (r.size = r.ids.length ∧ census.current = r.ids.length ∧
      (census.distribution.map Prod.snd).sum = r.ids.length) ∧
    ((census.distribution.map Prod.fst).Nodup ∧ ∀ s count, (s, count) ∈ census.distribution ↔
      (r.ids.filter fun id => r.state id = .ok s).length = count ∧ count ≠ 0) ∧
    census.active = census.inState .established ∧
    census.total = n ∧ n = census.current + removed.length ∧
    removed.length = (past.map Moment.purged).sum := by
  intro r past n removed census
  have hnew := Registry.isSound_empty profile latency
  have hsound : r.IsSound := Registry.isSound_run hnew history
  have hnumbered : Registry.Numbered past r := Registry.numbered_run profile latency history
  have hlengths : removed.length = (past.map Moment.purged).sum := by
    rw [List.length_flatMap]
    refine congrArg List.sum (List.map_congr_left fun m hm => ?_)
    exact Moment.length_removed (Registry.isSound_moments hnew history m hm)
  have hfound : ∀ id, id ∈ r.ids ↔ ∃ c, r.get? id = some c := fun id => Registry.mem_ids hsound
  have hcurrent : census.current = r.ids.length := r.length_connections
  refine ⟨?_, Registry.ids_ascending hsound, fun id => hnumbered.mem_ids_iff, fun id => ?_,
    fun op id now hop => Registry.perform_of_target hsound now hop, fun id hid later => ?_,
    fun id c hget => ?_, ⟨?_, hcurrent, ?_⟩, ⟨Census.nodup_distribute _, fun s count => ?_⟩,
    (r.inState_census .established).symm, ?_, ?_, hlengths⟩
  · rw [hnumbered.given_eq, hnumbered.lastId_eq, idsFrom]
  · rw [hfound, Registry.contains, Registry.state, Registry.block, Registry.look, Registry.look]
    cases r.get? id <;> simp
  · have hgone := Registry.not_mem_ids_of_removed hid later
    have hget := (Registry.not_mem_ids (Registry.isSound_run hsound later)).1 hgone
    rw [Registry.contains, Registry.state, Registry.look, hget]
    exact ⟨rfl, rfl⟩
  · obtain ⟨m, hm, localEnd, remoteEnd, isn, hop, hanswer, horiginal⟩ := Registry.made_run hget
    obtain rfl : c.block.localEnd = localEnd := congrArg Block.localEnd horiginal
    obtain rfl : c.block.remoteEnd = remoteEnd := congrArg Block.remoteEnd horiginal
    exact ⟨congrArg Block.id horiginal, m, hm, isn, hop, hanswer⟩
  · exact (Shards.size_eq _).trans (by rw [r.ids_perm.length_eq, List.length_map]; rfl)
  · exact (Census.sum_distribute _).trans r.length_connections
  · rw [Registry.mem_distribution, Registry.countIn_eq_ids hsound]
  · exact (Registry.ofCensus_census r .connections).trans (total_run profile latency history _)
  · rw [hlengths]
    exact (current_run profile latency history).symm

/-- Two connections are made, the first is opened, closed and removed, and a third one is made: it gets
the id 3, and the first one is not found, also after a fourth one has been made. -/
theorem identities_coherent_removed_first :
    let history : List (Instant × Operation) :=
      [(0, .create ⟨"10.0.0.1", 1⟩ ⟨"10.0.0.2", 2⟩ 5), (1, .create ⟨"10.0.0.1", 3⟩ ⟨"10.0.0.2", 4⟩ 6),
        (2, .establish ⟨1⟩), (3, .close ⟨1⟩), (4, .purge),
        (5, .create ⟨"10.0.0.1", 5⟩ ⟨"10.0.0.2", 6⟩ 7)]
    let r := ((Registry.empty {} .none).run history).2
    let past := (Registry.empty {} .none).moments history
    let later : List (Instant × Operation) := [(6, .create ⟨"10.0.0.1", 7⟩ ⟨"10.0.0.2", 8⟩ 8)]
    past.flatMap Moment.given = [⟨1⟩, ⟨2⟩, ⟨3⟩] ∧ ⟨1⟩ ∉ r.ids ∧ ⟨3⟩ ∈ r.ids ∧
      (past.flatMap Moment.removed).length = 1 ∧
      (r.perform 7 (.send ⟨1⟩ "PING")).1.isNotFound = true ∧
      (r.run later).2.state ⟨1⟩ = .error (.notFound ⟨1⟩) ∧
      (∃ c, r.get? ⟨3⟩ = some c ∧ c.block.id = ⟨3⟩ ∧
        (r.perform 7 (.transition ⟨3⟩ .listen)).2.get? ⟨3⟩ = some (c.advance .listen 7).2) ∧
      (r.ids.filter fun id => r.state id = .ok .closed).length = 2 := by
  intro history r past later
  have hcreated : (past.map Moment.created).sum = 3 := by decide +kernel
  have hpurged : (past.map Moment.purged).sum = 1 := by decide +kernel
  have hfirst : r.contains ⟨1⟩ = false := by decide +kernel
  have hthird : (r.get? ⟨3⟩).isSome = true := by decide +kernel
  have hentry : (.closed, 2) ∈ r.census.distribution := by decide +kernel
  obtain ⟨c, hget⟩ := Option.isSome_iff_exists.1 hthird
  obtain ⟨hgiven, -, hlisted, hlookup, hfinds, hgone, hheld, -, ⟨-, hcounts⟩, -, -, -, hlength⟩ :=
    identities_coherent {} .none history
  have hunlisted : ⟨1⟩ ∉ r.ids := fun hid => by
    rw [(hlookup ⟨1⟩).1.2 hid] at hfirst
    cases hfirst
  have hremoved : ⟨1⟩ ∈ past.flatMap Moment.removed := by
    by_contra hkept
    exact hunlisted ((hlisted ⟨1⟩).2 ⟨Nat.le_refl 1, hcreated.symm ▸ by decide, hkept⟩)
  refine ⟨hgiven.trans (hcreated.symm ▸ rfl), hunlisted, (hlookup ⟨3⟩).1.1 hthird,
    hlength.trans hpurged, (hfinds (.send ⟨1⟩ "PING") ⟨1⟩ 7 rfl).2.2 (by simp) |>.2 hunlisted,
    (hgone ⟨1⟩ hremoved later).2, ⟨c, hget, (hheld ⟨3⟩ c hget).1, ?_⟩,
    ((hcounts .closed 2).1 hentry).1⟩
  exact ((hfinds (.transition ⟨3⟩ .listen) ⟨3⟩ 7 rfl).1 c hget).2

end Switchboard
