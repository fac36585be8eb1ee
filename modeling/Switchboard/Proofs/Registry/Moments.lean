import Mathlib.Data.List.Induction
import Switchboard.Proofs.Registry.Effects

/-!
# Moments

A history seen as a list of moments: each operation together with the registry in which it happens.
What somebody who watches a registry could write down about a moment is a function of the answer of
the operation and of the registry before and after it. Statements about whole histories are proved
moment by moment (`history_induction`).
-/

namespace Switchboard

/-- An operation, and the registry in which it happens. -/
structure Moment where
  before : Registry
  now : Instant
  operation : Operation

namespace Moment

/-- What the operation answers. -/
def answer (m : Moment) : Answer :=
  (m.before.perform m.now m.operation).1

/-- The registry after the operation. -/
def after (m : Moment) : Registry :=
  (m.before.perform m.now m.operation).2

end Moment

namespace Registry

/-- The frames that a connection has transmitted and that nobody has collected. -/
def pending (r : Registry) (id : ConnectionId) : List Bytes :=
  match r.get? id with
  | some c => c.outbox.toList
  | none => []

/-- The messages that a connection has dispatched and that nobody has collected. -/
def waiting (r : Registry) (id : ConnectionId) : List Message :=
  match r.get? id with
  | some c => c.inbox.toList
  | none => []

end Registry

namespace Moment

/-- The number of connections that are made. -/
def created (m : Moment) : Nat :=
  match m.operation with
  | .create _ _ _ => 1
  | _ => 0

/-- The bytes of a delivery, if its target is held and established. -/
def received (m : Moment) : List Bytes :=
  match m.operation with
  | .deliver id chunk => if m.before.state id = .ok .established then [chunk] else []
  | _ => []

/-- The messages that a connection dispatches. -/
def dispatched (m : Moment) (id : ConnectionId) : List Message :=
  (m.after.waiting id).drop (m.before.waiting id).length

/-- The frames that are placed in an outbox: a line that is sent, or the answers to the messages of
a delivery. -/
def placed (m : Moment) : List Bytes :=
  match m.operation, m.answer with
  | .send _ text, .decided (.ok true) => [encodeLine text]
  | .deliver id _, _ => Message.answers m.before.profile.policy (m.dispatched id)
  | _, _ => []

/-- The steps of the lifecycle that are taken. -/
def steps (m : Moment) : Nat :=
  match m.operation, m.answer with
  | .establish _, .decided (.ok true) => 3
  | .accept _, .decided (.ok true) => 2
  | .listen _, .decided (.ok true) => 1
  | .transition _ _, .decided (.ok true) => 1
  | .close _, .decided (.ok true) => 4
  | .peerClose _, .decided (.ok true) => 3
  | .reclaim _ _, .counted count => count
  | _, _ => 0

/-- The connection that is closed in order, if one is. -/
def closed (m : Moment) : List ConnectionId :=
  match m.operation, m.answer with
  | .close id, .decided (.ok true) => [id]
  | .peerClose id, .decided (.ok true) => [id]
  | _, _ => []

/-- The connections that are forced closed. -/
def forced (m : Moment) : List ConnectionId :=
  match m.operation with
  | .reclaim _ _ =>
    m.before.ids.filter fun id =>
      m.before.state id ≠ .ok .closed ∧ m.after.state id = .ok .closed
  | _ => []

/-- The number of connections that are removed. -/
def purged (m : Moment) : Nat :=
  match m.operation, m.answer with
  | .purge, .counted count => count
  | _, _ => 0

end Moment

namespace Registry

/-- The moments of a history, the earliest first. -/
def moments (r : Registry) : List (Instant × Operation) → List Moment
  | [] => []
  | (now, op) :: later => ⟨r, now, op⟩ :: (r.perform now op).2.moments later

/-- What a history leaves is what its last part leaves of what the first part has left. -/
theorem run_append (r : Registry) (first second : List (Instant × Operation)) :
    (r.run (first ++ second)).2 = ((r.run first).2.run second).2 := by
  induction first generalizing r with
  | nil => rfl
  | cons step later ih => exact ih _

/-- The moments of a longer history begin with those of the shorter one. -/
theorem moments_append (r : Registry) (first second : List (Instant × Operation)) :
    r.moments (first ++ second) = r.moments first ++ (r.run first).2.moments second := by
  induction first generalizing r with
  | nil => rfl
  | cons step later ih => exact congrArg (_ :: ·) (ih _)

/-- What precedes a moment of a history is a history, after which the moment happens. -/
theorem exists_of_moments_eq {r : Registry} {history : List (Instant × Operation)}
    {past later : List Moment} {m : Moment} (hsplit : r.moments history = past ++ m :: later) :
    ∃ earlier, past = r.moments earlier ∧ m.before = (r.run earlier).2 := by
  induction past generalizing r history with
  | nil =>
    cases history with
    | nil => cases hsplit
    | cons step rest =>
      obtain ⟨hm, -⟩ := List.cons.inj hsplit
      exact ⟨[], rfl, hm ▸ rfl⟩
  | cons first past ih =>
    cases history with
    | nil => cases hsplit
    | cons step rest =>
      obtain ⟨hfirst, hrest⟩ := List.cons.inj hsplit
      obtain ⟨earlier, hpast, hbefore⟩ := ih hrest
      refine ⟨step :: earlier, ?_, hbefore⟩
      rw [hpast, ← hfirst]
      rfl

/-- The moments of a history answer what the history answers. -/
theorem answers_moments (r : Registry) (history : List (Instant × Operation)) :
    (r.moments history).map Moment.answer = (r.run history).1 := by
  induction history generalizing r with
  | nil => rfl
  | cons step later ih => exact congrArg (_ :: ·) (ih _)

/-- What holds at the beginning and is kept by every operation on a sound registry holds after every
history. -/
theorem history_induction {r : Registry} (h : r.IsSound) {motive : List Moment → Registry → Prop}
    (begin : motive [] r)
    (step : ∀ past m, m.before.IsSound → motive past m.before → motive (past ++ [m]) m.after)
    (history : List (Instant × Operation)) :
    (r.run history).2.IsSound ∧ motive (r.moments history) (r.run history).2 := by
  induction history using List.reverseRecOn with
  | nil => exact ⟨h, begin⟩
  | append_singleton history last ih =>
    obtain ⟨hsound, hpast⟩ := ih
    obtain ⟨now, op⟩ := last
    rw [run_append, moments_append]
    exact ⟨isSound_perform hsound now op, step _ ⟨_, now, op⟩ hsound hpast⟩

/-- Every history keeps a registry sound. -/
theorem isSound_run {r : Registry} (h : r.IsSound) (history : List (Instant × Operation)) :
    (r.run history).2.IsSound :=
  (history_induction h (motive := fun _ _ => True) trivial (fun _ _ _ _ => trivial) history).1

/-- A history does not change what connections are made with. -/
theorem profile_run {r : Registry} (h : r.IsSound) (history : List (Instant × Operation)) :
    (r.run history).2.profile = r.profile := by
  refine (history_induction h (motive := fun _ current => current.profile = r.profile) rfl ?_
    history).2
  intro past m hsound hpast
  exact (profile_perform hsound m.now m.operation).trans hpast

/-- Every moment of a history happens in a sound registry. -/
theorem isSound_moments {r : Registry} (h : r.IsSound) (history : List (Instant × Operation)) :
    ∀ m ∈ r.moments history, m.before.IsSound := by
  refine (history_induction h (motive := fun past _ => ∀ m ∈ past, m.before.IsSound) (by simp) ?_
    history).2
  intro past m hsound hpast m' hmem
  rcases List.mem_append.1 hmem with hold | hnew
  · exact hpast m' hold
  · exact List.mem_singleton.1 hnew ▸ hsound

variable {r : Registry} {id : ConnectionId} {c : Connection}

/-- The state of a connection that is held. -/
theorem state_of_get? (hget : r.get? id = some c) : r.state id = .ok c.state := by
  rw [state, look, hget]

/-- The ids that a registry reports are those that are held. -/
theorem mem_ids (h : r.IsSound) : id ∈ r.ids ↔ ∃ c, r.get? id = some c := by
  rw [ids, List.mem_mergeSort, Shards.keys_eq, List.mem_map]
  constructor
  · rintro ⟨⟨key, c⟩, he, rfl⟩
    exact ⟨c, (mem_entries h).1 he⟩
  · rintro ⟨c, hget⟩
    exact ⟨(id, c), (mem_entries h).2 hget, rfl⟩

/-- The ids that a registry reports are those of its entries, in some order. -/
theorem ids_perm (r : Registry) : r.ids.Perm (r.entries.map Prod.fst) := by
  rw [ids, Shards.keys_eq]
  exact List.mergeSort_perm _ _

/-- No id is reported twice. -/
theorem nodup_ids (h : r.IsSound) : r.ids.Nodup :=
  r.ids_perm.nodup_iff.2 (nodup_entries h)

/-- Ids are reported in the order of their numbers. -/
theorem ids_sorted (r : Registry) : r.ids.Pairwise fun a b => a.raw ≤ b.raw := by
  have hpairwise : r.ids.Pairwise fun a b => decide (a.raw ≤ b.raw) = true :=
    List.pairwise_mergeSort (by simpa using fun a b c => Nat.le_trans)
      (by simpa using fun a b => Nat.le_total _ _) r.shards.keys
  simpa using hpairwise

/-- The connections of a registry are those that are found under its ids. -/
theorem connections_eq_filterMap (h : r.IsSound) :
    r.connections = (r.entries.map Prod.fst).filterMap r.get? := by
  rw [connections_eq, List.filterMap_map, ← List.filterMap_eq_map]
  apply List.filterMap_congr
  rintro ⟨key, c⟩ he
  exact ((mem_entries h).1 he).symm

/-- The connections of a registry are those that are found under the ids that it reports, in some
order. -/
theorem connections_perm_ids (h : r.IsSound) : r.connections.Perm (r.ids.filterMap r.get?) := by
  rw [connections_eq_filterMap h]
  exact (r.ids_perm.filterMap r.get?).symm

/-- What waits in the outbox of a connection that is held. -/
theorem pending_of_get? (hget : r.get? id = some c) : r.pending id = c.outbox.toList := by
  rw [pending, hget]

/-- What waits in the inbox of a connection that is held. -/
theorem waiting_of_get? (hget : r.get? id = some c) : r.waiting id = c.inbox.toList := by
  rw [waiting, hget]

end Registry

/-- A connection whose state is known is held. -/
theorem held_of_state {r : Registry} {id : ConnectionId} {s : State} (hstate : r.state id = .ok s) :
    ∃ c, r.get? id = some c ∧ c.state = s := by
  rw [Registry.state, Registry.look] at hstate
  split at hstate
  · next c hget => exact ⟨c, hget, Except.ok.inj hstate⟩
  · cases hstate

namespace Moment

variable {m : Moment} {id : ConnectionId} {c : Connection}

/-- An operation keeps a registry sound. -/
theorem isSound_after (h : m.before.IsSound) : m.after.IsSound :=
  Registry.isSound_perform h m.now m.operation

/-- What is found after an operation has been added, or is what has become of a connection that was
found before and not removed. -/
theorem get?_after_iff (h : m.before.IsSound) :
    m.after.get? id = some c ↔ (id, c) ∈ m.operation.born m.before m.now ∨
      ∃ c₀, m.before.get? id = some c₀ ∧ m.operation.removes c₀ = false ∧
        m.operation.effect m.before.profile m.now id c₀ = c :=
  Registry.get?_perform h m.now m.operation

/-- The answer about a connection that is held. -/
theorem answer_held (answer : Answer) (hop : m.operation.target? = some id)
    (hget : m.before.get? id = some c)
    (hanswer : m.operation.answerHeld? m.before.profile m.now c = some answer) :
    m.answer = answer :=
  Option.some.inj ((Registry.perform_held m.now hop hget).symm.trans hanswer)

/-- The answer about a connection that is not held. -/
theorem answer_missing (answer : Answer) (hop : m.operation.target? = some id)
    (hget : m.before.get? id = none) (hanswer : m.operation.answerMissing? = some answer) :
    m.answer = answer :=
  Option.some.inj ((Registry.perform_missing m.now hop hget).symm.trans hanswer)

/-- What has become of a connection that is held and named. -/
theorem get?_after (h : m.before.IsSound) (hop : m.operation.target? = some id)
    (hget : m.before.get? id = some c) :
    m.after.get? id = some (m.operation.apply m.before.profile m.now c) := by
  rw [after, Registry.get?_target h m.now hop, hget, Option.map_some]

/-- A pass over the connections forces the stale ones closed. -/
theorem mem_forced (h : m.before.IsSound) {instant : Instant} {threshold : Nat}
    (hop : m.operation = .reclaim instant threshold) (hget : m.before.get? id = some c) :
    id ∈ m.forced ↔ c.isStale instant threshold = true := by
  have hafter : m.after.get? id =
      some (if c.isStale instant threshold then c.forced m.now else c) := by
    rw [get?_after_iff h, hop]
    exact .inr ⟨c, hget, rfl, rfl⟩
  have hbefore := Registry.state_of_get? hget
  have hstate := Registry.state_of_get? hafter
  simp only [forced, hop, List.mem_filter, Registry.mem_ids h, hbefore, hstate]
  cases hstale : c.isStale instant threshold
  · simp
  · have hopen := Connection.open_of_isStale hstale
    have hclosed : (c.forced m.now).state = .closed := rfl
    simp [hopen, hget, hclosed]

end Moment

end Switchboard
