import Switchboard.Proofs.Registry.Moments

/-!
# A registry in one table

The reference for the sharded index: a registry that keeps its connections in a single table, with
the same counter of ids, the same profile and the same tally. It has the same operations, each
written down on the one table.

Both are seen through the same `View`. An operation on a registry and on its plain counterpart gives
the same answer and leaves both with the same view (`perform_eq_plain`), so every history does
(`run_eq_plain`).
-/

namespace Switchboard

/-- A registry that keeps its connections in a single table. -/
structure PlainRegistry where
  profile : Profile
  lastId : Nat
  table : Table Connection
  retired : Tally

namespace PlainRegistry

/-- A plain registry that has never held a connection. -/
def empty (profile : Profile) : PlainRegistry where
  profile := profile
  lastId := 0
  table := Std.TreeMap.empty
  retired := Tally.zero

/-- Act on one connection. -/
def act {α : Type} (p : PlainRegistry) (id : ConnectionId) (action : Connection → α × Connection) :
    Except Fault α × PlainRegistry :=
  match p.table[id]? with
  | some c => (.ok (action c).1, { p with table := p.table.insert id (action c).2 })
  | none => (.error (.notFound id), p)

/-- Look at one connection. -/
def look {α : Type} (p : PlainRegistry) (id : ConnectionId) (view : Connection → α) :
    Except Fault α :=
  (p.table[id]?.map view).elim (.error (.notFound id)) .ok

/-- Act on one connection, and answer whether it was done. -/
def decided (p : PlainRegistry) (id : ConnectionId) (action : Connection → Bool × Connection) :
    Answer × PlainRegistry :=
  (.decided (p.act id action).1, (p.act id action).2)

/-- Make a connection under the next id. -/
def create (p : PlainRegistry) (localEnd remoteEnd : Endpoint) (initialSequence : UInt32)
    (now : Instant) : Answer × PlainRegistry :=
  let id : ConnectionId := ⟨p.lastId + 1⟩
  let c := Connection.fresh p.profile id localEnd remoteEnd initialSequence now
  (.created id, { p with lastId := p.lastId + 1, table := p.table.insert id c })

/-- Send a line. -/
def send (p : PlainRegistry) (id : ConnectionId) (text : String) (now : Instant) :
    Answer × PlainRegistry :=
  p.decided id fun c =>
    match c.send (encodeLine text) now with
    | .ok sent => (true, sent)
    | .error _ => (false, c)

/-- Hand received bytes to a connection. -/
def deliver (p : PlainRegistry) (id : ConnectionId) (chunk : Bytes) (now : Instant) :
    Answer × PlainRegistry :=
  match p.act id fun c => c.receive p.profile chunk now with
  | (.ok dispatched, heard) => (.counted dispatched, heard)
  | (.error _, same) => (.counted 0, same)

/-- Force the stale connections closed. -/
def reclaim (p : PlainRegistry) (instant : Instant) (threshold : Nat) (now : Instant) :
    Answer × PlainRegistry :=
  (.counted (p.table.values.countP fun c => c.isStale instant threshold),
    { p with
      table := p.table.map fun _ c => if c.isStale instant threshold then c.forced now else c })

/-- Remove the finished connections. -/
def purge (p : PlainRegistry) : Answer × PlainRegistry :=
  let finished := p.table.values.filter fun c => c.block.isFinished
  (.counted finished.length,
    { p with
      table := p.table.filter fun _ c => !c.block.isFinished
      retired := finished.foldl (fun tally c => tally.absorb c.block) p.retired })

/-- Run one operation at an instant. -/
def perform (p : PlainRegistry) (now : Instant) : Operation → Answer × PlainRegistry
  | .create localEnd remoteEnd isn => p.create localEnd remoteEnd isn now
  | .establish id => p.decided id fun c => c.drive State.handshake now
  | .listen id => p.decided id fun c => c.advance .listen now
  | .accept id => p.decided id fun c => c.drive State.passiveOpen now
  | .transition id target => p.decided id fun c => c.advance target now
  | .send id text => p.send id text now
  | .deliver id chunk => p.deliver id chunk now
  | .close id => p.decided id fun c => c.closeAlong State.teardown now
  | .peerClose id => p.decided id fun c => c.closeAlong State.passiveClose now
  | .reclaim instant threshold => p.reclaim instant threshold now
  | .purge => p.purge
  | .drainOutbound id =>
    (.frames (p.act id Connection.drainOutbound).1, (p.act id Connection.drainOutbound).2)
  | .drainInbound id =>
    (.messages (p.act id Connection.drainInbound).1, (p.act id Connection.drainInbound).2)
  | .state id => (.state (p.look id Connection.state), p)
  | .block id => (.block (p.look id Connection.block), p)
  | .contains id => (.held (p.table.contains id), p)
  | .ids => (.ids p.table.keys, p)
  | .size => (.counted p.table.size, p)
  | .census => (.census (Census.take p.retired p.table.values), p)

/-- Run a history, earliest operation first, and list the answers. -/
def run (p : PlainRegistry) : List (Instant × Operation) → List Answer × PlainRegistry
  | [] => ([], p)
  | (now, op) :: later =>
    let (answer, next) := p.perform now op
    let (answers, last) := next.run later
    (answer :: answers, last)

end PlainRegistry

/-- What is known of a registry once it is forgotten how it keeps its connections. -/
@[ext]
structure View where
  profile : Profile
  lastId : Nat
  retired : Tally
  find : ConnectionId → Option Connection

/-- The view of a sharded registry. -/
def Registry.view (r : Registry) : View :=
  ⟨r.profile, r.lastId, r.retired, r.get?⟩

/-- The view of a plain registry. -/
def PlainRegistry.view (p : PlainRegistry) : View :=
  ⟨p.profile, p.lastId, p.retired, fun id => p.table[id]?⟩

namespace Shards

variable {α : Type}

/-- Inserting into a table gives the id its value and leaves the others alone. -/
theorem getElem?_insert_table (t : Table α) (id key : ConnectionId) (v : α) :
    (t.insert id v)[key]? = if key = id then some v else t[key]? := by
  by_cases hkey : key = id
  · subst hkey
    rw [if_pos rfl, Std.TreeMap.getElem?_insert_self]
  · rw [if_neg hkey, Std.TreeMap.getElem?_insert, if_neg (order_ne hkey)]

end Shards

namespace Tally

/-- It does not matter which of two connections is absorbed first. -/
theorem absorb_right_comm (t : Tally) (first second : Block) :
    (t.absorb first).absorb second = (t.absorb second).absorb first := by
  simp only [absorb, Nat.add_right_comm]

/-- It does not matter in which order connections are absorbed. -/
theorem foldl_absorb_perm {first second : List Connection} (h : first.Perm second) (t : Tally) :
    first.foldl (fun tally c => tally.absorb c.block) t =
      second.foldl (fun tally c => tally.absorb c.block) t :=
  h.foldl_eq' (fun c _ c' _ tally => absorb_right_comm tally c.block c'.block) t

end Tally

namespace Census

/-- A sum does not depend on the order of the connections. -/
theorem sum_perm {first second : List Connection} (h : first.Perm second)
    (figure : Connection → Nat) : sum first figure = sum second figure := by
  induction h with
  | nil => rfl
  | cons c _ ih => exact congrArg (figure c + ·) ih
  | swap c c' rest =>
    change figure c' + (figure c + sum rest figure) = figure c + (figure c' + sum rest figure)
    omega
  | trans _ _ ih ih' => exact ih.trans ih'

/-- A census does not depend on the order of the connections. -/
theorem take_perm {first second : List Connection} (h : first.Perm second) (retired : Tally) :
    take retired first = take retired second := by
  have hsum := sum_perm h
  have hcount : ∀ s, countIn first s = countIn second s := fun s => h.countP_eq _
  simp only [take, distribute, hsum, hcount, h.length_eq, h.countP_eq]

end Census

namespace Registry

variable {r : Registry} {p : PlainRegistry}

/-- Registries with the same view agree in everything but how they keep their connections. -/
theorem view_eq_iff : r.view = p.view ↔
    r.profile = p.profile ∧ r.lastId = p.lastId ∧ r.retired = p.retired ∧
      ∀ id, r.get? id = p.table[id]? := by
  rw [View.ext_iff, funext_iff]
  rfl

/-- The entries of a sound registry are those of its plain counterpart, in some order. -/
theorem entries_perm_plain (hr : r.IsSound) (h : r.view = p.view) :
    r.entries.Perm p.table.toList := by
  refine (List.perm_ext_iff_of_nodup (List.Nodup.of_map _ (nodup_entries hr)) ?_).2 ?_
  · refine List.Nodup.of_map Prod.fst ?_
    rw [Std.TreeMap.map_fst_toList_eq_keys]
    exact Std.TreeMap.nodup_keys
  · rintro ⟨id, c⟩
    rw [mem_entries hr, Std.TreeMap.mem_toList_iff_getElem?_eq_some, (view_eq_iff.1 h).2.2.2]

/-- The connections of a sound registry are those of its plain counterpart, in some order. -/
theorem connections_perm_plain (hr : r.IsSound) (h : r.view = p.view) :
    r.connections.Perm p.table.values := by
  rw [connections_eq, Shards.values_table]
  exact (entries_perm_plain hr h).map Prod.snd

/-- Both registries report their ids in ascending order. -/
theorem ids_eq_plain (hr : r.IsSound) (h : r.view = p.view) : r.ids = p.table.keys := by
  have hperm : r.ids.Perm p.table.keys := by
    rw [← Std.TreeMap.map_fst_toList_eq_keys]
    exact r.ids_perm.trans ((entries_perm_plain hr h).map Prod.fst)
  have hordered : p.table.keys.Pairwise fun a b => a.raw ≤ b.raw := by
    refine Std.TreeMap.ordered_keys.imp ?_
    intro a b hlt
    exact ConnectionId.isLE_order.1 (by rw [hlt]; rfl)
  refine hperm.eq_of_pairwise ?_ r.ids_sorted hordered
  intro a b _ _ hab hba
  cases a
  cases b
  exact congrArg ConnectionId.mk (Nat.le_antisymm hab hba)

/-- Acting on one connection is answered the same, and leaves the same view. -/
theorem act_eq_plain {α : Type} (h : r.view = p.view) (id : ConnectionId)
    (action : Connection → α × Connection) :
    (r.act id action).1 = (p.act id action).1 ∧
      (r.act id action).2.view = (p.act id action).2.view := by
  obtain ⟨hprofile, hlast, hretired, hget⟩ := view_eq_iff.1 h
  have hfind := fun key => get?_act r id key action
  cases hheld : p.table[id]? with
  | none =>
    simp only [act, PlainRegistry.act, hheld, hget]
    exact ⟨trivial, h⟩
  | some c =>
    simp only [act, hheld, hget] at hfind
    simp only [act, PlainRegistry.act, hheld, hget, true_and]
    refine view_eq_iff.2 ⟨hprofile, hlast, hretired, fun key => ?_⟩
    rw [hfind, Shards.getElem?_insert_table]
    rfl

/-- Deciding something about one connection is answered the same, and leaves the same view. -/
theorem decided_eq_plain (h : r.view = p.view) (id : ConnectionId)
    (action : Connection → Bool × Connection) :
    .decided (r.act id action).1 = (p.decided id action).1 ∧
      (r.act id action).2.view = (p.decided id action).2.view := by
  obtain ⟨hanswer, hview⟩ := act_eq_plain h id action
  exact ⟨congrArg Answer.decided hanswer, hview⟩

/-- Looking at one connection is answered the same. -/
theorem look_eq_plain {α : Type} (h : r.view = p.view) (id : ConnectionId)
    (view : Connection → α) : r.look id view = p.look id view := by
  rw [look, PlainRegistry.look, ← (view_eq_iff.1 h).2.2.2]
  cases r.get? id <;> rfl

/-- Delivering is answered the same, and leaves the same view. -/
theorem deliver_eq_plain (h : r.view = p.view) (id : ConnectionId) (chunk : Bytes)
    (now : Instant) :
    .counted (r.deliver id chunk now).1 = (p.deliver id chunk now).1 ∧
      (r.deliver id chunk now).2.view = (p.deliver id chunk now).2.view := by
  obtain ⟨hprofile, -, -, -⟩ := view_eq_iff.1 h
  obtain ⟨hanswer, hview⟩ := act_eq_plain h id fun c => c.receive r.profile chunk now
  rw [deliver, PlainRegistry.deliver, ← hprofile]
  generalize r.act id (fun c => c.receive r.profile chunk now) = first at hanswer hview
  generalize p.act id (fun c => c.receive r.profile chunk now) = second at hanswer hview
  obtain ⟨outcome, after⟩ := first
  obtain ⟨outcome', after'⟩ := second
  obtain rfl : outcome = outcome' := hanswer
  cases outcome <;> exact ⟨rfl, hview⟩

/-- Making a connection is answered the same, and leaves the same view. -/
theorem create_eq_plain (h : r.view = p.view) (localEnd remoteEnd : Endpoint) (isn : UInt32)
    (now : Instant) :
    .created (r.create localEnd remoteEnd isn now).1 = (p.create localEnd remoteEnd isn now).1 ∧
      (r.create localEnd remoteEnd isn now).2.view =
        (p.create localEnd remoteEnd isn now).2.view := by
  obtain ⟨hprofile, hlast, hretired, hget⟩ := view_eq_iff.1 h
  simp only [create, PlainRegistry.create, hprofile, hlast, true_and]
  refine view_eq_iff.2 ⟨rfl, rfl, hretired, fun key => ?_⟩
  rw [Shards.getElem?_insert_table, ← hget]
  exact Shards.get?_insert ..

/-- A pass over all connections is answered the same, and leaves the same view. -/
theorem reclaim_eq_plain (hr : r.IsSound) (h : r.view = p.view) (instant : Instant)
    (threshold : Nat) (now : Instant) :
    .counted (r.reclaimAt instant threshold now).1 = (p.reclaim instant threshold now).1 ∧
      (r.reclaimAt instant threshold now).2.view = (p.reclaim instant threshold now).2.view := by
  obtain ⟨hprofile, hlast, hretired, hget⟩ := view_eq_iff.1 h
  refine ⟨congrArg Answer.counted ((connections_perm_plain hr h).countP_eq _), ?_⟩
  refine view_eq_iff.2 ⟨hprofile, hlast, hretired, fun key => ?_⟩
  rw [get?_reclaimAt, hget, PlainRegistry.reclaim, Std.TreeMap.getElem?_map]

/-- A purge is answered the same, and leaves the same view. -/
theorem purge_eq_plain (hr : r.IsSound) (h : r.view = p.view) :
    .counted r.purge.1 = p.purge.1 ∧ r.purge.2.view = p.purge.2.view := by
  obtain ⟨hprofile, hlast, hretired, hget⟩ := view_eq_iff.1 h
  have hfinished := (connections_perm_plain hr h).filter fun c => c.block.isFinished
  refine ⟨congrArg Answer.counted hfinished.length_eq, ?_⟩
  refine view_eq_iff.2 ⟨hprofile, hlast, ?_, fun key => ?_⟩
  · rw [purge, PlainRegistry.purge, hretired]
    exact Tally.foldl_absorb_perm hfinished p.retired
  · rw [get?_purge, hget, PlainRegistry.purge, Std.TreeMap.getElem?_filter,
      Option.pfilter_eq_filter]

/-- An operation on a sound registry and on its plain counterpart is answered the same, and leaves
both with the same view. -/
theorem perform_eq_plain (hr : r.IsSound) (h : r.view = p.view) (now : Instant) (op : Operation) :
    (r.perform now op).1 = (p.perform now op).1 ∧
      (r.perform now op).2.view = (p.perform now op).2.view := by
  obtain ⟨-, -, hretired, hget⟩ := view_eq_iff.1 h
  cases op with
  | create localEnd remoteEnd isn => exact create_eq_plain h localEnd remoteEnd isn now
  | establish id => exact decided_eq_plain h id fun c => c.drive State.handshake now
  | listen id => exact decided_eq_plain h id fun c => c.advance .listen now
  | accept id => exact decided_eq_plain h id fun c => c.drive State.passiveOpen now
  | transition id target => exact decided_eq_plain h id fun c => c.advance target now
  | send id text => exact decided_eq_plain h id _
  | deliver id chunk => exact deliver_eq_plain h id chunk now
  | close id => exact decided_eq_plain h id fun c => c.closeAlong State.teardown now
  | peerClose id => exact decided_eq_plain h id fun c => c.closeAlong State.passiveClose now
  | reclaim instant threshold => exact reclaim_eq_plain hr h instant threshold now
  | purge => exact purge_eq_plain hr h
  | drainOutbound id =>
    obtain ⟨hanswer, hview⟩ := act_eq_plain h id Connection.drainOutbound
    exact ⟨congrArg Answer.frames hanswer, hview⟩
  | drainInbound id =>
    obtain ⟨hanswer, hview⟩ := act_eq_plain h id Connection.drainInbound
    exact ⟨congrArg Answer.messages hanswer, hview⟩
  | state id => exact ⟨congrArg Answer.state (look_eq_plain h id _), h⟩
  | block id => exact ⟨congrArg Answer.block (look_eq_plain h id _), h⟩
  | contains id =>
    refine ⟨congrArg Answer.held ?_, h⟩
    rw [contains, hget, Std.TreeMap.contains_eq_isSome_getElem?]
  | ids => exact ⟨congrArg Answer.ids (ids_eq_plain hr h), h⟩
  | size =>
    refine ⟨congrArg Answer.counted ?_, h⟩
    rw [size, Shards.size_eq, ← Std.TreeMap.length_toList]
    exact (entries_perm_plain hr h).length_eq
  | census =>
    refine ⟨congrArg Answer.census ?_, h⟩
    rw [census, hretired]
    exact Census.take_perm (connections_perm_plain hr h) p.retired

/-- A history is answered the same by a sound registry and by its plain counterpart, and leaves both
with the same view. -/
theorem run_eq_plain (hr : r.IsSound) (h : r.view = p.view)
    (history : List (Instant × Operation)) :
    (r.run history).1 = (p.run history).1 ∧ (r.run history).2.view = (p.run history).2.view := by
  induction history generalizing r p with
  | nil => exact ⟨rfl, h⟩
  | cons step later ih =>
    obtain ⟨now, op⟩ := step
    obtain ⟨hanswer, hview⟩ := perform_eq_plain hr h now op
    obtain ⟨hanswers, hlast⟩ := ih (isSound_perform hr now op) hview
    exact ⟨congrArg₂ List.cons hanswer hanswers, hlast⟩

/-- Neither registry finds anything at first. -/
theorem view_empty (profile : Profile) (latency : Latency) :
    (empty profile latency).view = (PlainRegistry.empty profile).view := by
  refine view_eq_iff.2 ⟨rfl, rfl, rfl, fun id => ?_⟩
  exact (get?_empty profile latency id).trans Std.TreeMap.getElem?_emptyc.symm

end Registry

end Switchboard
