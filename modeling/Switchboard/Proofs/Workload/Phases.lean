import Switchboard.Proofs.Registry.Works
import Switchboard.Workload.Round

/-!
# The phases of a round

What each phase of a round does to the registry, and that what it counts is the work that it does
there. A phase leaves alone the connections with which it has nothing to do, and for the others it
tells how far they have come (`Life`).

No connection refuses anything in a round. Those of a batch have just been made when they are opened,
they are established and clean when they talk, and established when they are closed; the answers of
the peer are heard in silence.
-/

namespace Switchboard

/-- How far a connection has come. -/
structure Life where
  state : State
  transitions : Nat
  timedOut : Bool
  gracefullyClosed : Bool
  deriving Repr, DecidableEq

namespace Life

/-- It has just been made. -/
def made : Life := ⟨.closed, 0, false, false⟩

/-- It has been opened. -/
def opened : Life := ⟨.established, 3, false, false⟩

/-- It has been opened and taken down. -/
def takenDown : Life := ⟨.closed, 7, false, true⟩

/-- It has been opened and forced closed. -/
def reclaimed : Life := ⟨.closed, 4, true, false⟩

end Life

namespace Connection

/-- How far the connection has come. -/
def life (c : Connection) : Life :=
  ⟨c.state, c.block.transitions, c.block.timedOut, c.block.gracefullyClosed⟩

/-- It has been opened, and nothing is left in its receiver. -/
structure Ready (c : Connection) : Prop where
  life_eq : c.life = Life.opened
  isClean : c.receiver.IsClean

variable {c after : Connection} {received sent : List Bytes}

/-- A connection that is ready is established. -/
theorem Ready.state_eq (h : c.Ready) : c.state = .established := congrArg Life.state h.life_eq

/-- Traffic does not change how far a connection has come. -/
theorem life_of_carried (h : c.block.Carried received sent after.block) : after.life = c.life := by
  rw [life, life, state, state, h.state_eq, h.transitions_eq, h.timedOut_eq, h.gracefullyClosed_eq]

/-- A connection that has just been made is opened, and then ready. -/
theorem ready_handshake (hmade : c.life = Life.made) (hclean : c.receiver.IsClean) (now : Instant) :
    (c.enterAll now State.handshake).Ready := by
  have hblock : (c.enterAll now State.handshake).block = _ :=
    Block.enterAll_eq c.block now State.handshake
  obtain ⟨hstate, htransitions, htimed, hgraceful⟩ := Life.mk.inj hmade
  refine ⟨?_, hclean⟩
  rw [life, state, hblock, Life.opened, htransitions, htimed, hgraceful]
  rfl

/-- A connection that is ready is taken down. -/
theorem life_teardown (hready : c.Ready) (now : Instant) :
    (c.closedAlong now State.teardown).life = Life.takenDown := by
  obtain ⟨hstate, htransitions, htimed, hgraceful⟩ := Life.mk.inj hready.life_eq
  rw [life, state, block_closedAlong, Life.takenDown, htransitions, htimed]
  rfl

end Connection

namespace Registry

variable {r : Registry} {id : ConnectionId} {c : Connection}

/-- What is found after an operation that names a connection which is held. -/
theorem get?_performed (h : r.IsSound) (now : Instant) (op : Operation)
    (hop : op.target? = some id) (hget : r.get? id = some c) (key : ConnectionId) :
    (r.perform now op).2.get? key =
      if key = id then some (op.apply r.profile now c) else r.get? key := by
  split
  · next hkey => rw [hkey, get?_target h now hop, hget, Option.map_some]
  · next hkey => exact get?_other h now hop hkey

end Registry

namespace Stage

variable {α σ : Type} {deed : α → Stage σ → Nat × Stage σ}

/-- What is counted is added to what has been counted before. -/
theorem foldl_countEach (elements : List α) (count : Nat) (w : Stage σ) :
    elements.foldl
        (fun (count, w) element =>
          let (more, w) := deed element w
          (count + more, w))
        (count, w) =
      (count + (w.countEach deed elements).1, (w.countEach deed elements).2) := by
  induction elements generalizing count w with
  | nil => rfl
  | cons element rest ih =>
    rw [countEach, List.foldl_cons, List.foldl_cons, ih, ih]
    simp only [Nat.zero_add, Nat.add_assoc]

/-- Something is done for the first element, and then for the others. -/
theorem countEach_cons (element : α) (rest : List α) (w : Stage σ) :
    w.countEach deed (element :: rest) =
      ((deed element w).1 + ((deed element w).2.countEach deed rest).1,
        ((deed element w).2.countEach deed rest).2) := by
  rw [countEach, List.foldl_cons, foldl_countEach, Nat.zero_add]

/-- A deed visits a connection if it changes that one and no other, and counts the work that it does
there. What the connection is like before the visit and after it, and how much is counted, is left
open. -/
def Visits (deed : Stage σ → Nat × Stage σ) (id : ConnectionId) (work : Nat → Work)
    (before : Connection → Prop) (after : Connection → Connection → Prop)
    (counts : Nat → Prop) : Prop :=
  ∀ w c, w.registry.IsSound → w.registry.get? id = some c → before c →
    counts (deed w).1 ∧ w.registry.Worked (work (deed w).1) (deed w).2.registry ∧
      ∃ c', after c c' ∧ ∀ key, (deed w).2.registry.get? key =
        if key = id then some c' else w.registry.get? key

variable (id : α → ConnectionId) (work : Nat → Work) {before : Connection → Prop}
  {after : Connection → Connection → Prop} {counts : Nat → Prop} {elements : List α} {w : Stage σ}

/-- Visiting different connections one after the other visits all of them. If each visit counts one,
as many are counted as there are connections. -/
theorem countEach_visits (hzero : work 0 = {}) (hadd : ∀ a b, work (a + b) = work a + work b)
    (hdeed : ∀ x ∈ elements, Visits (deed x) (id x) work before after counts)
    (hnodup : (elements.map id).Nodup) (h : w.registry.IsSound)
    (hheld : ∀ x ∈ elements, ∃ c, w.registry.get? (id x) = some c ∧ before c) :
    let outcome := w.countEach deed elements
    w.registry.Worked (work outcome.1) outcome.2.registry ∧
      (∀ x ∈ elements, ∃ c c', w.registry.get? (id x) = some c ∧
        outcome.2.registry.get? (id x) = some c' ∧ after c c') ∧
      (∀ key, key ∉ elements.map id → outcome.2.registry.get? key = w.registry.get? key) ∧
      ((∀ n, counts n → n = 1) → outcome.1 = elements.length) := by
  induction elements generalizing w with
  | nil =>
    refine ⟨?_, by simp, fun _ _ => rfl, fun _ => rfl⟩
    change w.registry.Worked (work 0) w.registry
    rw [hzero]
    exact .refl h
  | cons x rest ih =>
    obtain ⟨hnew, hrest⟩ := List.nodup_cons.1 hnodup
    obtain ⟨c, hget, hbefore⟩ := hheld x (by simp)
    obtain ⟨hcount, hworked, c', hafter, hfound⟩ := hdeed x (by simp) w c h hget hbefore
    -- The first visit leaves the other connections as they were, because their ids are different.
    have hother : ∀ y ∈ rest, (deed x w).2.registry.get? (id y) = w.registry.get? (id y) := by
      intro y hy
      have hne : id y ≠ id x := fun heq => hnew (heq ▸ List.mem_map_of_mem hy)
      rw [hfound, if_neg hne]
    obtain ⟨hworked', hvisited, hunvisited, hcounts⟩ := ih (w := (deed x w).2)
      (fun y hy => hdeed y (by simp [hy])) hrest hworked.isSound
      fun y hy => by rw [hother y hy]; exact hheld y (by simp [hy])
    rw [countEach_cons]
    refine ⟨?_, ?_, ?_, ?_⟩
    · rw [hadd]
      exact hworked.trans hworked'
    · intro y hy
      rcases List.mem_cons.1 hy with rfl | hy
      · refine ⟨c, c', hget, ?_, hafter⟩
        rw [hunvisited _ hnew, hfound, if_pos rfl]
      · obtain ⟨d, d', hd, hd', hafterd⟩ := hvisited y hy
        exact ⟨d, d', hother y hy ▸ hd, hd', hafterd⟩
    · intro key hkey
      rw [List.map_cons, List.mem_cons, not_or] at hkey
      rw [hunvisited key hkey.2, hfound, if_neg hkey.1]
    · intro hone
      rw [hone _ hcount, hcounts hone, List.length_cons, Nat.add_comm]

end Stage

namespace Workload

variable {σ : Type} (around : Surroundings) {w : Stage σ}

/-- The last connection of a batch is made after the others. -/
theorem createBatch_append_singleton (numbers : List Nat) (i : Nat) (w : Stage σ) :
    let before := createBatch around numbers w
    let now := around.instant before.2.operations
    let last := before.2.registry.create ⟨"127.0.0.1", port i⟩ ⟨"192.168.1.1", 80⟩
      (around.initialSequence (before.2.registry.lastId + 1)) now
    createBatch around (numbers ++ [i]) w =
      (before.1.push ⟨before.2.registry.lastId + 1⟩,
        { before.2 with registry := last.2, operations := before.2.operations + 1 }) := by
  intro before now last
  rw [createBatch, List.foldl_append]
  rfl

/-- A batch is made under new ids, and nothing else happens. -/
theorem createBatch_spec (h : w.registry.IsSound) (numbers : List Nat) :
    let outcome := createBatch around numbers w
    outcome.1.size = numbers.length ∧ outcome.1.toList.Nodup ∧
      w.registry.Worked { created := numbers.length } outcome.2.registry ∧
      (∀ id ∈ outcome.1.toList, ∃ c, outcome.2.registry.get? id = some c ∧
        c.life = Life.made ∧ c.receiver.IsClean) ∧
      ∀ id, id ∉ outcome.1.toList → outcome.2.registry.get? id = w.registry.get? id := by
  induction numbers using List.reverseRecOn with
  | nil => exact ⟨rfl, List.nodup_nil, .refl h, by simp [createBatch], fun _ _ => rfl⟩
  | append_singleton numbers i ih =>
    obtain ⟨hsize, hnodup, hworked, hmade, hother⟩ := ih
    rw [createBatch_append_singleton]
    generalize createBatch around numbers w = before at *
    obtain ⟨batch, w₁⟩ := before
    let now := around.instant w₁.operations
    let localEnd : Endpoint := ⟨"127.0.0.1", port i⟩
    let remoteEnd : Endpoint := ⟨"192.168.1.1", 80⟩
    let isn := around.initialSequence (w₁.registry.lastId + 1)
    let new : ConnectionId := ⟨w₁.registry.lastId + 1⟩
    have hfound : ∀ key, (w₁.registry.create localEnd remoteEnd isn now).2.get? key =
        if key = new then
          some (Connection.fresh w₁.registry.profile new localEnd remoteEnd isn now)
        else w₁.registry.get? key := fun key => Shards.get?_insert _ _ _ key
    have hnew : new ∉ batch.toList := by
      intro hmem
      obtain ⟨c, hget, -⟩ := hmade new hmem
      exact Nat.not_succ_le_self _ (hworked.isSound.known new c hget)
    refine ⟨?_, ?_, ?_, ?_, ?_⟩
    · rw [Array.size_push, hsize, List.length_append]
      rfl
    · rw [Array.toList_push]
      refine List.nodup_append.2 ⟨hnodup, List.nodup_singleton new, ?_⟩
      rintro id hid other hlast rfl
      obtain rfl : id = new := List.mem_singleton.1 hlast
      exact hnew hid
    · rw [List.length_append]
      exact hworked.trans (Registry.worked_create hworked.isSound localEnd remoteEnd isn now)
    · intro id hid
      by_cases hkey : id = new
      · exact ⟨_, (hfound id).trans (if_pos hkey), rfl, Receiver.isClean_fresh⟩
      · rw [Array.toList_push, List.mem_append, List.mem_singleton] at hid
        obtain ⟨c, hget, hc⟩ := hmade id (hid.resolve_right hkey)
        exact ⟨c, ((hfound id).trans (if_neg hkey)).trans hget, hc⟩
    · intro id hid
      rw [Array.toList_push, List.mem_append, List.mem_singleton, not_or] at hid
      exact ((hfound id).trans (if_neg hid.2)).trans (hother id hid.1)

/-- Opening visits a connection that has just been made, which is ready then. -/
theorem visits_establishOne (id : ConnectionId) :
    Stage.Visits (establishOne (σ := σ) around id) id (fun n => { opened := n })
      (fun c => c.life = Life.made ∧ c.receiver.IsClean) (fun _ c' => c'.Ready) (· = 1) := by
  rintro w c h hget ⟨hmade, hclean⟩
  have hclosed : c.state = .closed := congrArg Life.state hmade
  have hdrive := Connection.drive_handshake (around.instant w.operations) c
  rw [if_pos hclosed] at hdrive
  have hcount : (establishOne around id w).1 = 1 := by
    change (granted (w.registry.establish id (around.instant w.operations)).1).toNat = 1
    rw [Registry.establish, Registry.act, hget]
    change (c.drive State.handshake (around.instant w.operations)).1.toNat = 1
    rw [hdrive]
    rfl
  refine ⟨hcount, ?_, c.enterAll (around.instant w.operations) State.handshake,
    Connection.ready_handshake hmade hclean _, fun key => ?_⟩
  · rw [hcount]
    exact Registry.worked_perform h _ (.establish id) rfl hget
      (Connection.did_handshake _ hclosed)
  · have hfound := Registry.get?_performed h (around.instant w.operations)
      (.establish id) rfl hget key
    rw [Operation.apply, hdrive] at hfound
    exact hfound

/-- Closing visits a connection of a batch that is ready, which is taken down then. -/
theorem visits_closeOne {batch : Array ConnectionId} {i : Nat} {id : ConnectionId}
    (hid : batch[i]? = some id) :
    Stage.Visits (closeOne (σ := σ) around batch i) id (fun n => { closed := n })
      Connection.Ready (fun _ c' => c'.life = Life.takenDown) (· = 1) := by
  intro w c h hget hready
  have hclose := Connection.closeAlong_teardown (around.instant w.operations) c
  rw [if_pos hready.state_eq] at hclose
  have hdeed : closeOne around batch i w =
      ((granted (w.registry.close id (around.instant w.operations)).1).toNat,
        (w.act around fun r now => r.close id now).2) := by
    rw [closeOne, hid]
    rfl
  have hcount : (closeOne around batch i w).1 = 1 := by
    rw [hdeed]
    change (granted (w.registry.close id (around.instant w.operations)).1).toNat = 1
    rw [Registry.close, Registry.act, hget]
    change (c.closeAlong State.teardown (around.instant w.operations)).1.toNat = 1
    rw [hclose]
    rfl
  refine ⟨hcount, ?_, c.closedAlong (around.instant w.operations) State.teardown,
    Connection.life_teardown hready _, fun key => ?_⟩
  · rw [hcount, hdeed]
    exact Registry.worked_perform h _ (.close id) rfl hget
      (Connection.did_teardown _ hready.state_eq (congrArg Life.gracefullyClosed hready.life_eq))
  · have hfound := Registry.get?_performed h (around.instant w.operations) (.close id) rfl
      hget key
    rw [Operation.apply, hclose] at hfound
    rw [hdeed]
    exact hfound

/-- Collecting visits any connection. Its queues are empty then. -/
theorem visits_collectOne (id : ConnectionId) :
    Stage.Visits (collectOne (σ := σ) around id) id (fun n => { collected := n }) (fun _ => True)
      (fun c c' => c'.life = c.life ∧ c'.inbox = Queue.empty ∧ c'.outbox = Queue.empty)
      (fun _ => True) := by
  intro w c h hget _
  let now := around.instant w.operations
  let later := around.instant (w.operations + 1)
  let middle := (w.registry.perform now (.drainOutbound id)).2
  have hcount : (collectOne around id w).1 = c.outbox.toList.length := by
    have hframes : (w.registry.drainOutbound id).1 = .ok c.outbox.toList := by
      rw [Registry.drainOutbound, Registry.act, hget]
      rfl
    simp only [collectOne, Stage.act, hframes]
  have hfirst : w.registry.Worked { collected := c.outbox.toList.length } middle :=
    Registry.worked_perform h now _ rfl hget Connection.did_drainOutbound
  have hfound := Registry.get?_performed h now (.drainOutbound id) rfl hget
  have hmiddle : middle.get? id = some c.drainOutbound.2 := (hfound id).trans (if_pos rfl)
  have hsecond : middle.Worked {} (middle.perform later (.drainInbound id)).2 :=
    Registry.worked_perform hfirst.isSound later _ rfl hmiddle Connection.did_drainInbound
  refine ⟨trivial, ?_, { c with inbox := Queue.empty, outbox := Queue.empty }, ⟨rfl, rfl, rfl⟩,
    fun key => ?_⟩
  · rw [hcount]
    exact hfirst.trans hsecond
  · have hlast := Registry.get?_performed hfirst.isSound later (.drainInbound id) rfl hmiddle
      key
    change (middle.perform later (.drainInbound id)).2.get? key = _
    rw [hlast]
    split
    · rfl
    · next hkey => rw [hfound, if_neg hkey]

end Workload

end Switchboard
