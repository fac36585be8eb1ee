import Mathlib.Logic.Function.Basic
import Switchboard.Proofs.Connection.Transfer
import Switchboard.Proofs.Registry.Moments

/-!
# Interleavings

Operations on different connections do not disturb each other. Each connection goes through its own
sequence of operations, and neither the answers nor what becomes of the connection depend on what is
done to others in between; only the stamps tell when something happened.

Main statement: every interleaving of sequences that name different connections answers each of
them, and leaves each connection, as running the sequences one after the other does, stamps aside;
what is not named stays as it is, and the census is the same (`interleaved_eq_sequential`).
-/

namespace Switchboard

/-- The block without its stamp. -/
def Block.unstamped (b : Block) : Block :=
  { b with lastActivity := 0 }

/-- The connection without its stamp. -/
def Connection.unstamped (c : Connection) : Connection :=
  { c with block := c.block.unstamped }

/-- The answer without the stamp that it may show. -/
def Answer.unstamped : Answer → Answer
  | .block (.ok b) => .block (.ok b.unstamped)
  | answer => answer

namespace Block

/-- Without stamps it does not matter when states are entered. -/
theorem unstamped_enterAll (b : Block) (now : Instant) (path : List State) :
    (b.enterAll now path).unstamped = (b.unstamped.enterAll 0 path).unstamped := by
  rw [enterAll_eq, enterAll_eq]
  rfl

/-- Without stamps it does not matter when frames are sent. -/
theorem unstamped_foldl_noteSent (frames : List Bytes) (b : Block) (now : Instant) :
    (frames.foldl (fun b frame => b.noteSent frame.length now) b).unstamped =
      (frames.foldl (fun b frame => b.noteSent frame.length 0) b.unstamped).unstamped := by
  induction frames generalizing b now with
  | nil => rfl
  | cons frame rest ih =>
    rw [List.foldl_cons, List.foldl_cons, ih, ih (b.unstamped.noteSent frame.length 0)]
    rfl

end Block

namespace Connection

variable {c : Connection} {path : List State} (now : Instant)

/-- Without stamps it does not matter when states are entered. -/
theorem unstamped_enterAll (c : Connection) (path : List State) :
    (c.enterAll now path).unstamped = (c.unstamped.enterAll 0 path).unstamped := by
  have hblock := c.block.unstamped_enterAll now path
  simp only [unstamped, enterAll, hblock]

/-- Without stamps it does not matter when a connection is closed in order. -/
theorem unstamped_closedAlong (c : Connection) (path : List State) :
    (c.closedAlong now path).unstamped = (c.unstamped.closedAlong 0 path).unstamped := by
  have hblock : (c.closedAlong now path).block.unstamped =
      (c.unstamped.closedAlong 0 path).block.unstamped := by
    rw [block_closedAlong, block_closedAlong]
    rfl
  exact congrArg (fun block => { c.closedAlong now path with block := block }) hblock

/-- Without stamps it does not matter when a step is taken or refused. -/
theorem unstamped_advance (c : Connection) (target : State) :
    (c.advance target now).1 = (c.unstamped.advance target 0).1 ∧
      (c.advance target now).2.unstamped = (c.unstamped.advance target 0).2.unstamped := by
  have hsame : c.unstamped.state = c.state := rfl
  rw [advance_eq, advance_eq, hsame]
  split
  · exact ⟨rfl, unstamped_enterAll now c [target]⟩
  · exact ⟨rfl, rfl⟩

/-- Without stamps it does not matter when a connection is driven along a path. -/
theorem unstamped_drive (c : Connection) (path : List State) :
    (c.drive path now).1 = (c.unstamped.drive path 0).1 ∧
      (c.drive path now).2.unstamped = (c.unstamped.drive path 0).2.unstamped := by
  rw [drive, drive, Block.drive_eq, Block.drive_eq]
  exact ⟨rfl, unstamped_enterAll now c _⟩

/-- Without stamps it does not matter when closing in order is done or refused. -/
theorem unstamped_closeAlong (c : Connection) (hwalk : State.established.walkable path = path) :
    (c.closeAlong path now).1 = (c.unstamped.closeAlong path 0).1 ∧
      (c.closeAlong path now).2.unstamped = (c.unstamped.closeAlong path 0).2.unstamped := by
  have hsame : c.unstamped.state = c.state := rfl
  rw [closeAlong_of_walkable now c hwalk, closeAlong_of_walkable 0 c.unstamped hwalk, hsame]
  split
  · exact ⟨rfl, unstamped_closedAlong now c path⟩
  · exact ⟨rfl, rfl⟩

/-- Without stamps it does not matter when frames are transmitted. -/
theorem unstamped_transmit (c : Connection) (frames : List Bytes) :
    (c.transmit frames now).unstamped = (c.unstamped.transmit frames 0).unstamped := by
  have hblock := Block.unstamped_foldl_noteSent frames c.block now
  exact congrArg (fun block => { c.transmit frames now with block := block }) hblock

/-- The connection after it has taken in a chunk and dispatched the messages that it completes,
before it answers. -/
def dispatched (profile : Profile) (c : Connection) (chunk : Bytes) (now : Instant) : Connection :=
  { c with
    block := c.block.noteReceived chunk.length now
    receiver := (c.receiver.feed profile.frameLimit chunk).2
    inbox := c.inbox.append (c.receiver.feed profile.frameLimit chunk).1 }

/-- The answers to the messages that a chunk completes. -/
def answersOf (profile : Profile) (c : Connection) (chunk : Bytes) : List Bytes :=
  Message.answers profile.policy (c.receiver.feed profile.frameLimit chunk).1

/-- Receiving, where data may flow, is dispatching and then answering. -/
theorem receive_eq_dispatched (profile : Profile) (chunk : Bytes) (h : c.block.carriesData = true) :
    c.receive profile chunk now = ((c.receiver.feed profile.frameLimit chunk).1.length,
      (c.dispatched profile chunk now).transmit (c.answersOf profile chunk) now) := by
  rw [receive_eq profile chunk now h]
  rfl

/-- Without stamps it does not matter when a chunk is received. -/
theorem unstamped_receive (profile : Profile) (c : Connection) (chunk : Bytes) :
    (c.receive profile chunk now).1 = (c.unstamped.receive profile chunk 0).1 ∧
      (c.receive profile chunk now).2.unstamped =
        (c.unstamped.receive profile chunk 0).2.unstamped := by
  have hsame : c.unstamped.block.carriesData = c.block.carriesData := rfl
  cases hdata : c.block.carriesData with
  | false =>
    rw [receive_of_not_carriesData profile chunk now hdata,
      receive_of_not_carriesData profile chunk 0 (hsame.trans hdata)]
    exact ⟨rfl, rfl⟩
  | true =>
    rw [receive_eq_dispatched now profile chunk hdata,
      receive_eq_dispatched 0 profile chunk (hsame.trans hdata)]
    refine ⟨rfl, ?_⟩
    calc ((c.dispatched profile chunk now).transmit (c.answersOf profile chunk) now).unstamped
        = ((c.dispatched profile chunk now).unstamped.transmit
            (c.answersOf profile chunk) 0).unstamped := unstamped_transmit now _ _
      _ = ((c.unstamped.dispatched profile chunk 0).unstamped.transmit
            (c.unstamped.answersOf profile chunk) 0).unstamped := rfl
      _ = ((c.unstamped.dispatched profile chunk 0).transmit
            (c.unstamped.answersOf profile chunk) 0).unstamped := (unstamped_transmit 0 _ _).symm

end Connection

namespace Operation

variable (profile : Profile) (now : Instant) (c : Connection)

/-- What an operation makes of the connection that it names, and what it answers about it, does not
depend on stamps or on the present, except for stamps. -/
theorem unstamped_apply {op : Operation} {id : ConnectionId} (hop : op.target? = some id) :
    (op.apply profile now c).unstamped = (op.apply profile 0 c.unstamped).unstamped ∧
      (op.answerHeld? profile now c).map Answer.unstamped =
        (op.answerHeld? profile 0 c.unstamped).map Answer.unstamped := by
  cases op with
  | create | reclaim | purge | ids | size | census => cases hop
  | establish =>
    obtain ⟨hanswer, hafter⟩ := c.unstamped_drive now State.handshake
    exact ⟨hafter, by rw [answerHeld?, answerHeld?, hanswer]⟩
  | accept =>
    obtain ⟨hanswer, hafter⟩ := c.unstamped_drive now State.passiveOpen
    exact ⟨hafter, by rw [answerHeld?, answerHeld?, hanswer]⟩
  | listen =>
    obtain ⟨hanswer, hafter⟩ := c.unstamped_advance now .listen
    exact ⟨hafter, by rw [answerHeld?, answerHeld?, hanswer]⟩
  | transition _ target =>
    obtain ⟨hanswer, hafter⟩ := c.unstamped_advance now target
    exact ⟨hafter, by rw [answerHeld?, answerHeld?, hanswer]⟩
  | close =>
    have hwalk : State.established.walkable State.teardown = State.teardown := rfl
    obtain ⟨hanswer, hafter⟩ := c.unstamped_closeAlong now hwalk
    exact ⟨hafter, by rw [answerHeld?, answerHeld?, hanswer]⟩
  | peerClose =>
    have hwalk : State.established.walkable State.passiveClose = State.passiveClose := rfl
    obtain ⟨hanswer, hafter⟩ := c.unstamped_closeAlong now hwalk
    exact ⟨hafter, by rw [answerHeld?, answerHeld?, hanswer]⟩
  | send _ text =>
    have hsame : c.unstamped.block.carriesData = c.block.carriesData := rfl
    refine ⟨?_, rfl⟩
    rw [apply, apply, hsame]
    split
    · exact Connection.unstamped_transmit now c _
    · rfl
  | deliver _ chunk =>
    obtain ⟨hanswer, hafter⟩ := Connection.unstamped_receive now profile c chunk
    exact ⟨hafter, by rw [answerHeld?, answerHeld?, hanswer]⟩
  | drainOutbound | drainInbound | state | block | contains => exact ⟨rfl, rfl⟩

end Operation

section Interleaving

variable {ι α : Type} [DecidableEq ι]

/-- The sequences of a family are taken from one element at a time, until nothing is left of any. -/
inductive Interleaving : (ι → List α) → List α → Prop
  | nil {family : ι → List α} (h : ∀ i, family i = []) : Interleaving family []
  | cons {family : ι → List α} (i : ι) (a : α) (rest merged : List α) (h : family i = a :: rest)
      (later : Interleaving (Function.update family i rest) merged) :
      Interleaving family (a :: merged)

variable {family : ι → List α} {name : α → Option ι}

/-- Every sequence is found again by the name that its elements have. -/
theorem Interleaving.filter_eq {merged : List α} (h : Interleaving family merged)
    (hnamed : ∀ i, ∀ a ∈ family i, name a = some i) :
    (∀ a ∈ merged, (name a).isSome) ∧ ∀ i, merged.filter (fun a => name a = some i) = family i := by
  induction h with
  | nil hnil => exact ⟨by simp, fun i => by rw [hnil i, List.filter_nil]⟩
  | @cons family i a rest merged hfirst _ ih =>
    have ha : name a = some i := hnamed i a (hfirst ▸ List.mem_cons_self)
    have hlater : ∀ j, ∀ b ∈ Function.update family i rest j, name b = some j := by
      intro j b hb
      by_cases hj : j = i
      · subst hj
        rw [Function.update_self] at hb
        exact hnamed j b (hfirst ▸ List.mem_cons_of_mem _ hb)
      · rw [Function.update_of_ne hj] at hb
        exact hnamed j b hb
    obtain ⟨hsome, hfilter⟩ := ih hlater
    refine ⟨List.forall_mem_cons.2 ⟨by rw [ha]; rfl, hsome⟩, fun j => ?_⟩
    by_cases hj : j = i
    · subst hj
      rw [List.filter_cons_of_pos (by simp [ha]), hfilter, Function.update_self, hfirst]
    · rw [List.filter_cons_of_neg (by simp [ha, Ne.symm hj]), hfilter, Function.update_of_ne hj]

/-- A sequence that stands at one of several places stands there once. -/
theorem flatMap_ite_eq {order : List ι} (hdistinct : order.Nodup) (i : ι) (sequence : List α) :
    (order.flatMap fun j => if j = i then sequence else []) =
      if i ∈ order then sequence else [] := by
  induction order with
  | nil => rfl
  | cons j rest ih =>
    obtain ⟨hnew, hrest⟩ := List.nodup_cons.1 hdistinct
    rw [List.flatMap_cons, ih hrest]
    by_cases hj : j = i
    · subst hj
      simp [hnew]
    · simp [hj, Ne.symm hj]

/-- One after the other, too, the sequences are found again. -/
theorem filter_flatMap_family (hnamed : ∀ i, ∀ a ∈ family i, name a = some i) {order : List ι}
    (hdistinct : order.Nodup) (hall : ∀ i, family i ≠ [] → i ∈ order) (i : ι) :
    (order.flatMap family).filter (fun a => name a = some i) = family i := by
  have hone : ∀ j,
      (family j).filter (fun a => name a = some i) = if j = i then family i else [] := by
    intro j
    split
    · next hj =>
      subst hj
      exact List.filter_eq_self.2 fun a ha => decide_eq_true (hnamed j a ha)
    · next hj =>
      refine List.filter_eq_nil_iff.2 fun a ha => ?_
      simp [hnamed j a ha, hj]
  simp only [List.filter_flatMap, hone, flatMap_ite_eq hdistinct]
  split
  · rfl
  · next hmissing => exact (not_not.1 fun hne => hmissing (hall i hne)).symm

end Interleaving

namespace Registry

variable {r other : Registry} {id : ConnectionId} {op : Operation}

/-- What the operations of a history that name a connection are answered. -/
def answersTo (r : Registry) (id : ConnectionId) (history : List (Instant × Operation)) :
    List Answer :=
  ((r.moments history).filter fun m => m.operation.target? = some id).map Moment.answer

/-- Every operation that names the connection is answered. -/
theorem length_answersTo (r : Registry) (id : ConnectionId)
    (history : List (Instant × Operation)) :
    (r.answersTo id history).length =
      ((history.map Prod.snd).filter fun op => op.target? = some id).length := by
  have hoperations : (r.moments history).map Moment.operation = history.map Prod.snd := by
    induction history generalizing r with
    | nil => rfl
    | cons step later ih => exact congrArg (step.2 :: ·) (ih _)
  rw [answersTo, List.length_map, ← hoperations, List.filter_map, List.length_map]
  rfl

/-- Two registries hold the same under an id, stamps aside. -/
structure AgreesOn (r other : Registry) (id : ConnectionId) : Prop where
  profile_eq : r.profile = other.profile
  get?_eq : (r.get? id).map Connection.unstamped = (other.get? id).map Connection.unstamped

/-- Operations on other connections keep the agreement. -/
theorem AgreesOn.perform_other (h : r.IsSound) (hagree : r.AgreesOn other id) (now : Instant)
    {named : ConnectionId} (hop : op.target? = some named) (hne : id ≠ named) :
    (r.perform now op).2.AgreesOn other id where
  profile_eq := (profile_perform h now op).trans hagree.profile_eq
  get?_eq := by rw [get?_other h now hop hne, hagree.get?_eq]

/-- An operation on the connection keeps the agreement, whenever it happens, and is answered the
same. -/
theorem AgreesOn.perform_target (h : r.IsSound) (hother : other.IsSound)
    (hagree : r.AgreesOn other id) (now later : Instant) (hop : op.target? = some id) :
    (r.perform now op).1.unstamped = (other.perform later op).1.unstamped ∧
      (r.perform now op).2.AgreesOn (other.perform later op).2 id := by
  have hprofile : (r.perform now op).2.profile = (other.perform later op).2.profile := by
    rw [profile_perform h, profile_perform hother, hagree.profile_eq]
  have hsame := hagree.get?_eq
  cases hget : r.get? id with
  | none =>
    have hmissing : other.get? id = none := by
      rw [hget, Option.map_none] at hsame
      exact Option.map_eq_none_iff.1 hsame.symm
    have hanswer : some (r.perform now op).1 = some (other.perform later op).1 :=
      (perform_missing now hop hget).symm.trans (perform_missing later hop hmissing)
    refine ⟨congrArg Answer.unstamped (Option.some.inj hanswer), hprofile, ?_⟩
    rw [get?_target h now hop, get?_target hother later hop, hget, hmissing]
    rfl
  | some c =>
    rw [hget, Option.map_some] at hsame
    obtain ⟨c', hget', hunstamped⟩ := Option.map_eq_some_iff.1 hsame.symm
    obtain ⟨happly, hanswer⟩ := Operation.unstamped_apply r.profile now c hop
    obtain ⟨happly', hanswer'⟩ := Operation.unstamped_apply r.profile later c' hop
    rw [hunstamped] at happly' hanswer'
    rw [perform_held now hop hget] at hanswer
    rw [hagree.profile_eq, perform_held later hop hget', ← hagree.profile_eq] at hanswer'
    refine ⟨?_, hprofile, ?_⟩
    · exact Option.some.inj (hanswer.trans hanswer'.symm)
    · rw [get?_target h now hop, get?_target hother later hop, hget, hget', Option.map_some,
        Option.map_some, Option.map_some, Option.map_some, ← hagree.profile_eq, happly, happly']

/-- A history answers about a connection, and leaves of it, what its own sequence alone does,
whenever the operations happen. -/
theorem AgreesOn.run {history alone : List (Instant × Operation)} (h : r.IsSound)
    (hother : other.IsSound) (hagree : r.AgreesOn other id)
    (hnamed : ∀ op ∈ history.map Prod.snd, op.target?.isSome)
    (halone : alone.map Prod.snd =
      (history.map Prod.snd).filter fun op => op.target? = some id) :
    (r.answersTo id history).map Answer.unstamped = (other.run alone).1.map Answer.unstamped ∧
      (r.run history).2.AgreesOn (other.run alone).2 id := by
  induction history generalizing r other alone with
  | nil =>
    obtain rfl : alone = [] := List.map_eq_nil_iff.1 halone
    exact ⟨rfl, hagree⟩
  | cons step later ih =>
    obtain ⟨now, op⟩ := step
    rw [List.map_cons, List.forall_mem_cons] at hnamed
    obtain ⟨named, hop⟩ := Option.isSome_iff_exists.1 hnamed.1
    have hsound := isSound_perform h now op
    have hanswers : r.answersTo id ((now, op) :: later) =
        if op.target? = some id then (r.perform now op).1 ::
          (r.perform now op).2.answersTo id later
        else (r.perform now op).2.answersTo id later := by
      rw [answersTo, moments, List.filter_cons]
      by_cases hid : op.target? = some id
      · simp only [hid, decide_true, if_true, List.map_cons]
        rfl
      · simp only [hid, decide_false, if_false, Bool.false_eq_true]
        rfl
    by_cases hid : id = named
    · subst hid
      rw [List.map_cons, List.filter_cons_of_pos (by simp [hop])] at halone
      obtain ⟨⟨time, op'⟩, rest, rfl, hfirst, hrest⟩ := List.map_eq_cons_iff.1 halone
      obtain rfl : op' = op := hfirst
      obtain ⟨hanswer, hafter⟩ := hagree.perform_target h hother now time hop
      obtain ⟨hlater, hlast⟩ := ih hsound (isSound_perform hother time op') hafter hnamed.2 hrest
      rw [hanswers, if_pos hop, List.map_cons, hanswer, hlater]
      exact ⟨rfl, hlast⟩
    · have hne : op.target? ≠ some id := fun heq => hid (Option.some.inj (heq.symm.trans hop))
      rw [List.map_cons, List.filter_cons_of_neg (by simp [hne])] at halone
      rw [hanswers, if_neg hne]
      exact ih hsound hother (hagree.perform_other h now hop hid) hnamed.2 halone

/-- From one registry to another connections may have changed, and nothing else: none has been made
or removed. -/
structure SameRoll (r after : Registry) : Prop where
  keys_eq : after.entries.map Prod.fst = r.entries.map Prod.fst
  retired_eq : after.retired = r.retired

/-- Operations that name connections make and remove none, and leave those alone that they do not
name. -/
theorem sameRoll_run {history : List (Instant × Operation)} (h : r.IsSound)
    (hnamed : ∀ op ∈ history.map Prod.snd, op.target?.isSome) :
    r.SameRoll (r.run history).2 ∧
      ∀ id, (∀ op ∈ history.map Prod.snd, op.target? ≠ some id) →
        (r.run history).2.get? id = r.get? id := by
  induction history generalizing r with
  | nil => exact ⟨⟨rfl, rfl⟩, fun _ _ => rfl⟩
  | cons step later ih =>
    obtain ⟨now, op⟩ := step
    rw [List.map_cons, List.forall_mem_cons] at hnamed
    obtain ⟨named, hop⟩ := Option.isSome_iff_exists.1 hnamed.1
    have hacted := acted_perform h now hop
    obtain ⟨hroll, hrest⟩ := ih (isSound_perform h now op) hnamed.2
    refine ⟨⟨hroll.keys_eq.trans ?_, hroll.retired_eq.trans hacted.retired_eq⟩, ?_⟩
    · rw [hacted.entries_eq, List.map_map]
      apply List.map_congr_left
      intro e _
      rw [Function.comp_apply, Shards.updateEntry]
      split <;> rfl
    · intro id hothers
      rw [List.map_cons, List.forall_mem_cons] at hothers
      have hne : id ≠ named := fun heq => hothers.1 (heq ▸ hop)
      exact (hrest id hothers.2).trans (get?_other h now hop hne)

/-- A census does not look at stamps. -/
theorem take_map_unstamped (retired : Tally) (connections : List Connection) :
    Census.take retired (connections.map Connection.unstamped) =
      Census.take retired connections := by
  simp only [Census.take, Census.sum, Census.distribute, Census.countIn, List.length_map,
    List.countP_map, List.foldr_map]
  rfl

/-- Registries that hold the same, stamps aside, have the same census. -/
theorem census_eq_of_agreesOn {first second : Registry} (hfirst : first.IsSound)
    (hsecond : second.IsSound) (hroll : first.SameRoll second)
    (hagree : ∀ id, first.AgreesOn second id) : first.census = second.census := by
  have hconnections : first.connections.map Connection.unstamped =
      second.connections.map Connection.unstamped := by
    rw [connections_eq_filterMap hfirst, connections_eq_filterMap hsecond, hroll.keys_eq,
      List.map_filterMap, List.map_filterMap]
    exact List.filterMap_congr fun id _ => (hagree id).get?_eq
  rw [census, census, ← take_map_unstamped, hconnections, take_map_unstamped, hroll.retired_eq]

end Registry

/-- Sequences of operations that name different connections, in any state of a registry. However
they are interleaved, and whenever each operation happens, every operation is answered as when the
sequences are run one after the other, and every connection is left the same, stamps aside. The
connections that are not named stay as they are, and the census does not depend on the order. -/
theorem interleaved_eq_sequential (profile : Profile) (latency : Latency)
    (prior : List (Instant × Operation)) (family : ConnectionId → List Operation)
    (order : List ConnectionId) (interleaved sequential : List (Instant × Operation))
    (hnamed : ∀ id, ∀ op ∈ family id, op.target? = some id)
    (hinterleaved : Interleaving family (interleaved.map Prod.snd))
    (hdistinct : order.Nodup) (hall : ∀ id, family id ≠ [] → id ∈ order)
    (hsequential : sequential.map Prod.snd = order.flatMap family) :
    let r := ((Registry.empty profile latency).run prior).2
    let first := (r.run interleaved).2
    let second := (r.run sequential).2
    (∀ id, (r.answersTo id interleaved).length = (family id).length ∧
        (r.answersTo id interleaved).map Answer.unstamped =
          (r.answersTo id sequential).map Answer.unstamped ∧
        (first.get? id).map Connection.unstamped = (second.get? id).map Connection.unstamped) ∧
      (∀ id, family id = [] → first.get? id = r.get? id ∧ second.get? id = r.get? id) ∧
      first.census = second.census := by
  intro r first second
  have hsound : r.IsSound := Registry.isSound_run (Registry.isSound_empty profile latency) prior
  obtain ⟨hsome, hfilter⟩ := hinterleaved.filter_eq hnamed
  have hfilter' := filter_flatMap_family hnamed hdistinct hall
  have hsome' : ∀ op ∈ sequential.map Prod.snd, op.target?.isSome := by
    intro op hop
    rw [hsequential] at hop
    obtain ⟨id, -, hid⟩ := List.mem_flatMap.1 hop
    rw [hnamed id op hid]
    rfl
  -- Both histories are compared with the sequence of a connection alone, at the instant 0.
  have halone : ∀ (history : List (Instant × Operation)) (id : ConnectionId),
      (∀ op ∈ history.map Prod.snd, op.target?.isSome) →
      (history.map Prod.snd).filter (fun op => op.target? = some id) = family id →
      let alone := (family id).map fun op => (0, op)
      (r.answersTo id history).map Answer.unstamped = (r.run alone).1.map Answer.unstamped ∧
        (r.run history).2.AgreesOn (r.run alone).2 id := by
    intro history id hsome hfilter alone
    refine Registry.AgreesOn.run hsound hsound ⟨rfl, rfl⟩ hsome ?_
    rw [hfilter, List.map_map]
    exact List.map_id _
  have hfirst := fun id => halone interleaved id hsome (hfilter id)
  have hsecond := fun id => halone sequential id hsome' (hsequential ▸ hfilter' id)
  have hagree : ∀ id, first.AgreesOn second id := fun id =>
    ⟨(hfirst id).2.profile_eq.trans (hsecond id).2.profile_eq.symm,
      (hfirst id).2.get?_eq.trans (hsecond id).2.get?_eq.symm⟩
  obtain ⟨hroll, hothers⟩ := Registry.sameRoll_run hsound hsome
  obtain ⟨hroll', hothers'⟩ := Registry.sameRoll_run hsound hsome'
  refine ⟨fun id => ⟨?_, (hfirst id).1.trans (hsecond id).1.symm, (hagree id).get?_eq⟩, ?_, ?_⟩
  · rw [Registry.length_answersTo, hfilter]
  · intro id hnone
    have hunnamed := List.filter_eq_nil_iff.1 ((hfilter id).trans hnone)
    have hunnamed' := List.filter_eq_nil_iff.1 ((hfilter' id).trans hnone)
    rw [← hsequential] at hunnamed'
    exact ⟨hothers id (by simpa using hunnamed), hothers' id (by simpa using hunnamed')⟩
  · exact Registry.census_eq_of_agreesOn (Registry.isSound_run hsound interleaved)
      (Registry.isSound_run hsound sequential)
      ⟨hroll'.keys_eq.trans hroll.keys_eq.symm, hroll'.retired_eq.trans hroll.retired_eq.symm⟩
      hagree

/-- One connection is opened, receives a line in two pieces and is looked at, while another one is
opened, sends and is closed; a third one is not touched. -/
theorem interleaved_eq_sequential_three_connections :
    let prior : List (Instant × Operation) :=
      [(0, .create ⟨"10.0.0.1", 1⟩ ⟨"10.0.0.2", 2⟩ 5), (1, .create ⟨"10.0.0.1", 3⟩ ⟨"10.0.0.2", 2⟩ 6),
        (2, .create ⟨"10.0.0.1", 4⟩ ⟨"10.0.0.2", 2⟩ 7), (3, .establish ⟨3⟩)]
    let first : List Operation :=
      [.establish ⟨1⟩, .deliver ⟨1⟩ (Utf8.encode "ECHO "), .deliver ⟨1⟩ (Utf8.encode "a\n"),
        .block ⟨1⟩]
    let second : List Operation := [.establish ⟨2⟩, .send ⟨2⟩ "PING b", .close ⟨2⟩]
    let family : ConnectionId → List Operation := fun id =>
      if id = ⟨1⟩ then first else if id = ⟨2⟩ then second else []
    let interleaved : List (Instant × Operation) :=
      [(4, .establish ⟨2⟩), (5, .establish ⟨1⟩), (6, .deliver ⟨1⟩ (Utf8.encode "ECHO ")),
        (7, .send ⟨2⟩ "PING b"), (8, .deliver ⟨1⟩ (Utf8.encode "a\n")), (9, .close ⟨2⟩),
        (10, .block ⟨1⟩)]
    let sequential : List (Instant × Operation) :=
      (second ++ first).map fun op => (20, op)
    let r := ((Registry.empty {} .none).run prior).2
    Interleaving family (interleaved.map Prod.snd) ∧
      (r.answersTo ⟨1⟩ interleaved).length = 4 ∧
      (r.answersTo ⟨1⟩ interleaved).map Answer.unstamped =
        (r.answersTo ⟨1⟩ sequential).map Answer.unstamped ∧
      (r.run interleaved).2.get? ⟨3⟩ = r.get? ⟨3⟩ ∧
      (r.run interleaved).2.census = (r.run sequential).2.census ∧
      (r.run interleaved).2.census.packetsSent = 2 := by
  intro prior first second family interleaved sequential r
  have hinterleaved : Interleaving family (interleaved.map Prod.snd) := by
    refine .cons ⟨2⟩ _ _ _ rfl (.cons ⟨1⟩ _ _ _ rfl (.cons ⟨1⟩ _ _ _ rfl (.cons ⟨2⟩ _ _ _ rfl
      (.cons ⟨1⟩ _ _ _ rfl (.cons ⟨2⟩ _ _ _ rfl (.cons ⟨1⟩ _ _ _ rfl (.nil ?_)))))))
    intro id
    by_cases hone : id = ⟨1⟩ <;> by_cases htwo : id = ⟨2⟩ <;>
      simp [Function.update, family, hone, htwo]
  have hnamed : ∀ id, ∀ op ∈ family id, op.target? = some id := by
    intro id op hop
    simp only [family] at hop
    split at hop
    · next hid =>
      subst hid
      simp only [first, List.mem_cons, List.not_mem_nil, or_false] at hop
      rcases hop with rfl | rfl | rfl | rfl <;> rfl
    · split at hop
      · next hid =>
        subst hid
        simp only [second, List.mem_cons, List.not_mem_nil, or_false] at hop
        rcases hop with rfl | rfl | rfl <;> rfl
      · cases hop
  have hall : ∀ id, family id ≠ [] → id ∈ [(⟨2⟩ : ConnectionId), ⟨1⟩] := by
    intro id hsome
    by_contra hmissing
    simp only [List.mem_cons, List.not_mem_nil, or_false, not_or] at hmissing
    exact hsome (by simp [family, hmissing])
  obtain ⟨hanswers, hothers, hcensus⟩ := interleaved_eq_sequential {} .none prior family
    [⟨2⟩, ⟨1⟩] interleaved sequential hnamed hinterleaved (by decide) hall rfl
  exact ⟨hinterleaved, (hanswers ⟨1⟩).1, (hanswers ⟨1⟩).2.1, (hothers ⟨3⟩ rfl).1, hcensus,
    by decide +kernel⟩

end Switchboard
