import Switchboard.Proofs.Registry.Accounts

/-!
# Lifecycles

Whatever is done to a registry, the state of a connection has been reached by a walk: each stride of
it is a step that the table allows, or a forced closing of a connection that was not closed, and the
latter is the work of a pass over the connections. The block counts the strides, remembers whether
one of them was forced, and whether the connection has been closed in order. Data flows only where a
connection is established and stays so (`lifecycle_sound`).

An account says which strides a moment adds; one lemma for the eight passages says that they lead
from the state before to the state after (`strode_of_passage`), and another one that only two of the
passages are not quiet (`established_of_passage`).
-/

namespace Switchboard

namespace Connection

/-- From one connection to another no data has flowed: the figures are the same, and nothing has been
put into a queue. -/
structure Quiet (c after : Connection) : Prop where
  bytesSent_eq : after.block.bytesSent = c.block.bytesSent
  bytesReceived_eq : after.block.bytesReceived = c.block.bytesReceived
  packetsSent_eq : after.block.packetsSent = c.block.packetsSent
  packetsReceived_eq : after.block.packetsReceived = c.block.packetsReceived
  sequence_eq : after.block.sequence = c.block.sequence
  inbox_eq : after.inbox = c.inbox ∨ after.inbox = Queue.empty
  outbox_eq : after.outbox = c.outbox ∨ after.outbox = Queue.empty

/-- From one connection to another the strides of an account have been taken, and counted; the block
remembers whether one of them was forced, and whether the connection was closed in order. -/
structure Strode (a : Account) (c after : Connection) : Prop where
  walk : Walk c.state a.strides after.state
  transitions_eq : after.block.transitions = c.block.transitions + a.strides.length
  timedOut_iff : after.block.timedOut = true ↔ c.block.timedOut = true ∨ .forced ∈ a.strides
  gracefullyClosed_iff :
    after.block.gracefullyClosed = true ↔ c.block.gracefullyClosed = true ∨ a.closed = true

variable {c after : Connection} {a : Account} {now : Instant} {path : List State}

/-- Where only data has flowed no strides have been taken. -/
theorem Strode.of_carried {received sent : List Bytes}
    (h : c.block.Carried received sent after.block) (hstrides : a.strides = [])
    (hclosed : a.closed = false) : Strode a c after := by
  have hstate : after.state = c.state := h.state_eq
  refine ⟨?_, ?_, ?_, ?_⟩
  · rw [hstrides, hstate]
    exact .nil _
  · rw [hstrides, h.transitions_eq]
    rfl
  · simp [hstrides, h.timedOut_eq]
  · simp [hclosed, h.gracefullyClosed_eq]

/-- Entering states moves no data. -/
theorem quiet_enterAll (path : List State) : c.Quiet (c.enterAll now path) := by
  have hblock : (c.enterAll now path).block = _ := Block.enterAll_eq c.block now path
  refine ⟨?_, ?_, ?_, ?_, ?_, .inl rfl, .inl rfl⟩ <;> rw [hblock]

/-- Closing in order moves no data, and keeps the frames. -/
theorem quiet_closedAlong (path : List State) : c.Quiet (c.closedAlong now path) := by
  have hblock := block_closedAlong now c path
  refine ⟨?_, ?_, ?_, ?_, ?_, .inr rfl, .inl rfl⟩ <;> rw [hblock]

/-- The steps of a path that the table allows are taken. -/
theorem strode_enterAll (hwalk : c.state.walkable path = path) :
    Strode { strides := path.map .step } c (c.enterAll now path) := by
  have hblock : (c.enterAll now path).block = _ := Block.enterAll_eq c.block now path
  have hwalked : Walk c.state (path.map .step) (c.enterAll now path).state := by
    have hstate : (c.enterAll now path).state = c.state.arrival path := congrArg Block.state hblock
    rw [hstate]
    exact Walk.of_walkable hwalk
  refine ⟨hwalked, ?_, ?_, ?_⟩
  · rw [hblock, List.length_map]
  · simp [hblock]
  · simp [hblock]

/-- Closing in order takes the steps of its path. -/
theorem strode_closedAlong (hwalk : c.state.walkable path = path) (incoming : Flow Message) :
    Strode { strides := path.map .step, closed := true, incoming := incoming } c
      (c.closedAlong now path) := by
  have hblock := block_closedAlong now c path
  have hwalked : Walk c.state (path.map .step) (c.closedAlong now path).state := by
    have hstate : (c.closedAlong now path).state = c.state.arrival path := congrArg Block.state hblock
    rw [hstate]
    exact Walk.of_walkable hwalk
  refine ⟨hwalked, ?_, ?_, ?_⟩
  · rw [hblock, List.length_map]
  · simp [hblock]
  · simp [hblock]

/-- A forced closing is one stride. -/
theorem strode_forced (hopen : c.state ≠ .closed) (outgoing : Flow Bytes)
    (incoming : Flow Message) :
    Strode { strides := [.forced], outgoing := outgoing, incoming := incoming } c (c.forced now) where
  walk := Walk.forced hopen
  transitions_eq := rfl
  timedOut_iff := by simp [forced, abort, release]
  gracefullyClosed_iff := by simp [forced, abort, release, Block.enterAll_eq]

end Connection

section Passages

variable {m : Moment} {id : ConnectionId} {c c' : Connection}

/-- Every passage takes the strides of its account. -/
theorem strode_of_passage (h : m.Passage id c c') : Connection.Strode (m.account id) c c' := by
  cases h with
  | still h =>
    rw [h]
    exact .of_carried (Block.Carried.refl _) rfl rfl
  | entered path hwalk h =>
    rw [h]
    exact Connection.strode_enterAll hwalk
  | closed path hopen hwalk h =>
    rw [h]
    exact Connection.strode_closedAlong hwalk _
  | forced hopen hpass h =>
    rw [h]
    exact Connection.strode_forced hopen _ _
  | sent text hopen h =>
    rw [h]
    exact .of_carried (Connection.carried_transmit c _ m.now) rfl rfl
  | received chunk messages hopen hheard h =>
    have hdata : c.block.carriesData = true := decide_eq_true hopen
    obtain ⟨block, hreceive, hcarried⟩ :=
      Connection.receive_of_carriesData m.before.profile chunk m.now hdata
    rw [h, hreceive]
    exact .of_carried hcarried rfl rfl
  | framesCollected h | messagesCollected h =>
    rw [h]
    exact .of_carried (Block.Carried.refl _) rfl rfl

/-- Data flows only through a connection that is established and stays so. -/
theorem quiet_of_passage (h : m.Passage id c c') :
    c.Quiet c' ∨ c.state = .established ∧ c'.state = .established := by
  cases h with
  | still => exact .inl ⟨rfl, rfl, rfl, rfl, rfl, .inl rfl, .inl rfl⟩
  | entered path => exact .inl (Connection.quiet_enterAll path)
  | closed path => exact .inl (Connection.quiet_closedAlong path)
  | forced => exact .inl ⟨rfl, rfl, rfl, rfl, rfl, .inr rfl, .inr rfl⟩
  | sent text hopen =>
    exact .inr ⟨hopen, (Connection.carried_transmit c _ m.now).state_eq.trans hopen⟩
  | received chunk messages hopen =>
    have hdata : c.block.carriesData = true := decide_eq_true hopen
    obtain ⟨block, hreceive, hcarried⟩ :=
      Connection.receive_of_carriesData m.before.profile chunk m.now hdata
    rw [hreceive]
    exact .inr ⟨hopen, hcarried.state_eq.trans hopen⟩
  | framesCollected => exact .inl ⟨rfl, rfl, rfl, rfl, rfl, .inl rfl, .inr rfl⟩
  | messagesCollected => exact .inl ⟨rfl, rfl, rfl, rfl, rfl, .inr rfl, .inl rfl⟩

/-- Strides are forced by a pass over the connections, and by nothing else. -/
theorem reclaim_of_forced (h : m.Passage id c c') (hforced : .forced ∈ (m.account id).strides) :
    ∃ instant threshold, m.operation = .reclaim instant threshold := by
  cases h with
  | forced _ hpass => exact hpass
  | still h | entered _ _ h | closed _ _ _ h | sent _ _ h | received _ _ _ _ h | framesCollected h
  | messagesCollected h =>
    rw [h] at hforced
    simp at hforced

end Passages

/-- What can be said of a connection after a history, from what has been written down about it. -/
structure Connection.Lived (accounts : List Account) (c : Connection) : Prop where
  walk : Walk .closed (accounts.flatMap Account.strides) c.state
  transitions_eq : c.block.transitions = (accounts.flatMap Account.strides).length
  timedOut_iff : c.block.timedOut = true ↔ .forced ∈ accounts.flatMap Account.strides
  gracefullyClosed_iff : c.block.gracefullyClosed = true ↔ ∃ a ∈ accounts, a.closed = true

namespace Connection

/-- A new connection has not lived yet. -/
theorem lived_fresh (profile : Profile) (id : ConnectionId) (localEnd remoteEnd : Endpoint)
    (isn : UInt32) (now : Instant) {blank : List Account} (hblank : ∀ a ∈ blank, a = {}) :
    Lived blank (fresh profile id localEnd remoteEnd isn now) := by
  have hstrides : blank.flatMap Account.strides = [] :=
    List.flatMap_eq_nil_iff.2 fun a ha => by rw [hblank a ha]
  refine ⟨?_, ?_, ?_, ?_⟩
  · rw [hstrides]
    exact .nil _
  · rw [hstrides]
    rfl
  · rw [hstrides]
    exact iff_of_false Bool.false_ne_true List.not_mem_nil
  · refine iff_of_false Bool.false_ne_true ?_
    rintro ⟨a, ha, hclosed⟩
    rw [hblank a ha] at hclosed
    cases hclosed

/-- A connection lives on by taking strides. -/
theorem Lived.append {accounts : List Account} {a : Account} {c after : Connection}
    (h : c.Lived accounts) (hstrode : c.Strode a after) : after.Lived (accounts ++ [a]) where
  walk := by
    rw [List.flatMap_append, List.flatMap_singleton]
    exact h.walk.append hstrode.walk
  transitions_eq := by
    rw [List.flatMap_append, List.flatMap_singleton, List.length_append, hstrode.transitions_eq,
      h.transitions_eq]
  timedOut_iff := by
    rw [List.flatMap_append, List.flatMap_singleton, List.mem_append, hstrode.timedOut_iff,
      h.timedOut_iff]
  gracefullyClosed_iff := by
    rw [hstrode.gracefullyClosed_iff, h.gracefullyClosed_iff]
    simp [or_and_right, exists_or]

end Connection

/-- Every connection that a history leaves has lived through what has been written down about it. -/
theorem Registry.lived_run {profile : Profile} {latency : Latency}
    {history : List (Instant × Operation)} {id : ConnectionId} {c : Connection}
    (hget : ((Registry.empty profile latency).run history).2.get? id = some c) :
    c.Lived (((Registry.empty profile latency).moments history).map fun m => m.account id) := by
  refine life_induction ?_ ?_ history hget
  · intro blank localEnd remoteEnd isn now hblank
    exact Connection.lived_fresh profile id localEnd remoteEnd isn now hblank
  · intro past m c c' _ hpassage hlived
    exact hlived.append (strode_of_passage hpassage)

/-- The life of every connection, after any history of a new registry. Its state has been reached by
a walk from `closed` whose strides are counted; it was timed out if one of them was forced, and closed
gracefully if a closing of it has succeeded. In every moment the strides lead from the state before to
the state after, only a pass over the connections forces one, and data flows only if the connection
is established before and after. -/
theorem lifecycle_sound (profile : Profile) (latency : Latency)
    (history : List (Instant × Operation)) :
    let past := (Registry.empty profile latency).moments history
    (∀ id c, ((Registry.empty profile latency).run history).2.get? id = some c →
      let strides := past.flatMap fun m => (m.account id).strides
      Walk .closed strides c.state ∧ c.block.transitions = strides.length ∧
        (c.block.timedOut = true ↔ .forced ∈ strides) ∧
        (c.block.gracefullyClosed = true ↔ ∃ m ∈ past,
          (m.operation = .close id ∨ m.operation = .peerClose id) ∧
            m.answer = .decided (.ok true))) ∧
      ∀ m ∈ past, ∀ id c after, m.before.get? id = some c → m.after.get? id = some after →
        Walk c.state (m.account id).strides after.state ∧
          (.forced ∈ (m.account id).strides →
            ∃ instant threshold, m.operation = .reclaim instant threshold) ∧
          (¬ c.Quiet after → c.state = .established ∧ after.state = .established) := by
  intro past
  constructor
  · intro id c hget strides
    have hlived := Registry.lived_run hget
    have hstrides : (past.map fun m => m.account id).flatMap Account.strides = strides :=
      List.flatMap_map ..
    refine ⟨hstrides ▸ hlived.walk, hstrides ▸ hlived.transitions_eq, hstrides ▸ hlived.timedOut_iff,
      hlived.gracefullyClosed_iff.trans ?_⟩
    simp only [List.mem_map, exists_exists_and_eq_and, Moment.closed_account_iff]
    rfl
  · intro m hm id c after hget hafter
    have hsound := Registry.isSound_moments (Registry.isSound_empty profile latency) history m hm
    have hpassage := Moment.passage hsound hget hafter
    exact ⟨(strode_of_passage hpassage).walk, reclaim_of_forced hpassage,
      fun hflow => (quiet_of_passage hpassage).resolve_left hflow⟩

/-- A connection is opened, sends, is taken down, and opened again; then it is reclaimed. -/
theorem lifecycle_sound_reopened :
    let history : List (Instant × Operation) :=
      [(0, .create ⟨"10.0.0.1", 1⟩ ⟨"10.0.0.2", 2⟩ 5), (1, .establish ⟨1⟩), (2, .send ⟨1⟩ "PING a"),
        (3, .close ⟨1⟩), (4, .close ⟨1⟩), (5, .establish ⟨1⟩), (6, .reclaim 9 4), (7, .listen ⟨1⟩)]
    let strides := ((Registry.empty {} .none).moments history).flatMap fun m =>
      (m.account ⟨1⟩).strides
    strides = (State.handshake ++ State.teardown ++ State.handshake).map .step ++
        [.forced, .step .listen] ∧
      ∃ c, ((Registry.empty {} .none).run history).2.get? ⟨1⟩ = some c ∧
        Walk .closed strides .listen ∧ c.block.transitions = 12 ∧
        c.block.timedOut = true ∧ c.block.gracefullyClosed = true := by
  intro history strides
  have hstrides : strides = (State.handshake ++ State.teardown ++ State.handshake).map .step ++
      [.forced, .step .listen] := by decide +kernel
  have hheld : (((Registry.empty {} .none).run history).2.get? ⟨1⟩).isSome = true := by
    decide +kernel
  obtain ⟨c, hget⟩ := Option.isSome_iff_exists.1 hheld
  obtain ⟨hwalk, htransitions, htimed, hclosed⟩ := (lifecycle_sound {} .none history).1 ⟨1⟩ c hget
  have hstate : ∀ c ∈ ((Registry.empty {} .none).run history).2.get? ⟨1⟩, c.state = .listen := by
    decide +kernel
  have hmarked : ∃ m ∈ (Registry.empty {} .none).moments history, (m.account ⟨1⟩).closed = true := by
    decide +kernel
  obtain ⟨m, hm, hmark⟩ := hmarked
  exact ⟨hstrides, c, hget, hstate c hget ▸ hwalk, htransitions.trans (by decide +kernel),
    htimed.2 (by decide +kernel), hclosed.2 ⟨m, hm, Moment.closed_account_iff.1 hmark⟩⟩

end Switchboard
