import Mathlib.Algebra.Group.Nat.Defs
import Switchboard.Proofs.Registry.Contributions
import Switchboard.Proofs.Registry.Lifecycles
import Switchboard.Proofs.Registry.Stamps

/-!
# Records

What the figures of a block have to do with each other, at any time and for every connection. The
sequence number is the initial one advanced by the bytes sent, modulo 2^32; every frame sent has at
least one byte; data has flowed, or a mark has been set, only after as many steps as it takes to get
there in the table of the lifecycle (`Block.Consistent`).

Main statement: `records_consistent`. It also says what a single operation may do to a record:
figures never fall, marks are never cleared, and the stamp is renewed exactly in the moments that
are written down as activity (`Moment.stirred`).
-/

namespace Switchboard

namespace Receiver

/-- The receiver that a look leaves. -/
def Look.rest : Look → Receiver
  | .found _ rest | .exhausted rest | .again rest => rest

variable (limit : Nat) (r : Receiver)

/-- Looking at the frame at the front forgets no dropped frame. -/
theorem dropped_le_inspect : r.dropped ≤ (r.inspect limit).rest.dropped := by
  rw [inspect]
  split
  · exact Nat.le_refl _
  · exact Nat.le_refl _
  · split
    · exact Nat.le_succ _
    · exact Nat.le_succ _

/-- Looking at the front of the buffer forgets no dropped frame. -/
theorem dropped_le_look : r.dropped ≤ (r.look limit).rest.dropped := by
  rw [look]
  split
  · next ready hready =>
    have hsame : ready.dropped = r.dropped := by
      rw [resume?] at hready
      split at hready
      · split at hready
        · obtain rfl := Option.some.inj hready
          rfl
        · cases hready
      · obtain rfl := Option.some.inj hready
        rfl
    exact hsame ▸ ready.dropped_le_inspect limit
  · exact Nat.le_refl _

/-- Taking a message out forgets no dropped frame. -/
theorem dropped_le_next : r.dropped ≤ (r.next limit).2.dropped := by
  fun_induction next limit r with
  | case1 r message rest hlook | case2 r rest hlook =>
    have hle := r.dropped_le_look limit
    rwa [hlook] at hle
  | case3 r again hlook ih =>
    have hle := r.dropped_le_look limit
    rw [hlook] at hle
    exact Nat.le_trans hle ih

/-- Taking all messages out forgets no dropped frame. -/
theorem dropped_le_extractOnto (taken : List Message) :
    r.dropped ≤ (r.extractOnto limit taken).2.dropped := by
  fun_induction extractOnto limit taken r with
  | case1 taken r message rest hnext ih =>
    have hle := r.dropped_le_next limit
    rw [hnext] at hle
    exact Nat.le_trans hle ih
  | case2 taken r rest hnext =>
    have hle := r.dropped_le_next limit
    rwa [hnext] at hle

end Receiver

namespace Connection

variable {c : Connection}

/-- Receiving forgets no dropped frame. -/
theorem dropped_le_receive (profile : Profile) (c : Connection) (chunk : Bytes) (now : Instant) :
    c.receiver.dropped ≤ (c.receive profile chunk now).2.receiver.dropped := by
  cases hdata : c.block.carriesData with
  | false => rw [receive_of_not_carriesData profile chunk now hdata]
  | true =>
    rw [receive_eq profile chunk now hdata]
    exact Receiver.dropped_le_extractOnto profile.frameLimit
      { c.receiver with backlog := c.receiver.backlog.append chunk } []

end Connection

/-- A line that is sent has at least the byte that ends it. -/
theorem encodeLine_ne_nil (text : String) : encodeLine text ≠ [] := by
  simp [encodeLine]

/-- Answers are lines. -/
theorem ne_nil_of_mem_answers {policy : Policy} {messages : List Message} {frame : Bytes}
    (h : frame ∈ Message.answers policy messages) : frame ≠ [] := by
  obtain ⟨message, -, hreply⟩ := List.mem_filterMap.1 h
  obtain ⟨reply, -, rfl⟩ := Option.map_eq_some_iff.1 hreply
  exact encodeLine_ne_nil _

/-- There are no more frames than bytes in them if none of them is empty. -/
theorem length_le_length_flatten {frames : List Bytes} (h : ∀ frame ∈ frames, frame ≠ []) :
    frames.length ≤ frames.flatten.length := by
  induction frames with
  | nil => exact Nat.le_refl _
  | cons frame rest ih =>
    have hrest := ih fun later hlater => h later (List.mem_cons_of_mem _ hlater)
    have hframe := List.length_pos_of_ne_nil (h frame List.mem_cons_self)
    rw [List.length_cons, List.flatten_cons, List.length_append]
    omega

section Passages

variable {m : Moment} {id : ConnectionId} {c c' : Connection}

/-- What a passage adds to the figures: deliveries, non-empty frames, and the strides of its account.
There is traffic only through an established connection. -/
theorem traffic_of_passage (h : m.Passage id c c') :
    ∃ received sent,
      Block.Advanced received sent (m.account id).strides.length c.block c'.block ∧
      c'.block.sequence = c.block.sequence + UInt32.ofNat sent.flatten.length ∧
      (∀ frame ∈ sent, frame ≠ []) ∧ (c.state = .established ∨ received = [] ∧ sent = []) := by
  have hnone : c.block.sequence = c.block.sequence + UInt32.ofNat ([] : List Bytes).flatten.length :=
    (UInt32.add_zero _).symm
  cases h with
  | still h | framesCollected h | messagesCollected h =>
    rw [h]
    exact ⟨[], [], Block.Advanced.refl _, hnone, by simp, .inr ⟨rfl, rfl⟩⟩
  | entered path _ h =>
    rw [h, List.length_map]
    refine ⟨[], [], Block.advanced_enterAll c.block m.now path, ?_, by simp, .inr ⟨rfl, rfl⟩⟩
    rw [(Connection.quiet_enterAll path).sequence_eq]
    exact hnone
  | closed path _ _ h =>
    rw [h, List.length_map]
    refine ⟨[], [], Block.advanced_closedAlong c m.now path, ?_, by simp, .inr ⟨rfl, rfl⟩⟩
    rw [(Connection.quiet_closedAlong path).sequence_eq]
    exact hnone
  | forced _ _ h =>
    rw [h]
    exact ⟨[], [], ⟨rfl, rfl, rfl, rfl, rfl⟩, hnone, by simp, .inr ⟨rfl, rfl⟩⟩
  | sent text hopen h =>
    have hcarried := Connection.carried_transmit c [encodeLine text] m.now
    rw [h]
    exact ⟨[], [encodeLine text], hcarried.advanced, hcarried.sequence_eq,
      by simpa using encodeLine_ne_nil text, .inl hopen⟩
  | received chunk messages hopen hheard h =>
    have hdata : c.block.carriesData = true := decide_eq_true hopen
    obtain ⟨block, hreceive, hcarried⟩ :=
      Connection.receive_of_carriesData m.before.profile chunk m.now hdata
    rw [h, hreceive]
    exact ⟨[chunk], _, hcarried.advanced, hcarried.sequence_eq, fun _ => ne_nil_of_mem_answers,
      .inl hopen⟩

/-- No passage forgets a dropped frame. -/
theorem dropped_of_passage (h : m.Passage id c c') :
    c.receiver.dropped ≤ c'.receiver.dropped := by
  cases h with
  | received chunk => exact Connection.dropped_le_receive m.before.profile c chunk m.now
  | still | entered | closed | forced | sent | framesCollected | messagesCollected =>
    exact Nat.le_refl _

/-- What is closed in order was established, and has taken at least three steps to be closed. -/
theorem closing_of_passage (h : m.Passage id c c') (hclosed : (m.account id).closed = true) :
    c.state = .established ∧ 3 ≤ (m.account id).strides.length := by
  constructor
  · cases h with
    | closed path hopen => exact hopen
    | still h | entered _ _ h | forced _ _ h | sent _ _ h | received _ _ _ _ h | framesCollected h
    | messagesCollected h =>
      rw [h] at hclosed
      cases hclosed
  · rw [Moment.account] at hclosed ⊢
    split at hclosed
    · rw [if_pos ‹_›]
      rw [Moment.accountReached] at hclosed ⊢
      split at hclosed
      case h_7 => exact (by decide : 3 ≤ State.teardown.length)
      case h_8 => exact (by decide : 3 ≤ State.passiveClose.length)
      case h_9 => split at hclosed <;> cases hclosed
      all_goals cases hclosed
    · cases hclosed

/-- From one record to another no figure has fallen and no mark has been cleared. -/
structure Connection.Outgrown (c after : Connection) : Prop where
  bytesSent_le : c.block.bytesSent ≤ after.block.bytesSent
  bytesReceived_le : c.block.bytesReceived ≤ after.block.bytesReceived
  packetsSent_le : c.block.packetsSent ≤ after.block.packetsSent
  packetsReceived_le : c.block.packetsReceived ≤ after.block.packetsReceived
  transitions_le : c.block.transitions ≤ after.block.transitions
  dropped_le : c.receiver.dropped ≤ after.receiver.dropped
  timedOut_kept : c.block.timedOut = true → after.block.timedOut = true
  gracefullyClosed_kept : c.block.gracefullyClosed = true → after.block.gracefullyClosed = true

/-- In no passage does a figure fall, or is a mark cleared. -/
theorem outgrown_of_passage (h : m.Passage id c c') : c.Outgrown c' := by
  obtain ⟨received, sent, hadvanced, -⟩ := traffic_of_passage h
  have hstrode := strode_of_passage h
  exact
    { bytesSent_le := hadvanced.bytesSent_eq ▸ Nat.le_add_right _ _
      bytesReceived_le := hadvanced.bytesReceived_eq ▸ Nat.le_add_right _ _
      packetsSent_le := hadvanced.packetsSent_eq ▸ Nat.le_add_right _ _
      packetsReceived_le := hadvanced.packetsReceived_eq ▸ Nat.le_add_right _ _
      transitions_le := hadvanced.transitions_eq ▸ Nat.le_add_right _ _
      dropped_le := dropped_of_passage h
      timedOut_kept := fun hmark => hstrode.timedOut_iff.2 (.inl hmark)
      gracefullyClosed_kept := fun hmark => hstrode.gracefullyClosed_iff.2 (.inl hmark) }

end Passages

namespace Block

/-- Whether anything has been sent or received. -/
def hasTraffic (b : Block) : Prop :=
  b.bytesSent ≠ 0 ∨ b.bytesReceived ≠ 0 ∨ b.packetsSent ≠ 0 ∨ b.packetsReceived ≠ 0

/-- The figures of a block fit together. -/
structure Consistent (b : Block) : Prop where
  sequence_eq : b.sequence = b.initialSequence + UInt32.ofNat b.bytesSent
  packetsSent_le : b.packetsSent ≤ b.bytesSent
  depth_le : b.state.depth ≤ b.transitions
  two_le_of_hasTraffic : b.hasTraffic → 2 ≤ b.transitions
  two_le_of_timedOut : b.timedOut = true → 2 ≤ b.transitions
  five_le_of_gracefullyClosed : b.gracefullyClosed = true → 5 ≤ b.transitions

variable {b : Block}

/-- The sequence number is the initial one advanced by the bytes sent, modulo 2^32. -/
theorem Consistent.toNat_sequence (h : b.Consistent) :
    b.sequence.toNat = (b.initialSequence.toNat + b.bytesSent) % 2 ^ 32 := by
  rw [h.sequence_eq, UInt32.toNat_add, UInt32.toNat_ofNat', Nat.add_mod_mod]

/-- Before the first step a block is closed, and nothing has been counted or marked. -/
theorem Consistent.blank (h : b.Consistent) (hnone : b.transitions = 0) :
    b.state = .closed ∧ (b.bytesSent = 0 ∧ b.bytesReceived = 0 ∧ b.packetsSent = 0 ∧
      b.packetsReceived = 0) ∧ b.timedOut = false ∧ b.gracefullyClosed = false := by
  have hfew : ¬ 2 ≤ b.transitions := by omega
  have htraffic : ¬ b.hasTraffic := fun htraffic => hfew (h.two_le_of_hasTraffic htraffic)
  simp only [hasTraffic, not_or, not_not] at htraffic
  refine ⟨State.depth_eq_zero.1 (Nat.le_zero.1 (hnone ▸ h.depth_le)), htraffic,
    Bool.eq_false_iff.2 fun hmark => hfew (h.two_le_of_timedOut hmark),
    Bool.eq_false_iff.2 fun hmark => ?_⟩
  have hfive := h.five_le_of_gracefullyClosed hmark
  omega

/-- The figures of a new block fit together. -/
theorem consistent_fresh (profile : Profile) (id : ConnectionId) (localEnd remoteEnd : Endpoint)
    (isn : UInt32) (now : Instant) :
    (fresh profile id localEnd remoteEnd isn now).Consistent where
  sequence_eq := (UInt32.add_zero isn).symm
  packetsSent_le := Nat.le_refl _
  depth_le := Nat.le_refl _
  two_le_of_hasTraffic h := by simp [hasTraffic, fresh] at h
  two_le_of_timedOut h := by cases h
  five_le_of_gracefullyClosed h := by cases h

/-- Every passage keeps the figures of a block fitting together. -/
theorem Consistent.of_passage {m : Moment} {id : ConnectionId} {c c' : Connection}
    (h : c.block.Consistent) (hpassage : m.Passage id c c') : c'.block.Consistent := by
  obtain ⟨received, sent, hadvanced, hsequence, hframes, hflow⟩ := traffic_of_passage hpassage
  have hstrode := strode_of_passage hpassage
  have horiginal := Moment.original_of_passage hpassage
  have hdepth : c.state.depth ≤ c.block.transitions := h.depth_le
  have hsteps := hadvanced.transitions_eq
  have hopened : c.state = .established → 2 ≤ c.block.transitions := by
    intro hopen
    rw [hopen] at hdepth
    exact hdepth
  refine ⟨?_, ?_, ?_, ?_, ?_, ?_⟩
  · have hinitial : c'.block.initialSequence = c.block.initialSequence := by
      rw [← initialSequence_original, horiginal, initialSequence_original]
    rw [hsequence, h.sequence_eq, hadvanced.bytesSent_eq, hinitial, UInt32.ofNat_add,
      UInt32.add_assoc]
  · rw [hadvanced.packetsSent_eq, hadvanced.bytesSent_eq]
    exact Nat.add_le_add h.packetsSent_le (length_le_length_flatten hframes)
  · have hwalk := hstrode.walk.depth_le
    change c'.state.depth ≤ _
    omega
  · intro htraffic
    rcases hflow with hopen | ⟨rfl, rfl⟩
    · have htwo := hopened hopen
      omega
    · rw [hasTraffic, hadvanced.bytesSent_eq, hadvanced.bytesReceived_eq, hadvanced.packetsSent_eq,
        hadvanced.packetsReceived_eq] at htraffic
      have htwo := h.two_le_of_hasTraffic htraffic
      omega
  · intro hmark
    rcases hstrode.timedOut_iff.1 hmark with hold | hforced
    · have htwo := h.two_le_of_timedOut hold
      omega
    · have htwo := hstrode.walk.two_le_of_forced hforced
      omega
  · intro hmark
    rcases hstrode.gracefullyClosed_iff.1 hmark with hold | hclosed
    · have hfive := h.five_le_of_gracefullyClosed hold
      omega
    · obtain ⟨hopen, hthree⟩ := closing_of_passage hpassage hclosed
      have htwo := hopened hopen
      omega

end Block

/-- The figures of every block fit together, after any history. -/
theorem Registry.consistent_run {profile : Profile} {latency : Latency}
    {history : List (Instant × Operation)} {id : ConnectionId} {c : Connection}
    (hget : ((Registry.empty profile latency).run history).2.get? id = some c) :
    c.block.Consistent := by
  refine life_induction (motive := fun _ c => c.block.Consistent) ?_ ?_ history hget
  · intro _ localEnd remoteEnd isn now _
    exact Block.consistent_fresh profile id localEnd remoteEnd isn now
  · intro _ m c c' _ hpassage h
    exact h.of_passage hpassage

/-- In every state that a history leads to, the record of a connection says the following. Its sequence
number is the one that it was made with, advanced by the bytes sent, modulo 2^32. It has sent at least
as many bytes as packets, and was not active before it was made. Without a step it is closed, has no
traffic and no mark; traffic and a timeout take two steps, a closing in order five.

No operation lets a figure of a connection fall or clears a mark of it. The stamp is renewed exactly
where a step, a send, a delivery while established or a forced closing is applied to the connection,
and does not fall as long as the clock does not go back; collecting and looking leave the whole record
as it is. -/
theorem records_consistent (profile : Profile) (latency : Latency)
    (history : List (Instant × Operation)) :
    let r := ((Registry.empty profile latency).run history).2
    let past := (Registry.empty profile latency).moments history
    (∀ id c, r.get? id = some c →
      (∃ m ∈ past, ∃ localEnd remoteEnd isn, m.operation = .create localEnd remoteEnd isn ∧
        m.answer = .created id ∧ c.block.createdAt = m.now ∧
        c.block.sequence.toNat = (isn.toNat + c.block.bytesSent) % 2 ^ 32) ∧
      c.block.packetsSent ≤ c.block.bytesSent ∧
      c.block.createdAt ≤ c.block.lastActivity ∧
      (c.block.transitions = 0 → c.state = .closed ∧
        (c.block.bytesSent = 0 ∧ c.block.bytesReceived = 0 ∧ c.block.packetsSent = 0 ∧
          c.block.packetsReceived = 0) ∧
        c.block.timedOut = false ∧ c.block.gracefullyClosed = false) ∧
      (c.block.hasTraffic → 2 ≤ c.block.transitions) ∧
      (c.block.timedOut = true → 2 ≤ c.block.transitions) ∧
      (c.block.gracefullyClosed = true → 5 ≤ c.block.transitions)) ∧
    ∀ now op id c after, r.get? id = some c → (r.perform now op).2.get? id = some after →
      let m : Moment := ⟨r, now, op⟩
      c.Outgrown after ∧
      (after.block.lastActivity =
        if id ∈ m.stirred then max now c.block.createdAt else c.block.lastActivity) ∧
      ((∀ earlier ∈ past, earlier.now ≤ now) →
        c.block.lastActivity ≤ after.block.lastActivity ∧
        (id ∈ m.stirred → after.block.lastActivity = now)) ∧
      (op.observes = true → id ∉ m.stirred ∧ after.block = c.block) := by
  intro r past
  have hsound : r.IsSound := Registry.isSound_run (Registry.isSound_empty profile latency) history
  constructor
  · intro id c hget
    have hconsistent := Registry.consistent_run hget
    obtain ⟨m, hm, localEnd, remoteEnd, isn, hop, hanswer, horiginal⟩ := Registry.made_run hget
    have hinitial : c.block.initialSequence = isn := congrArg Block.initialSequence horiginal
    refine ⟨⟨m, hm, localEnd, remoteEnd, isn, hop, hanswer, ?_, ?_⟩, hconsistent.packetsSent_le,
      (Registry.stamped_run hget).createdAt_le, hconsistent.blank, hconsistent.two_le_of_hasTraffic,
      hconsistent.two_le_of_timedOut, hconsistent.five_le_of_gracefullyClosed⟩
    · exact congrArg Block.createdAt horiginal
    · rw [← hinitial]
      exact hconsistent.toNat_sequence
  · intro now op id c after hget hafter m
    have hstamp := Moment.lastActivity_after (m := m) hsound hget hafter
    refine ⟨outgrown_of_passage (Moment.passage (m := m) hsound hget hafter), hstamp,
      fun hclock => ?_, fun hobserves => ?_⟩
    · have hstamped := Registry.stamped_run hget
      have hlast : c.block.lastActivity ≤ now := hstamped.bounded now hclock
      have hmade : c.block.createdAt ≤ now := Nat.le_trans hstamped.createdAt_le hlast
      change after.block.lastActivity =
        if id ∈ m.stirred then max now c.block.createdAt else c.block.lastActivity at hstamp
      rw [Nat.max_eq_left hmade] at hstamp
      refine ⟨?_, fun hstirred => hstamp.trans (if_pos hstirred)⟩
      rw [hstamp]
      split
      · exact hlast
      · exact Nat.le_refl _
    · have hnone := Moment.stirred_of_observes (m := m) hobserves
      refine ⟨hnone ▸ List.not_mem_nil, ?_⟩
      rw [← Moment.eq_effect (m := m) hsound hget hafter]
      exact Operation.block_effect_of_observes hobserves r.profile now id c

/-- Two connections are made with the greatest sequence number; the first one sends 7 bytes, answers
with as many, and is closed, the second one is forced closed while it listens. A reopening stamps the
first one, collecting its frames does not. -/
theorem records_consistent_wrapped :
    let create := Operation.create ⟨"10.0.0.1", 1⟩ ⟨"10.0.0.2", 2⟩ 4294967295
    let history : List (Instant × Operation) :=
      [(0, create), (0, create), (1, .establish ⟨1⟩), (2, .send ⟨1⟩ "PING a"),
        (3, .deliver ⟨1⟩ (Utf8.encode "PING b\n")), (4, .peerClose ⟨1⟩), (5, .listen ⟨2⟩),
        (9, .reclaim 9 1)]
    let r := ((Registry.empty {} .none).run history).2
    ∃ c d after collected, r.get? ⟨1⟩ = some c ∧ r.get? ⟨2⟩ = some d ∧
      c.block.sequence.toNat = (4294967295 + 14) % 2 ^ 32 ∧ 2 ≤ c.block.transitions ∧
      5 ≤ c.block.transitions ∧ 2 ≤ d.block.transitions ∧
      (r.perform 12 (.establish ⟨1⟩)).2.get? ⟨1⟩ = some after ∧ after.block.lastActivity = 12 ∧
      after.block.gracefullyClosed = true ∧
      (r.perform 12 (.drainOutbound ⟨1⟩)).2.get? ⟨1⟩ = some collected ∧
      collected.block = c.block := by
  intro create history r
  have hheld : ∀ id ∈ [(⟨1⟩ : ConnectionId), ⟨2⟩], (r.get? id).isSome = true := by decide +kernel
  have hopened : ((r.perform 12 (.establish ⟨1⟩)).2.get? ⟨1⟩).isSome = true := by decide +kernel
  have hdrained : ((r.perform 12 (.drainOutbound ⟨1⟩)).2.get? ⟨1⟩).isSome = true := by
    decide +kernel
  obtain ⟨c, hget⟩ := Option.isSome_iff_exists.1 (hheld ⟨1⟩ (by decide))
  obtain ⟨d, hgetd⟩ := Option.isSome_iff_exists.1 (hheld ⟨2⟩ (by decide))
  obtain ⟨after, hafter⟩ := Option.isSome_iff_exists.1 hopened
  obtain ⟨collected, hcollected⟩ := Option.isSome_iff_exists.1 hdrained
  have hfigures : ∀ c ∈ r.get? ⟨1⟩, c.block.bytesSent = 14 ∧ c.block.gracefullyClosed = true := by
    decide +kernel
  have htimed : ∀ d ∈ r.get? ⟨2⟩, d.block.timedOut = true := by decide +kernel
  have hclock : ∀ earlier ∈ (Registry.empty {} .none).moments history, earlier.now ≤ 12 := by
    decide +kernel
  have hstirred : ⟨1⟩ ∈ Moment.stirred ⟨r, 12, .establish ⟨1⟩⟩ := by decide +kernel
  have hmakers : ∀ m ∈ (Registry.empty {} .none).moments history,
      ∀ localEnd remoteEnd isn, m.operation = .create localEnd remoteEnd isn → isn = 4294967295 := by
    intro m hm localEnd remoteEnd isn hop
    have hops : m.operation ∈ history.map Prod.snd := by
      have hall : ((Registry.empty {} .none).moments history).map Moment.operation =
          history.map Prod.snd := rfl
      exact hall ▸ List.mem_map_of_mem hm
    rw [hop] at hops
    have hsame : Operation.create localEnd remoteEnd isn = create := by
      simpa [history, create] using hops
    exact (Operation.create.inj hsame).2.2
  obtain ⟨hrecords, hmoments⟩ := records_consistent {} .none history
  obtain ⟨⟨m, hm, localEnd, remoteEnd, isn, hop, -, -, hsequence⟩, -, -, -, htraffic, -, hclosed⟩ :=
    hrecords ⟨1⟩ c hget
  rw [hmakers m hm localEnd remoteEnd isn hop, (hfigures c hget).1] at hsequence
  have hsent : c.block.hasTraffic := .inl (by rw [(hfigures c hget).1]; decide)
  obtain ⟨-, -, -, -, -, hforced, -⟩ := hrecords ⟨2⟩ d hgetd
  obtain ⟨houtgrown, -, hstamped, -⟩ := hmoments 12 (.establish ⟨1⟩) ⟨1⟩ c after hget hafter
  obtain ⟨-, -, -, hobserved⟩ := hmoments 12 (.drainOutbound ⟨1⟩) ⟨1⟩ c collected hget hcollected
  exact ⟨c, d, after, collected, hget, hgetd, hsequence, htraffic hsent,
    hclosed (hfigures c hget).2, hforced (htimed d hgetd), hafter, (hstamped hclock).2 hstirred,
    houtgrown.gracefullyClosed_kept (hfigures c hget).2, hcollected, (hobserved rfl).2⟩

end Switchboard
