import Switchboard.Proofs.Registry.Origins

/-!
# Stamps

A block carries the instant of the last activity. Activity is a step of the lifecycle, a line that is
sent, a delivery while the connection is established, and a forced closing; collecting and looking are
none (`Moment.stirred`). In a moment of activity the block is stamped with the present, or with the
instant of its creation if that lies ahead; in any other moment the stamp stays
(`Moment.lastActivity_after`). So no stamp lies ahead of the whole history, or before the creation
(`Registry.stamped_run`).
-/

namespace Switchboard

namespace Operation

/-- Whether an operation only collects or looks. -/
def observes : Operation → Bool
  | drainOutbound _ | drainInbound _ | state _ | block _ | contains _ | ids | size | census => true
  | create .. | establish _ | listen _ | accept _ | transition .. | send .. | deliver .. | close _
  | peerClose _ | reclaim .. | purge => false

/-- Collecting and looking leave the block as it is. -/
theorem block_effect_of_observes {op : Operation} (h : op.observes = true) (profile : Profile)
    (now : Instant) (id : ConnectionId) (c : Connection) :
    (op.effect profile now id c).block = c.block := by
  rw [effect]
  split
  · cases op with
    | drainOutbound | drainInbound | state | block | contains | ids | size | census => rfl
    | create | establish | listen | accept | transition | send | deliver | close | peerClose
    | reclaim | purge => cases h
  · rfl

end Operation

namespace Block

/-- Counting frames as sent stamps the block unless there are none. -/
theorem lastActivity_foldl_noteSent (frames : List Bytes) (b : Block) (now : Instant) :
    (frames.foldl (fun b frame => b.noteSent frame.length now) b).lastActivity =
      if frames = [] then b.lastActivity else max now b.createdAt := by
  induction frames generalizing b with
  | nil => rfl
  | cons frame rest ih =>
    rw [List.foldl_cons, ih, if_neg (List.cons_ne_nil _ _)]
    exact ite_self _

end Block

namespace Connection

variable {c done : Connection} {now : Instant}

/-- Receiving stamps a connection through which data may flow. -/
theorem lastActivity_receive (profile : Profile) (c : Connection) (chunk : Bytes) (now : Instant) :
    (c.receive profile chunk now).2.block.lastActivity =
      if c.state = .established then max now c.block.createdAt else c.block.lastActivity := by
  by_cases hopen : c.state = .established
  · have hdata : c.block.carriesData = true := decide_eq_true hopen
    rw [receive_eq profile chunk now hdata, if_pos hopen]
    refine (Block.lastActivity_foldl_noteSent _ (c.block.noteReceived chunk.length now) now).trans ?_
    exact ite_self _
  · rw [receive_of_not_carriesData _ _ _ (decide_eq_false hopen), if_neg hopen]

/-- What is done stamps the connection, what is refused does not. -/
theorem lastActivity_of_decided {p : Prop} [Decidable p] {outcome : Bool × Connection}
    (houtcome : outcome = if p then (true, done) else (false, c))
    (hdone : done.block.lastActivity = max now c.block.createdAt) :
    outcome.2.block.lastActivity =
      if outcome.1 = true then max now c.block.createdAt else c.block.lastActivity := by
  rw [houtcome]
  split
  · exact hdone
  · rfl

end Connection

namespace Moment

variable {m : Moment} {id : ConnectionId} {c c' : Connection}

/-- The connections to which a step of the lifecycle, a send, a delivery while established or a forced
closing has been applied. -/
def stirred (m : Moment) : List ConnectionId :=
  match m.operation, m.answer with
  | .deliver id _, _ => if m.before.state id = .ok .established then [id] else []
  | .reclaim _ _, _ => m.forced
  | op, .decided (.ok true) => op.target?.toList
  | _, _ => []

/-- What is decided stirs the connection that it names, unless it is refused. -/
theorem mem_stirred_of_decided {flag : Bool} (hop : m.operation.target? = some id)
    (hanswer : m.answer = .decided (.ok flag)) : id ∈ m.stirred ↔ flag = true := by
  obtain ⟨r, now, op⟩ := m
  cases op with
  | create | reclaim | purge | ids | size | census => cases hop
  | deliver | drainOutbound | drainInbound | state | block | contains => cases hanswer
  | _ =>
    cases hop
    cases flag <;> simp [stirred, hanswer, Operation.target?]

/-- What is stirred is named by the operation, or reached by a pass over the connections. -/
theorem named_of_mem_stirred (h : id ∈ m.stirred) :
    m.operation.target? = some id ∨ ∃ instant threshold, m.operation = .reclaim instant threshold := by
  rw [stirred] at h
  split at h
  · next named chunk hop =>
    split at h
    · obtain rfl := List.mem_singleton.1 h
      exact .inl (hop ▸ rfl)
    · cases h
  · next instant threshold hop => exact .inr ⟨instant, threshold, hop⟩
  · exact .inl (Option.mem_toList.1 h)
  · cases h

/-- Collecting and looking stir nothing. -/
theorem stirred_of_observes (h : m.operation.observes = true) : m.stirred = [] := by
  obtain ⟨r, now, op⟩ := m
  cases op with
  | drainOutbound | drainInbound | state | block | contains | ids | size | census => rfl
  | create | establish | listen | accept | transition | send | deliver | close | peerClose | reclaim
  | purge => cases h

/-- An operation stamps the connection that it names if it stirs it. -/
theorem lastActivity_apply (hop : m.operation.target? = some id)
    (hget : m.before.get? id = some c) :
    (m.operation.apply m.before.profile m.now c).block.lastActivity =
      if id ∈ m.stirred then max m.now c.block.createdAt else c.block.lastActivity := by
  have hdecided : ∀ {flag : Bool}, m.answer = .decided (.ok flag) → (id ∈ m.stirred ↔ flag = true) :=
    mem_stirred_of_decided hop
  have hquiet : m.operation.observes = true → c.block.lastActivity =
      if id ∈ m.stirred then max m.now c.block.createdAt else c.block.lastActivity := by
    intro hobserves
    rw [stirred_of_observes hobserves, if_neg List.not_mem_nil]
  obtain ⟨r, now, op⟩ := m
  cases op with
  | create | reclaim | purge | ids | size | census => cases hop
  | establish =>
    simp only [hdecided (answer_held _ hop hget rfl)]
    exact Connection.lastActivity_of_decided (c.drive_handshake now) rfl
  | accept =>
    simp only [hdecided (answer_held _ hop hget rfl)]
    exact Connection.lastActivity_of_decided (c.drive_passiveOpen now) rfl
  | listen =>
    simp only [hdecided (answer_held _ hop hget rfl)]
    exact Connection.lastActivity_of_decided (c.advance_eq now .listen) rfl
  | transition _ target =>
    simp only [hdecided (answer_held _ hop hget rfl)]
    exact Connection.lastActivity_of_decided (c.advance_eq now target) rfl
  | close =>
    simp only [hdecided (answer_held _ hop hget rfl)]
    exact Connection.lastActivity_of_decided (c.closeAlong_teardown now) rfl
  | peerClose =>
    simp only [hdecided (answer_held _ hop hget rfl)]
    exact Connection.lastActivity_of_decided (c.closeAlong_passiveClose now) rfl
  | send _ text =>
    simp only [hdecided (answer_held _ hop hget rfl), Operation.apply]
    split
    · exact Block.lastActivity_foldl_noteSent [encodeLine text] c.block now
    · rfl
  | deliver named chunk =>
    obtain rfl := Option.some.inj hop
    have hstate : r.state named = .ok .established ↔ c.state = .established := by
      rw [Registry.state_of_get? hget, Except.ok.injEq]
    have hstirred : named ∈ stirred ⟨r, now, .deliver named chunk⟩ ↔ c.state = .established := by
      rw [stirred, ← hstate]
      split <;> simp_all
    simp only [hstirred]
    exact Connection.lastActivity_receive r.profile c chunk now
  | drainOutbound | drainInbound | state | block | contains => exact hquiet rfl

/-- A connection that is held before and after a moment is stamped if the moment stirs it. -/
theorem lastActivity_after (h : m.before.IsSound) (hget : m.before.get? id = some c)
    (hafter : m.after.get? id = some c') :
    c'.block.lastActivity =
      if id ∈ m.stirred then max m.now c.block.createdAt else c.block.lastActivity := by
  obtain rfl := eq_effect h hget hafter
  rcases Registry.effect_cases m.operation m.before.profile m.now id c with
    ⟨hop, heffect⟩ | ⟨instant, threshold, hop, heffect⟩ | ⟨hother, hpass, heffect⟩
  · rw [heffect]
    exact lastActivity_apply hop hget
  · have hstirred : m.stirred = m.forced := by rw [stirred, hop]
    rw [heffect]
    simp only [hstirred, mem_forced h hop hget]
    split <;> rfl
  · have hquiet : id ∉ m.stirred := by
      intro hmem
      rcases named_of_mem_stirred hmem with hop | ⟨instant, threshold, hop⟩
      · exact hother hop
      · exact hpass instant threshold hop
    rw [heffect, if_neg hquiet]

end Moment

namespace Registry

/-- No stamp lies before the creation, and neither lies after an instant that no moment of the history
lies after. -/
structure Stamped (past : List Moment) (c : Connection) : Prop where
  createdAt_le : c.block.createdAt ≤ c.block.lastActivity
  bounded : ∀ limit, (∀ m ∈ past, m.now ≤ limit) → c.block.lastActivity ≤ limit

/-- A moment keeps stamps in order. -/
theorem Stamped.after {past : List Moment} {m : Moment} {id : ConnectionId} {c c' : Connection}
    (h : m.before.IsSound) (hget : m.before.get? id = some c) (hafter : m.after.get? id = some c')
    (hstamped : Stamped past c) : Stamped (past ++ [m]) c' := by
  have hcreated : c'.block.createdAt = c.block.createdAt := by
    have horiginal := Moment.original_of_passage (Moment.passage h hget hafter)
    rw [← Block.createdAt_original, horiginal, Block.createdAt_original]
  have hstamp := Moment.lastActivity_after h hget hafter
  refine ⟨?_, fun limit hlimit => ?_⟩
  · rw [hcreated, hstamp]
    split
    · exact Nat.le_max_right _ _
    · exact hstamped.createdAt_le
  · have hbefore := hstamped.bounded limit fun earlier hmem =>
      hlimit earlier (List.mem_append_left _ hmem)
    rw [hstamp]
    split
    · exact Nat.max_le.2 ⟨hlimit m (by simp), Nat.le_trans hstamped.createdAt_le hbefore⟩
    · exact hbefore

/-- After every history the stamps are in order. -/
theorem stamped_run {profile : Profile} {latency : Latency} {history : List (Instant × Operation)}
    {id : ConnectionId} {c : Connection}
    (hget : ((empty profile latency).run history).2.get? id = some c) :
    Stamped ((empty profile latency).moments history) c := by
  refine (history_induction (isSound_empty profile latency)
    (motive := fun past current => ∀ c, current.get? id = some c → Stamped past c) ?_ ?_ history).2 c
    hget
  · intro c hget
    rw [get?_empty] at hget
    cases hget
  · intro past m hsound hheld c hafter
    rcases (Moment.get?_after_iff hsound).1 hafter with hborn | ⟨c₀, hget, -, -⟩
    · obtain ⟨_, _, _, rfl⟩ := fresh_of_mem_born hborn
      exact ⟨Nat.le_refl _, fun limit hlimit => hlimit m (by simp)⟩
    · exact (hheld c₀ hget).after hsound hget hafter

end Registry

end Switchboard
