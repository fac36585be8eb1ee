import Switchboard.Proofs.Registry.Accounts

/-!
# Disturbances

What others can do to a connection that somebody is using, as long as they neither send, deliver nor
collect, and do not open it again once it is closed: nothing, a step of the lifecycle, a closing in
order, or a forced closing (`disturbed_effect`). None of these makes the connection established, and
none changes a connection that is closed.

So a connection that has been opened is *settled*: it is past its opening, and it counts neither as
closed nor as timed out before it is closed. Once a pass has forced it closed, it stays so.
-/

namespace Switchboard

namespace State

/-- The opening is over: the connection is synchronized, or it is closed. -/
def isPastOpening (s : State) : Bool :=
  s = closed || s.isSynchronized

/-- From a state past the opening, other than `closed`, no step leads to `established`, and every
step leads past the opening. -/
theorem isPastOpening_of_leadsTo {s target : State} (hpast : s.isPastOpening = true)
    (hopen : s ≠ closed) (hstep : s.leadsTo target = true) :
    target ≠ established ∧ target.isPastOpening = true := by
  have hmem : target ∈ s.successors := by rwa [leadsTo, List.contains_iff_mem] at hstep
  cases s with
  | closed => exact absurd rfl hopen
  | listen | synSent | synReceived => cases hpast
  | established | finWait1 | finWait2 | closeWait | closing | lastAck | timeWait =>
    revert hmem
    cases target <;> decide

end State

/-- Whether an operation neither puts anything into the queues of a connection nor collects anything
from them. -/
def Operation.isDataless (id : ConnectionId) : Operation → Bool
  | send named _ | deliver named _ | drainOutbound named | drainInbound named => named ≠ id
  | _ => true

/-- The connection leaves the closed state. -/
def Moment.Reopens (m : Moment) (id : ConnectionId) : Prop :=
  m.before.state id = .ok .closed ∧ m.after.contains id = true ∧ m.after.state id ≠ .ok .closed

/-- Leaving the closed state is decided by looking at the states. -/
instance (m : Moment) (id : ConnectionId) : Decidable (m.Reopens id) :=
  inferInstanceAs (Decidable (_ ∧ _))

namespace Connection

variable {profile : Profile} {now : Instant} {op : Operation} {id : ConnectionId}
  {c c' : Connection} {path : List State} {target : State}

/-- The connection has been opened, and does not count as closed or as timed out unless it is
closed. -/
structure IsSettled (c : Connection) : Prop where
  isPastOpening : c.state.isPastOpening = true
  gracefullyClosed_eq : c.state ≠ .closed → c.block.gracefullyClosed = false
  timedOut_eq : c.state ≠ .closed → c.block.timedOut = false

/-- The connection has been forced closed. -/
structure IsReclaimed (c : Connection) : Prop where
  state_eq : c.state = .closed
  timedOut_eq : c.block.timedOut = true
  gracefullyClosed_eq : c.block.gracefullyClosed = false

/-- What a connection that is in use becomes when others disturb it. -/
inductive Disturbed (now : Instant) (c : Connection) : Connection → Prop
  /-- Nothing happens to it. -/
  | still : c.Disturbed now c
  /-- It takes a step. -/
  | stepped (target : State) (hopen : c.state ≠ .closed) (hstep : c.state.leadsTo target = true) :
      c.Disturbed now (c.enterAll now [target])
  /-- It is closed in order. -/
  | closed (path : List State) (hopen : c.state = .established)
      (harrival : State.established.arrival path = .closed) :
      c.Disturbed now (c.closedAlong now path)
  /-- It is forced closed. -/
  | forced (hopen : c.state ≠ .closed) : c.Disturbed now (c.forced now)

/-- A single step disturbs, unless it opens a closed connection. -/
theorem disturbed_advance (target : State)
    (hshut : c.state = .closed → (c.advance target now).2.state = .closed) :
    c.Disturbed now (c.advance target now).2 := by
  rw [advance_eq] at hshut ⊢
  split at hshut
  · next hstep =>
    rw [if_pos hstep]
    refine .stepped target (fun hclosed => ?_) hstep
    obtain rfl : target = .closed := hshut hclosed
    rw [hclosed] at hstep
    cases hstep
  · next hstep =>
    rw [if_neg hstep]
    exact .still

/-- A closing in order disturbs. -/
theorem disturbed_closeAlong (hwalk : State.established.walkable path = path)
    (harrival : State.established.arrival path = .closed) :
    c.Disturbed now (c.closeAlong path now).2 := by
  rw [closeAlong_of_walkable now c hwalk]
  split
  · next hopen => exact .closed path hopen harrival
  · exact .still

/-- What reaches a connection that is past its opening disturbs it, unless it carries data or opens
the connection again. -/
theorem disturbed_apply (hpast : c.state.isPastOpening = true) (hdataless : op.isDataless id = true)
    (hreached : op.reaches id = true)
    (hshut : c.state = .closed → (op.apply profile now c).state = .closed) :
    c.Disturbed now (op.apply profile now c) := by
  have hnamed : ∀ {named}, op.target? = some named → named = id := by
    intro named hop
    simpa [Operation.reaches, hop] using hreached
  cases op with
  | establish =>
    rw [Operation.apply, drive_handshake] at hshut ⊢
    split at hshut
    · next hclosed => cases hshut hclosed
    · next hopen =>
      rw [if_neg hopen]
      exact .still
  | accept =>
    have hopen : ¬ (c.state = .listen ∨ c.state = .synSent) := by
      rintro (hstate | hstate) <;> rw [hstate] at hpast <;> cases hpast
    rw [Operation.apply, drive_passiveOpen, if_neg hopen]
    exact .still
  | listen => exact disturbed_advance .listen hshut
  | transition _ target => exact disturbed_advance target hshut
  | close => exact disturbed_closeAlong rfl rfl
  | peerClose => exact disturbed_closeAlong rfl rfl
  | reclaim instant threshold =>
    rw [Operation.apply]
    split
    · next hstale => exact .forced (open_of_isStale hstale)
    · exact .still
  | send | deliver | drainOutbound | drainInbound =>
    exact absurd (hnamed rfl) (of_decide_eq_true hdataless)
  | create | purge | state | block | contains | ids | size | census => exact .still

/-- Others only disturb a connection that is past its opening, unless they carry data or open it
again. -/
theorem disturbed_effect (hpast : c.state.isPastOpening = true)
    (hdataless : op.isDataless id = true)
    (hshut : c.state = .closed → (op.effect profile now id c).state = .closed) :
    c.Disturbed now (op.effect profile now id c) := by
  rw [Operation.effect] at hshut ⊢
  split at hshut
  · next hreached =>
    rw [if_pos hreached]
    exact disturbed_apply hpast hdataless hreached hshut
  · next hreached =>
    rw [if_neg hreached]
    exact .still

/-- Nothing disturbs a closed connection. -/
theorem Disturbed.eq_of_closed (h : c.Disturbed now c') (hclosed : c.state = .closed) : c' = c := by
  cases h with
  | still => rfl
  | stepped _ hopen => exact absurd hclosed hopen
  | closed _ hopen => cases hclosed.symm.trans hopen
  | forced hopen => exact absurd hclosed hopen

/-- The end of a path along which a connection is closed in order. -/
theorem state_closedAlong (now : Instant) (hopen : c.state = .established)
    (harrival : State.established.arrival path = .closed) :
    (c.closedAlong now path).state = .closed := by
  rw [state, block_closedAlong]
  exact (congrArg (fun s => s.arrival path) hopen).trans harrival

/-- A connection that is established after a disturbance has not been disturbed. -/
theorem Disturbed.eq_of_established (h : c.Disturbed now c') (hpast : c.state.isPastOpening = true)
    (hopen : c'.state = .established) : c' = c := by
  cases h with
  | still => rfl
  | stepped target hshut hstep =>
    exact absurd hopen (State.isPastOpening_of_leadsTo hpast hshut hstep).1
  | closed path hbefore harrival =>
    rw [state_closedAlong now hbefore harrival] at hopen
    cases hopen
  | forced => cases hopen

/-- A disturbed connection is still settled. -/
theorem Disturbed.isSettled (h : c.Disturbed now c') (hc : c.IsSettled) : c'.IsSettled := by
  cases h with
  | still => exact hc
  | stepped target hopen hstep =>
    exact ⟨(State.isPastOpening_of_leadsTo hc.isPastOpening hopen hstep).2,
      fun _ => hc.gracefullyClosed_eq hopen, fun _ => hc.timedOut_eq hopen⟩
  | closed path hopen harrival =>
    have hclosed := state_closedAlong now hopen harrival
    exact ⟨by rw [hclosed]; rfl, fun hne => absurd hclosed hne, fun hne => absurd hclosed hne⟩
  | forced => exact ⟨rfl, fun hne => absurd rfl hne, fun hne => absurd rfl hne⟩

/-- A settled connection that is forced closed has been reclaimed. -/
theorem IsSettled.isReclaimed_forced (hc : c.IsSettled) (hopen : c.state ≠ .closed)
    (now : Instant) : (c.forced now).IsReclaimed :=
  ⟨rfl, rfl, hc.gracefullyClosed_eq hopen⟩

/-- Being settled is a matter of the block. -/
theorem IsSettled.of_block_eq (hc : c.IsSettled) (hblock : c'.block = c.block) : c'.IsSettled := by
  have hstate : c'.state = c.state := congrArg Block.state hblock
  exact ⟨by rw [hstate]; exact hc.isPastOpening,
    fun hopen => (congrArg Block.gracefullyClosed hblock).trans
      (hc.gracefullyClosed_eq (hstate ▸ hopen)),
    fun hopen => (congrArg Block.timedOut hblock).trans (hc.timedOut_eq (hstate ▸ hopen))⟩

/-- A connection that receives is still settled, and a closed one receives nothing. -/
theorem IsSettled.receive (hc : c.IsSettled) (profile : Profile) (chunk : Bytes) (now : Instant) :
    (c.receive profile chunk now).2.IsSettled ∧
      (c.state = .closed → (c.receive profile chunk now).2.block = c.block) := by
  cases hdata : c.block.carriesData with
  | false =>
    rw [receive_of_not_carriesData profile chunk now hdata]
    exact ⟨hc, fun _ => rfl⟩
  | true =>
    obtain ⟨block, hreceive, hcarried⟩ := receive_of_carriesData profile chunk now hdata
    have hopen : c.state = .established := of_decide_eq_true hdata
    have hshut : c.state ≠ .closed := by rw [hopen]; decide
    rw [hreceive]
    refine ⟨⟨?_, fun _ => ?_, fun _ => ?_⟩, fun hclosed => absurd hclosed hshut⟩
    · exact (congrArg State.isPastOpening hcarried.state_eq).trans hc.isPastOpening
    · exact hcarried.gracefullyClosed_eq.trans (hc.gracefullyClosed_eq hshut)
    · exact hcarried.timedOut_eq.trans (hc.timedOut_eq hshut)

/-- A disturbance keeps the outbox or throws it away. -/
theorem Disturbed.outbox_eq (h : c.Disturbed now c') :
    c'.outbox.toList = c.outbox.toList ∨ c'.outbox.toList = [] := by
  cases h with
  | still => exact .inl rfl
  | stepped => exact .inl rfl
  | closed path => exact .inl (congrArg Queue.toList (outbox_closedAlong now c path))
  | forced => exact .inr Queue.toList_empty

end Connection

/-- A registry in which somebody uses a connection: it holds the connection settled, or not at all
any more, and holds it as reclaimed if that has happened in one of the moments. -/
structure Registry.Attended (profile : Profile) (id : ConnectionId) (past : List Moment)
    (r : Registry) : Prop where
  isSound : r.IsSound
  profile_eq : r.profile = profile
  known : id.raw ≤ r.lastId
  isSettled : ∀ c, r.get? id = some c → c.IsSettled
  isReclaimed : ∀ m ∈ past, id ∈ m.forced → ∀ c, r.get? id = some c → c.IsReclaimed

section Using

variable {profile : Profile} {id : ConnectionId} {past : List Moment} {m : Moment}
  {c c' : Connection}

/-- What is held under a known id afterwards has been held before. -/
theorem Moment.held_before (h : m.before.IsSound) (hknown : id.raw ≤ m.before.lastId)
    (hafter : m.after.get? id = some c') :
    ∃ c, m.before.get? id = some c ∧ m.operation.effect m.before.profile m.now id c = c' := by
  rcases (Moment.get?_after_iff h).1 hafter with hborn | ⟨c, hget, -, heffect⟩
  · exact absurd hborn (Registry.not_mem_born hknown)
  · exact ⟨c, hget, heffect⟩

/-- A connection that is forced closed in a moment is held before, and what is held afterwards is
what forcing makes of it. -/
theorem Moment.forced_of_mem_forced (h : m.before.IsSound) (hmem : id ∈ m.forced)
    (hget : m.before.get? id = some c) :
    c.state ≠ .closed ∧
      m.operation.effect m.before.profile m.now id c = c.forced m.now := by
  obtain ⟨instant, threshold, hop⟩ := Moment.reclaim_of_mem_forced hmem
  have hstale := (Moment.mem_forced h hop hget).1 hmem
  refine ⟨Connection.open_of_isStale hstale, ?_⟩
  rw [hop]
  exact if_pos hstale

/-- A registry stays attended if what becomes of the connection is settled, and stays as it is once
the connection is closed. -/
theorem Registry.Attended.after (h : m.before.Attended profile id past)
    (hkeeps : ∀ c c', m.before.get? id = some c → m.after.get? id = some c' →
      c'.IsSettled ∧ (c.state = .closed → c'.block = c.block)) :
    m.after.Attended profile id (past ++ [m]) where
  isSound := Moment.isSound_after h.isSound
  profile_eq := (profile_perform h.isSound m.now m.operation).trans h.profile_eq
  known := h.known.trans (lastId_le_perform h.isSound m.now m.operation)
  isSettled := by
    intro c' hafter
    obtain ⟨c, hget, -⟩ := Moment.held_before h.isSound h.known hafter
    exact (hkeeps c c' hget hafter).1
  isReclaimed := by
    intro m' hmem hforced c' hafter
    obtain ⟨c, hget, heffect⟩ := Moment.held_before h.isSound h.known hafter
    rcases List.mem_append.1 hmem with hold | hnew
    · obtain ⟨hclosed, htimedOut, hgraceful⟩ := h.isReclaimed m' hold hforced c hget
      have hblock := (hkeeps c c' hget hafter).2 hclosed
      exact ⟨(congrArg Block.state hblock).trans hclosed,
        (congrArg Block.timedOut hblock).trans htimedOut,
        (congrArg Block.gracefullyClosed hblock).trans hgraceful⟩
    · obtain rfl := List.mem_singleton.1 hnew
      obtain ⟨hopen, hforce⟩ := Moment.forced_of_mem_forced h.isSound hforced hget
      rw [← heffect, hforce]
      exact (h.isSettled c hget).isReclaimed_forced hopen m'.now

/-- In an attended registry others only disturb the connection, if they carry no data and do not
open it again. -/
theorem Registry.Attended.disturbed (h : m.before.Attended profile id past)
    (hdataless : m.operation.isDataless id = true) (hshut : ¬ m.Reopens id)
    (hget : m.before.get? id = some c) (hafter : m.after.get? id = some c') :
    c.Disturbed m.now c' := by
  obtain rfl := Moment.eq_effect h.isSound hget hafter
  refine Connection.disturbed_effect (h.isSettled c hget).isPastOpening hdataless fun hclosed => ?_
  by_contra hopen
  refine hshut ⟨(state_of_get? hget).trans (congrArg Except.ok hclosed), ?_, ?_⟩
  · rw [contains, hafter]
    rfl
  · rw [state_of_get? hafter]
    exact fun heq => hopen (Except.ok.inj heq)

end Using

end Switchboard
