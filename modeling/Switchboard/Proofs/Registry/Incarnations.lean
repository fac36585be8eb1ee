import Switchboard.Proofs.Connection.Transfer
import Switchboard.Proofs.Registry.Moments

/-!
# Incarnations

A connection can be opened, closed, and opened again under the same id. Closing in order and forced
closing free the receiving side, so what was received before has no influence afterwards. Leaving
`established` by a single step of the lifecycle does not free it: bytes of an unfinished line, or the
skipping of an oversize one, survive until the connection is opened again.

Main statement: whenever a connection becomes established, its receiver is clean exactly if the
connection is not *stranded*, that is, if it has not last left `established` by a single step with
something left in its receiver and not been forced closed since. Exactly then, too, what is
dispatched, answered and dropped until the connection leaves `established` is a function of the bytes
delivered in that time (`established_clean_iff`).
-/

namespace Switchboard

namespace Registry

/-- Whether a connection is held whose receiver is clean. -/
def HoldsClean (r : Registry) (id : ConnectionId) : Prop :=
  ∃ c, r.get? id = some c ∧ c.receiver.IsClean

/-- Holding a clean connection is decided by looking at it. -/
instance (r : Registry) (id : ConnectionId) : Decidable (r.HoldsClean id) :=
  match h : r.get? id with
  | some c => decidable_of_iff c.receiver.IsClean (by simp [HoldsClean, h])
  | none => isFalse (by simp [HoldsClean, h])

/-- The number of oversize frames that a connection has dropped. -/
def dropped (r : Registry) (id : ConnectionId) : Nat :=
  match r.get? id with
  | some c => c.receiver.dropped
  | none => 0

end Registry

namespace Moment

/-- The connection becomes established. -/
def Enters (m : Moment) (id : ConnectionId) : Prop :=
  m.before.state id ≠ .ok .established ∧ m.after.state id = .ok .established

/-- Becoming established is decided by looking at the states. -/
instance (m : Moment) (id : ConnectionId) : Decidable (m.Enters id) :=
  inferInstanceAs (Decidable (_ ∧ _))

/-- The connection is established no longer. -/
def Leaves (m : Moment) (id : ConnectionId) : Prop :=
  m.before.state id = .ok .established ∧ m.after.state id ≠ .ok .established

/-- The connection leaves `established` by a single step, with something left in its receiver. -/
def Strands (m : Moment) (id : ConnectionId) : Prop :=
  m.Leaves id ∧ (∃ target, m.operation = .transition id target) ∧ ¬ m.before.HoldsClean id

/-- The bytes that are delivered to a connection. -/
def deliveredTo (m : Moment) (id : ConnectionId) : List Bytes :=
  match m.operation with
  | .deliver target chunk => if target = id then [chunk] else []
  | _ => []

/-- The frames that answer a delivery to a connection. -/
def repliesTo (m : Moment) (id : ConnectionId) : List Bytes :=
  match m.operation with
  | .deliver target _ =>
    if target = id then (m.after.pending id).drop (m.before.pending id).length else []
  | _ => []

end Moment

namespace Registry

/-- The bytes that a history delivers to a connection, one after the other. -/
def delivered (r : Registry) (id : ConnectionId) (history : List (Instant × Operation)) : Bytes :=
  ((r.moments history).flatMap fun m => m.deliveredTo id).flatten

/-- Until a connection leaves `established`, what it dispatches, answers and drops is a function of
the bytes delivered to it from here on. -/
def HearsAfresh (r : Registry) (id : ConnectionId) : Prop :=
  ∀ period, (∀ m ∈ r.moments period, ¬ m.Leaves id) →
    let messages := (Lines.ofStream (r.delivered id period)).messages r.profile.frameLimit
    ((r.moments period).flatMap fun m => m.dispatched id) = messages ∧
      ((r.moments period).flatMap fun m => m.repliesTo id) =
        Message.answers r.profile.policy messages ∧
      (r.run period).2.dropped id =
        r.dropped id + (Lines.ofStream (r.delivered id period)).oversize r.profile.frameLimit

end Registry

/-- A connection has last left `established` by a single step, with something left in its receiver,
and has not been forced closed since. -/
def Stranded (past : List Moment) (id : ConnectionId) : Prop :=
  ∃ earlier m later, past = earlier ++ m :: later ∧ m.Strands id ∧
    ∀ after ∈ later, ¬ after.Leaves id ∧ id ∉ after.forced

/-- One more moment strands a connection, or leaves it stranded. -/
theorem stranded_append_singleton {past : List Moment} {m : Moment} {id : ConnectionId} :
    Stranded (past ++ [m]) id ↔
      m.Strands id ∨ Stranded past id ∧ ¬ m.Leaves id ∧ id ∉ m.forced := by
  constructor
  · rintro ⟨earlier, stranding, later, hsplit, hstrands, hsince⟩
    rcases List.eq_nil_or_concat later with rfl | ⟨between, last, rfl⟩
    · obtain ⟨-, hlast⟩ := List.append_inj' hsplit rfl
      obtain rfl := (List.cons.inj hlast).1
      exact .inl hstrands
    · have hshift : past ++ [m] = (earlier ++ stranding :: between) ++ [last] := by
        simpa using hsplit
      obtain ⟨hpast, hlast⟩ := List.append_inj' hshift rfl
      obtain rfl := (List.cons.inj hlast).1
      refine .inr ⟨⟨earlier, stranding, between, hpast, hstrands, ?_⟩, hsince m (by simp)⟩
      intro after hafter
      exact hsince after (by simp [hafter])
  · rintro (hstrands | ⟨⟨earlier, stranding, later, rfl, hstrands, hsince⟩, hkept⟩)
    · exact ⟨past, m, [], rfl, hstrands, by simp⟩
    · refine ⟨earlier, stranding, later ++ [m], by simp, hstrands, ?_⟩
      intro after hafter
      rcases List.mem_append.1 hafter with hold | hnew
      · exact hsince after hold
      · exact List.mem_singleton.1 hnew ▸ hkept

/-- Whether an operation frees the receiver of a connection that it reaches: closing in order does if
the connection is established, a pass over the connections does if it is stale. -/
def Operation.frees : Operation → Connection → Prop
  | .close _, c | .peerClose _, c => c.state = .established
  | .reclaim instant threshold, c => c.isStale instant threshold = true
  | _, _ => False

section Receiving

variable {op : Operation} {id : ConnectionId} {c : Connection} (profile : Profile) (now : Instant)

/-- What enters states or is refused keeps what has been received. -/
theorem kept_of_decided {p : Prop} [Decidable p] {path : List State} {outcome : Bool × Connection}
    (houtcome : outcome = if p then (true, c.enterAll now path) else (false, c)) :
    outcome.2.receiver = c.receiver ∧ outcome.2.inbox = c.inbox :=
  ⟨Connection.keeps_of_decided houtcome Connection.receiver rfl,
    Connection.keeps_of_decided houtcome Connection.inbox rfl⟩

/-- Freeing a receiver comes with closing the connection and emptying its inbox. -/
theorem cleared_of_frees (h : op.frees c) :
    (op.apply profile now c).receiver.IsClean ∧ (op.apply profile now c).inbox = Queue.empty ∧
      (op.apply profile now c).state = .closed := by
  have hclean := Receiver.isClean_release c.receiver
  cases op with
  | close =>
    rw [Operation.frees] at h
    rw [Operation.apply, Connection.closeAlong_teardown, if_pos h]
    exact ⟨hclean, rfl, rfl⟩
  | peerClose =>
    rw [Operation.frees] at h
    rw [Operation.apply, Connection.closeAlong_passiveClose, if_pos h]
    exact ⟨hclean, rfl, rfl⟩
  | reclaim instant threshold =>
    rw [Operation.frees] at h
    rw [Operation.apply, if_pos h]
    exact ⟨hclean, rfl, rfl⟩
  | _ => exact h.elim

/-- Without a delivery a receiver that is not freed is kept, and so is an inbox unless it is
collected. -/
theorem kept_of_not_frees (hdeliver : ∀ id chunk, op ≠ .deliver id chunk) (h : ¬ op.frees c) :
    (op.apply profile now c).receiver = c.receiver ∧
      ((op.apply profile now c).inbox = c.inbox ∨
        (op.apply profile now c).inbox = Queue.empty) := by
  cases op with
  | deliver id chunk => exact absurd rfl (hdeliver id chunk)
  | establish => exact (kept_of_decided now (Connection.drive_handshake now c)).imp_right .inl
  | accept => exact (kept_of_decided now (Connection.drive_passiveOpen now c)).imp_right .inl
  | listen => exact (kept_of_decided now (Connection.advance_eq now c .listen)).imp_right .inl
  | transition _ target =>
    exact (kept_of_decided now (Connection.advance_eq now c target)).imp_right .inl
  | close =>
    rw [Operation.frees] at h
    rw [Operation.apply, Connection.closeAlong_teardown, if_neg h]
    exact ⟨rfl, .inl rfl⟩
  | peerClose =>
    rw [Operation.frees] at h
    rw [Operation.apply, Connection.closeAlong_passiveClose, if_neg h]
    exact ⟨rfl, .inl rfl⟩
  | reclaim instant threshold =>
    rw [Operation.frees] at h
    rw [Operation.apply, if_neg h]
    exact ⟨rfl, .inl rfl⟩
  | send _ text =>
    rw [Operation.apply]
    split <;> exact ⟨rfl, .inl rfl⟩
  | drainInbound => exact ⟨rfl, .inr rfl⟩
  | create | purge | drainOutbound | state | block | contains | ids | size | census =>
    exact ⟨rfl, .inl rfl⟩

/-- Without a single step a connection whose receiver is not freed stays established. -/
theorem open_of_not_frees (hopen : c.state = .established) (h : ¬ op.frees c)
    (htransition : ∀ id target, op ≠ .transition id target) :
    (op.apply profile now c).state = .established := by
  cases op with
  | transition id target => exact absurd rfl (htransition id target)
  | close | peerClose => exact absurd hopen h
  | reclaim instant threshold =>
    rw [Operation.frees] at h
    rw [Operation.apply, if_neg h]
    exact hopen
  | establish =>
    rw [Operation.apply, Connection.drive_handshake, if_neg (by simp [hopen])]
    exact hopen
  | accept =>
    rw [Operation.apply, Connection.drive_passiveOpen, if_neg (by simp [hopen])]
    exact hopen
  | listen =>
    rw [Operation.apply, Connection.advance_eq, if_neg (by simp [hopen]; decide)]
    exact hopen
  | send _ text =>
    rw [Operation.apply]
    split
    · exact (Connection.carried_transmit c _ now).state_eq.trans hopen
    · exact hopen
  | deliver _ chunk =>
    have hdata : c.block.carriesData = true := decide_eq_true hopen
    obtain ⟨block, hreceive, hcarried⟩ :=
      Connection.receive_of_carriesData profile chunk now hdata
    rw [Operation.apply, hreceive]
    exact hcarried.state_eq.trans hopen
  | create | purge | drainOutbound | drainInbound | state | block | contains | ids | size
  | census => exact hopen

/-- A connection that is not established keeps its receiver unless that is freed. -/
theorem receiver_of_shut (hshut : c.state ≠ .established) (h : ¬ op.frees c) :
    (op.effect profile now id c).receiver = c.receiver := by
  rw [Operation.effect]
  split
  · by_cases hdeliver : ∃ named chunk, op = .deliver named chunk
    · obtain ⟨named, chunk, rfl⟩ := hdeliver
      have hdata : c.block.carriesData = false := decide_eq_false hshut
      rw [Operation.apply, Connection.receive_of_not_carriesData _ _ _ hdata]
    · exact (kept_of_not_frees profile now (fun named chunk hop => hdeliver ⟨named, chunk, hop⟩)
        h).1
  · rfl

/-- Of the connections that are not established, a pass reaches all whose receivers it frees. -/
theorem cleared_of_shut (hshut : c.state ≠ .established) (h : op.frees c) :
    (op.effect profile now id c).receiver.IsClean ∧
      (op.effect profile now id c).state = .closed := by
  have hreached : op.reaches id = true := by
    cases op with
    | reclaim => rfl
    | close | peerClose => exact absurd h hshut
    | _ => exact h.elim
  rw [Operation.effect, if_pos hreached]
  exact ⟨(cleared_of_frees profile now h).1, (cleared_of_frees profile now h).2.2⟩

/-- A connection that leaves `established` keeps its receiver if it does so by a single step.
Otherwise its receiver is freed. -/
theorem receiver_of_leaving (hopen : c.state = .established)
    (hleft : (op.effect profile now id c).state ≠ .established) :
    ((∃ target, op = .transition id target) ∧
        (op.effect profile now id c).receiver = c.receiver) ∨
      (¬ ∃ target, op = .transition id target) ∧
        (op.effect profile now id c).receiver.IsClean := by
  have hreached : op.reaches id = true := by
    by_contra hother
    exact hleft (by rw [Operation.effect, if_neg hother, hopen])
  rw [Operation.effect, if_pos hreached] at hleft ⊢
  by_cases hstep : ∃ target, op = .transition id target
  · obtain ⟨target, rfl⟩ := hstep
    exact .inl ⟨⟨target, rfl⟩, (kept_of_decided now (Connection.advance_eq now c target)).1⟩
  · refine .inr ⟨hstep, (cleared_of_frees profile now ?_).1⟩
    by_contra hfrees
    refine hleft (open_of_not_frees profile now hopen hfrees ?_)
    rintro named target rfl
    have hid : named = id := by simpa [Operation.reaches, Operation.target?] using hreached
    exact hstep ⟨target, hid ▸ rfl⟩

/-- Without a delivery to it a connection that stays established keeps its receiver, and its inbox
unless that is collected. -/
theorem kept_of_quiet (hquiet : ∀ chunk, op ≠ .deliver id chunk)
    (hstate : (op.effect profile now id c).state = .established) :
    (op.effect profile now id c).receiver = c.receiver ∧
      ((op.effect profile now id c).inbox = c.inbox ∨
        (op.effect profile now id c).inbox = Queue.empty) := by
  rw [Operation.effect] at hstate ⊢
  by_cases hreached : op.reaches id = true
  · rw [if_pos hreached] at hstate ⊢
    have hdeliver : ∀ target chunk, op ≠ .deliver target chunk := by
      intro target chunk hop
      have hid : target = id := by
        simpa [Operation.reaches, Operation.target?, hop] using hreached
      exact hquiet chunk (hid ▸ hop)
    refine kept_of_not_frees profile now hdeliver fun hfrees => ?_
    rw [(cleared_of_frees profile now hfrees).2.2] at hstate
    cases hstate
  · rw [if_neg hreached]
    exact ⟨rfl, .inl rfl⟩

end Receiving

section Leaving

variable {m : Moment} {id : ConnectionId} {c : Connection}

/-- Of the connections that are not established, those are forced closed whose receivers are
freed. -/
theorem mem_forced_iff (h : m.before.IsSound) (hget : m.before.get? id = some c)
    (hshut : c.state ≠ .established) : id ∈ m.forced ↔ m.operation.frees c := by
  obtain ⟨r, now, op⟩ := m
  cases op with
  | reclaim instant threshold => exact Moment.mem_forced h rfl hget
  | close | peerClose => exact iff_of_false List.not_mem_nil hshut
  | _ => exact iff_of_false List.not_mem_nil not_false

/-- Holding a clean connection, for one that is held. -/
theorem holdsClean_iff {r : Registry} (hget : r.get? id = some c) :
    r.HoldsClean id ↔ c.receiver.IsClean := by
  simp [Registry.HoldsClean, hget]

/-- Only connections that have been made can be stranded, and of those that are not established
exactly the stranded ones are not clean. -/
structure Settled (past : List Moment) (r : Registry) : Prop where
  known : ∀ id, Stranded past id → id.raw ≤ r.lastId
  clean_iff : ∀ id c, r.get? id = some c → c.state ≠ .established →
    (c.receiver.IsClean ↔ ¬ Stranded past id)

variable {past : List Moment}

/-- A connection that leaves `established` is stranded unless it is clean. -/
theorem clean_iff_of_leaving (hget : m.before.get? id = some c)
    (hafter : m.after.get? id = some (m.operation.effect m.before.profile m.now id c))
    (hopen : c.state = .established)
    (hleft : (m.operation.effect m.before.profile m.now id c).state ≠ .established) :
    (m.operation.effect m.before.profile m.now id c).receiver.IsClean ↔
      ¬ Stranded (past ++ [m]) id := by
  have hleaves : m.Leaves id := by
    rw [Moment.Leaves, Registry.state_of_get? hget, Registry.state_of_get? hafter, hopen]
    exact ⟨rfl, fun heq => hleft (Except.ok.inj heq)⟩
  have hstranded : Stranded (past ++ [m]) id ↔ m.Strands id := by
    rw [stranded_append_singleton]
    exact or_iff_left fun hboth => hboth.2.1 hleaves
  rw [hstranded, Moment.Strands, holdsClean_iff hget]
  rcases receiver_of_leaving _ _ hopen hleft with ⟨hstep, hsame⟩ | ⟨hnostep, hclean⟩
  · rw [hsame]
    simp [hleaves, hstep]
  · simp [hnostep, hclean]

/-- A connection that is not established stays clean or not, and a forced closing cleans it. -/
theorem clean_iff_of_shut (h : m.before.IsSound) (hget : m.before.get? id = some c)
    (hshut : c.state ≠ .established)
    (hbefore : c.receiver.IsClean ↔ ¬ Stranded past id) :
    (m.operation.effect m.before.profile m.now id c).receiver.IsClean ↔
      ¬ Stranded (past ++ [m]) id := by
  have hstays : ¬ m.Leaves id := by
    rintro ⟨hopen, -⟩
    rw [Registry.state_of_get? hget] at hopen
    exact hshut (Except.ok.inj hopen)
  have hstranded : Stranded (past ++ [m]) id ↔ Stranded past id ∧ id ∉ m.forced := by
    rw [stranded_append_singleton]
    simp [Moment.Strands, hstays]
  rw [hstranded, mem_forced_iff h hget hshut]
  by_cases hfrees : m.operation.frees c
  · simp [hfrees, (cleared_of_shut _ m.now hshut hfrees).1]
  · simp [hfrees, receiver_of_shut _ m.now hshut hfrees, hbefore]

/-- Every operation keeps this so. -/
theorem settled_after (h : m.before.IsSound) (hsettled : Settled past m.before) :
    Settled (past ++ [m]) m.after where
  known := by
    intro id hstranded
    have hbefore : id.raw ≤ m.before.lastId := by
      rcases stranded_append_singleton.1 hstranded with hstrands | ⟨hold, -⟩
      · obtain ⟨c, hget, -⟩ := held_of_state hstrands.1.1
        exact h.known id c hget
      · exact hsettled.known id hold
    exact hbefore.trans (Registry.lastId_le_perform h m.now m.operation)
  clean_iff := by
    intro id c hafter hshut
    rcases (Moment.get?_after_iff h).1 hafter with hborn | ⟨c₀, hget, -, rfl⟩
    · obtain ⟨localEnd, remoteEnd, isn, rfl⟩ := Registry.fresh_of_mem_born hborn
      have hraw := (Registry.raw_of_mem_born hborn).1
      have hnever : ¬ Stranded (past ++ [m]) id := by
        intro hstranded
        rcases stranded_append_singleton.1 hstranded with hstrands | ⟨hold, -⟩
        · obtain ⟨c, hget, -⟩ := held_of_state hstrands.1.1
          have hknown := h.known id c hget
          omega
        · have hknown := hsettled.known id hold
          omega
      exact iff_of_true Receiver.isClean_fresh hnever
    · by_cases hopen : c₀.state = .established
      · exact clean_iff_of_leaving hget hafter hopen hshut
      · exact clean_iff_of_shut h hget hopen (hsettled.clean_iff id c₀ hget hopen)

/-- After every history exactly the stranded ones of the connections that are not established are
not clean. -/
theorem settled_run (profile : Profile) (latency : Latency)
    (history : List (Instant × Operation)) :
    Settled ((Registry.empty profile latency).moments history)
      ((Registry.empty profile latency).run history).2 := by
  have hempty := Registry.isSound_empty profile latency
  have hbegin : Settled [] (Registry.empty profile latency) := by
    constructor
    · rintro id ⟨earlier, m, later, hsplit, -⟩
      exact absurd hsplit (by simp)
    · intro id c hget
      rw [Registry.get?_empty] at hget
      cases hget
  exact (Registry.history_induction hempty (motive := Settled) hbegin
    (fun _ _ hsound hpast => settled_after hsound hpast) history).2

/-- A connection that becomes established is clean exactly if it is not stranded. -/
theorem holdsClean_of_enters (h : m.before.IsSound) (hsettled : Settled past m.before)
    (henters : m.Enters id) : m.after.HoldsClean id ↔ ¬ Stranded past id := by
  obtain ⟨hshut, hopen⟩ := henters
  obtain ⟨c, hafter, hstate⟩ := held_of_state hopen
  rw [holdsClean_iff hafter]
  rcases (Moment.get?_after_iff h).1 hafter with hborn | ⟨c₀, hget, -, rfl⟩
  · obtain ⟨localEnd, remoteEnd, isn, rfl⟩ := Registry.fresh_of_mem_born hborn
    cases hstate
  · have hbefore : c₀.state ≠ .established := by
      rw [Registry.state_of_get? hget] at hshut
      exact fun heq => hshut (congrArg Except.ok heq)
    have hkept : ¬ m.operation.frees c₀ := by
      intro hfrees
      rw [(cleared_of_shut _ m.now hbefore hfrees).2] at hstate
      cases hstate
    rw [receiver_of_shut _ m.now hbefore hkept, hsettled.clean_iff id c₀ hget hbefore]

end Leaving

section Period

variable {m : Moment} {id : ConnectionId} {c : Connection}

/-- After every operation a receiver follows a stream if it followed one before. -/
theorem follows_effect (op : Operation) (profile : Profile) (now : Instant)
    (h : ∃ before stream, c.receiver.Follows profile.frameLimit before stream) :
    ∃ before stream,
      (op.effect profile now id c).receiver.Follows profile.frameLimit before stream := by
  rw [Operation.effect]
  by_cases hreached : op.reaches id = true
  · rw [if_pos hreached]
    by_cases hdeliver : ∃ named chunk, op = .deliver named chunk
    · obtain ⟨named, chunk, rfl⟩ := hdeliver
      rw [Operation.apply]
      cases hdata : c.block.carriesData
      · rw [Connection.receive_of_not_carriesData _ _ _ hdata]
        exact h
      · obtain ⟨before, stream, hfollows⟩ := h
        obtain ⟨-, -, -, -, -, hlonger, -⟩ :=
          Connection.receive_follows profile chunk now hdata hfollows
        exact ⟨before, _, hlonger⟩
    · have hother : ∀ named chunk, op ≠ .deliver named chunk := fun named chunk hop =>
        hdeliver ⟨named, chunk, hop⟩
      by_cases hfrees : op.frees c
      · exact ⟨_, _, (cleared_of_frees profile now hfrees).1.follows _⟩
      · rw [(kept_of_not_frees profile now hother hfrees).1]
        exact h
  · rw [if_neg hreached]
    exact h

/-- The receiver of every connection that is held follows a stream. -/
def Registry.Following (r : Registry) : Prop :=
  ∀ id c, r.get? id = some c →
    ∃ before stream, c.receiver.Follows r.profile.frameLimit before stream

/-- Every operation keeps this so. -/
theorem following_after (h : m.before.IsSound) (hfollowing : m.before.Following) :
    m.after.Following := by
  intro id c hafter
  rw [show m.after.profile = m.before.profile from
    Registry.profile_perform h m.now m.operation]
  rcases (Moment.get?_after_iff h).1 hafter with hborn | ⟨c₀, hget, -, rfl⟩
  · obtain ⟨localEnd, remoteEnd, isn, rfl⟩ := Registry.fresh_of_mem_born hborn
    exact ⟨_, _, Receiver.isClean_fresh.follows _⟩
  · exact follows_effect m.operation _ m.now (hfollowing id c₀ hget)

/-- After every history the receiver of every connection follows a stream. -/
theorem following_run (profile : Profile) (latency : Latency)
    (history : List (Instant × Operation)) :
    ((Registry.empty profile latency).run history).2.Following := by
  refine (Registry.history_induction (Registry.isSound_empty profile latency)
    (motive := fun _ r => r.Following) ?_ (fun _ _ hsound => following_after hsound) history).2
  intro id c hget
  rw [Registry.get?_empty] at hget
  cases hget

/-- A connection that does not leave `established` is still held. -/
theorem get?_of_staying (h : m.before.IsSound) (hget : m.before.get? id = some c)
    (hopen : c.state = .established) (hstays : ¬ m.Leaves id) :
    m.after.get? id = some (m.operation.effect m.before.profile m.now id c) ∧
      (m.operation.effect m.before.profile m.now id c).state = .established := by
  have hkept := Registry.removes_of_established hopen m.operation
  have hafter := (Moment.get?_after_iff h).2 (.inr ⟨c, hget, hkept, rfl⟩)
  refine ⟨hafter, ?_⟩
  by_contra hleft
  refine hstays ⟨?_, ?_⟩
  · rw [Registry.state_of_get? hget, hopen]
  · rw [Registry.state_of_get? hafter]
    exact fun heq => hleft (Except.ok.inj heq)

/-- While a connection stays established, a moment dispatches and answers the messages that the
bytes delivered in it add to the stream. -/
structure Heard (limit : Nat) (policy : Policy) (before : Nat) (stream : Bytes) (id : ConnectionId)
    (moments : List Moment) (last : Connection) : Prop where
  state_eq : last.state = .established
  follows : last.receiver.Follows limit before
    (stream ++ (moments.flatMap fun m => m.deliveredTo id).flatten)
  messages_eq : (Lines.ofStream
      (stream ++ (moments.flatMap fun m => m.deliveredTo id).flatten)).messages limit =
    (Lines.ofStream stream).messages limit ++ moments.flatMap fun m => m.dispatched id
  replies_eq : (moments.flatMap fun m => m.repliesTo id) =
    Message.answers policy (moments.flatMap fun m => m.dispatched id)

variable {stream : Bytes} {before : Nat}

/-- A moment without a delivery to the connection adds nothing. -/
theorem heard_of_quiet (hget : m.before.get? id = some c)
    (hafter : m.after.get? id = some (m.operation.effect m.before.profile m.now id c))
    (hstate : (m.operation.effect m.before.profile m.now id c).state = .established)
    (hquiet : ∀ chunk, m.operation ≠ .deliver id chunk)
    (hfollows : c.receiver.Follows m.before.profile.frameLimit before stream) :
    Heard m.before.profile.frameLimit m.before.profile.policy before stream id [m]
      (m.operation.effect m.before.profile m.now id c) := by
  have hkept := kept_of_quiet m.before.profile m.now hquiet hstate
  have hdelivered : m.deliveredTo id = [] ∧ m.repliesTo id = [] := by
    rw [Moment.deliveredTo, Moment.repliesTo]
    split
    · next target chunk hop =>
      have hne : target ≠ id := fun hid => hquiet chunk (hid ▸ hop)
      exact ⟨if_neg hne, if_neg hne⟩
    · exact ⟨rfl, rfl⟩
  have hdispatched : m.dispatched id = [] := by
    rw [Moment.dispatched, Registry.waiting_of_get? hafter, Registry.waiting_of_get? hget]
    rcases hkept.2 with hsame | hempty
    · rw [hsame, List.drop_length]
    · rw [hempty, Queue.toList_empty, List.drop_nil]
  constructor
  · exact hstate
  · simpa [hdelivered.1, hkept.1] using hfollows
  · simp [hdelivered.1, hdispatched]
  · simp [hdelivered.2, hdispatched, Message.answers]

/-- A moment with a delivery to the connection adds the bytes of the delivery. -/
theorem heard_of_deliver {chunk : Bytes} (hget : m.before.get? id = some c)
    (hafter : m.after.get? id = some (m.operation.effect m.before.profile m.now id c))
    (hopen : c.state = .established) (hop : m.operation = .deliver id chunk)
    (hfollows : c.receiver.Follows m.before.profile.frameLimit before stream) :
    Heard m.before.profile.frameLimit m.before.profile.policy before stream id [m]
      (m.operation.effect m.before.profile m.now id c) := by
  have hdata : c.block.carriesData = true := decide_eq_true hopen
  obtain ⟨messages, hmessages, -, hinbox, houtbox, hlonger, hcarried⟩ :=
    Connection.receive_follows m.before.profile chunk m.now hdata hfollows
  have heffect : m.operation.effect m.before.profile m.now id c =
      (c.receive m.before.profile chunk m.now).2 := by
    rw [Registry.effect_of_target (by rw [hop]; rfl), hop]
    rfl
  have hdelivered : m.deliveredTo id = [chunk] := by
    simp only [Moment.deliveredTo, hop, if_true]
  have hdispatched : m.dispatched id = messages := by
    rw [Moment.dispatched, Registry.waiting_of_get? hafter, Registry.waiting_of_get? hget, heffect,
      hinbox, List.drop_left]
  have hreplies : m.repliesTo id = Message.answers m.before.profile.policy messages := by
    simp only [Moment.repliesTo, hop, if_true]
    rw [Registry.pending_of_get? hafter, Registry.pending_of_get? hget, heffect, houtbox,
      List.drop_left]
  rw [heffect]
  constructor
  · exact hcarried.state_eq.trans hopen
  · simpa [hdelivered] using hlonger
  · simpa [hdelivered, hdispatched] using hmessages
  · simp [hreplies, hdispatched]

/-- While a connection stays established, everything it dispatches, answers and drops comes from the
bytes delivered to it. -/
theorem heard_run {profile : Profile} {period : List (Instant × Operation)} :
    ∀ {r : Registry} {c : Connection} {stream : Bytes}, r.IsSound → r.profile = profile →
      r.get? id = some c → c.state = .established →
      c.receiver.Follows profile.frameLimit before stream →
      (∀ m ∈ r.moments period, ¬ m.Leaves id) →
      ∃ last, (r.run period).2.get? id = some last ∧
        Heard profile.frameLimit profile.policy before stream id (r.moments period) last := by
  induction period with
  | nil =>
    intro r c stream _ _ hget hopen hfollows _
    refine ⟨c, hget, hopen, ?_, ?_, ?_⟩
    · simpa [Registry.moments] using hfollows
    · simp [Registry.moments]
    · simp [Registry.moments, Message.answers]
  | cons step later ih =>
    intro r c stream hsound hprofile hget hopen hfollows hstays
    obtain ⟨now, op⟩ := step
    have hmoments : r.moments ((now, op) :: later) =
        [⟨r, now, op⟩] ++ (r.perform now op).2.moments later := rfl
    rw [hmoments] at hstays ⊢
    obtain ⟨hafter, hstate⟩ :=
      get?_of_staying (m := ⟨r, now, op⟩) hsound hget hopen (hstays _ (by simp))
    have hfirst : Heard profile.frameLimit profile.policy before stream id [⟨r, now, op⟩]
        (op.effect r.profile now id c) := by
      subst hprofile
      by_cases hdeliver : ∃ chunk, op = .deliver id chunk
      · obtain ⟨chunk, hop⟩ := hdeliver
        exact heard_of_deliver (m := ⟨r, now, op⟩) hget hafter hopen hop hfollows
      · exact heard_of_quiet (m := ⟨r, now, op⟩) hget hafter hstate
          (fun chunk hop => hdeliver ⟨chunk, hop⟩) hfollows
    have hsame : (r.perform now op).2.profile = profile :=
      (Registry.profile_perform hsound now op).trans hprofile
    obtain ⟨last, hlast, hrest⟩ := ih (Registry.isSound_perform hsound now op) hsame hafter
      hfirst.state_eq hfirst.follows fun m hm => hstays m (by simp [hm])
    refine ⟨last, hlast, hrest.state_eq, ?_, ?_, ?_⟩
    · simpa using hrest.follows
    · have hmessages := hrest.messages_eq
      rw [hfirst.messages_eq] at hmessages
      simpa using hmessages
    · rw [List.flatMap_append, List.flatMap_append, hfirst.replies_eq, hrest.replies_eq]
      exact List.filterMap_append.symm

/-- A clean connection that is established hears afresh. -/
theorem hearsAfresh_of_isClean {r : Registry} (h : r.IsSound) (hget : r.get? id = some c)
    (hopen : c.state = .established) (hclean : c.receiver.IsClean) : r.HearsAfresh id := by
  intro period hstays
  obtain ⟨last, hlast, hheard⟩ := heard_run h rfl hget hopen (hclean.follows _) hstays
  have hmessages := hheard.messages_eq
  have hdropped := hheard.follows.dropped_eq
  rw [List.nil_append] at hmessages hdropped
  refine ⟨hmessages.symm, ?_, ?_⟩
  · rw [hheard.replies_eq]
    exact congrArg _ hmessages.symm
  · simpa [Registry.dropped, Registry.delivered, hlast, hget] using hdropped

/-- A connection that is established and not clean does not hear afresh: a line that is just accepted
on its own is not accepted with what is left in front of it. -/
theorem not_hearsAfresh {r : Registry} (h : r.IsSound) (hget : r.get? id = some c)
    (hopen : c.state = .established)
    (hfollows : c.receiver.Follows r.profile.frameLimit before stream)
    (hdirty : ¬ c.receiver.IsClean) : ¬ r.HearsAfresh id := by
  have hleft : 0 < (Lines.ofStream stream).tail.length := by
    rw [hfollows.isClean_iff] at hdirty
    exact List.length_pos_of_ne_nil hdirty
  obtain ⟨line, hlength, hnone⟩ :=
    Lines.exists_line (r.profile.frameLimit + 1 - (Lines.ofStream stream).tail.length)
  obtain ⟨m, hm⟩ : ∃ m : Moment, m = ⟨r, 0, .deliver id (line ++ [delimiter])⟩ := ⟨_, rfl⟩
  have hafter : m.after.get? id = some (m.operation.effect m.before.profile m.now id c) := by
    rw [hm, Registry.effect_of_target rfl]
    exact Moment.get?_after h rfl hget
  have hheard : Heard r.profile.frameLimit r.profile.policy before stream id [m]
      (m.operation.effect m.before.profile m.now id c) := by
    subst hm
    exact heard_of_deliver hget hafter hopen rfl hfollows
  have hstays : ¬ m.Leaves id := by
    rintro ⟨-, hshut⟩
    exact hshut ((Registry.state_of_get? hafter).trans (congrArg _ hheard.state_eq))
  have hmoments : r.moments [(0, .deliver id (line ++ [delimiter]))] = [m] := by
    rw [hm]
    rfl
  have hdelivered : ([m].flatMap fun m => m.deliveredTo id).flatten = line ++ [delimiter] := by
    simp [hm, Moment.deliveredTo]
  -- Behind the stream the line is too long, and nothing is dispatched.
  have hnothing : ([m].flatMap fun m => m.dispatched id) = [] := by
    have hmessages := hheard.messages_eq
    rw [hdelivered, Lines.messages_append_line _ _ hnone, if_neg (by omega)] at hmessages
    exact (List.append_cancel_left hmessages).symm
  intro hafresh
  obtain ⟨hdispatched, -, -⟩ := hafresh [(0, .deliver id (line ++ [delimiter]))]
    (by simpa [hmoments] using hstays)
  rw [Registry.delivered, hmoments, hdelivered, hnothing, ← List.nil_append (line ++ [delimiter]),
    Lines.messages_append_line _ _ hnone, if_pos (by simp [Lines.ofStream]; omega)] at hdispatched
  simp at hdispatched

/-- Whenever a connection becomes established, its receiver is clean exactly if it is not stranded,
and exactly then what it dispatches, answers and drops until it leaves `established` is a function of
the bytes delivered in that time. -/
theorem established_clean_iff (profile : Profile) (latency : Latency)
    (history : List (Instant × Operation)) {past later : List Moment} {m : Moment}
    (hsplit : (Registry.empty profile latency).moments history = past ++ m :: later)
    {id : ConnectionId} (henters : m.Enters id) :
    (m.after.HoldsClean id ↔ ¬ Stranded past id) ∧
      (m.after.HearsAfresh id ↔ ¬ Stranded past id) := by
  obtain ⟨earlier, rfl, hbefore⟩ := Registry.exists_of_moments_eq hsplit
  have hsound : m.before.IsSound := by
    rw [hbefore]
    exact Registry.isSound_run (Registry.isSound_empty profile latency) earlier
  have hclean := holdsClean_of_enters hsound (hbefore ▸ settled_run profile latency earlier) henters
  refine ⟨hclean, ?_⟩
  rw [← hclean]
  obtain ⟨c, hget, hopen⟩ := held_of_state henters.2
  have hafter := Moment.isSound_after hsound
  obtain ⟨before, stream, hfollows⟩ :=
    following_after hsound (hbefore ▸ following_run profile latency earlier) id c hget
  rw [holdsClean_iff hget]
  constructor
  · intro hafresh
    by_contra hdirty
    exact not_hearsAfresh hafter hget hopen hfollows hdirty hafresh
  · exact hearsAfresh_of_isClean hafter hget hopen

/-- A connection that is closed in order in the middle of a line, and then opened again, hears
afresh. -/
theorem established_clean_iff_closed_in_order :
    let opened : List (Instant × Operation) :=
      [(0, .create ⟨"10.0.0.1", 1⟩ ⟨"10.0.0.2", 2⟩ 5), (1, .establish ⟨1⟩),
        (2, .deliver ⟨1⟩ (Utf8.encode "ECHO par")), (3, .close ⟨1⟩)]
    let m : Moment := ⟨((Registry.empty {} .none).run opened).2, 4, .establish ⟨1⟩⟩
    (Registry.empty {} .none).moments (opened ++ [(4, .establish ⟨1⟩)]) =
        (Registry.empty {} .none).moments opened ++ m :: [] ∧
      m.Enters ⟨1⟩ ∧ m.after.HoldsClean ⟨1⟩ ∧ m.after.HearsAfresh ⟨1⟩ := by
  intro opened m
  have hsplit : (Registry.empty {} .none).moments (opened ++ [(4, .establish ⟨1⟩)]) =
      (Registry.empty {} .none).moments opened ++ m :: [] :=
    Registry.moments_append _ _ _
  have henters : m.Enters ⟨1⟩ := by decide +kernel
  have hclean : m.after.HoldsClean ⟨1⟩ := by decide +kernel
  obtain ⟨hunstranded, hafresh⟩ := established_clean_iff {} .none _ hsplit henters
  exact ⟨hsplit, henters, hclean, hafresh.2 (hunstranded.1 hclean)⟩

/-- A connection that is taken down step by step in the middle of a line, and then opened again, is
not clean. The first line that it hears has the bytes from before in front of it. -/
theorem established_not_clean :
    let opened : List (Instant × Operation) :=
      [(0, .create ⟨"10.0.0.1", 1⟩ ⟨"10.0.0.2", 2⟩ 5), (1, .establish ⟨1⟩),
        (2, .deliver ⟨1⟩ (Utf8.encode "ECHO par")), (3, .transition ⟨1⟩ .finWait1),
        (4, .transition ⟨1⟩ .timeWait), (5, .transition ⟨1⟩ .closed)]
    let m : Moment := ⟨((Registry.empty {} .none).run opened).2, 6, .establish ⟨1⟩⟩
    let first : Moment := ⟨m.after, 7, .deliver ⟨1⟩ (Utf8.encode "PING a\n")⟩
    m.Enters ⟨1⟩ ∧ ¬ m.after.HoldsClean ⟨1⟩ ∧
      first.dispatched ⟨1⟩ = [.echo "parPING a"] ∧
      first.repliesTo ⟨1⟩ = [Utf8.encode "ECHO_REPLY parPING a\n"] := by
  decide +kernel

end Period

end Switchboard
