import Switchboard.Proofs.Lifecycle.Walks
import Switchboard.Proofs.Connection.Transfer
import Switchboard.Proofs.Registry.Moments

/-!
# Accounts

What can be written down about one connection in one moment: which strides it has taken, whether it
has been closed in order, and what has been put into its queues, collected from them, and thrown away
with them. An account is made from the answer of the operation and from the registry before it.

Main statements: an operation makes one of eight passages of a connection, each with its account
(`Moment.passage`), and what holds of every new connection and is kept by the eight passages holds of
every connection that is held, at any time (`Registry.life_induction`).
-/

namespace Switchboard

/-- What happens to a queue in a moment. -/
structure Flow (α : Type) where
  /-- What is put into it. -/
  added : List α := []
  /-- What is collected from it. -/
  collected : List α := []
  /-- What is thrown away with it. -/
  lost : List α := []

/-- What happens to a connection in a moment. -/
structure Account where
  /-- The changes of its state. -/
  strides : List Stride := []
  /-- Whether it is closed in order. -/
  closed : Bool := false
  /-- The frames in its outbox. -/
  outgoing : Flow Bytes := {}
  /-- The messages in its inbox. -/
  incoming : Flow Message := {}

namespace Registry

/-- The messages that bytes complete when they are delivered to a connection. -/
def hears (r : Registry) (id : ConnectionId) (chunk : Bytes) : List Message :=
  match r.get? id with
  | some c => if c.state = .established then (c.receiver.feed r.profile.frameLimit chunk).1 else []
  | none => []

end Registry

namespace Moment

/-- What is written down about a connection that the operation reaches. Closing in order throws away
the messages that nobody has collected, forced closing the frames as well. -/
def accountReached (m : Moment) (id : ConnectionId) : Account :=
  match m.operation, m.answer with
  | .establish _, .decided (.ok true) => { strides := State.handshake.map .step }
  | .listen _, .decided (.ok true) => { strides := [.step .listen] }
  | .accept _, .decided (.ok true) => { strides := State.passiveOpen.map .step }
  | .transition _ target, .decided (.ok true) => { strides := [.step target] }
  | .send _ text, .decided (.ok true) => { outgoing := { added := [encodeLine text] } }
  | .deliver _ chunk, _ =>
    { outgoing :=
        { added := Message.answers m.before.profile.policy (m.before.hears id chunk) }
      incoming := { added := m.before.hears id chunk } }
  | .close _, .decided (.ok true) =>
    { strides := State.teardown.map .step
      closed := true
      incoming := { lost := m.before.waiting id } }
  | .peerClose _, .decided (.ok true) =>
    { strides := State.passiveClose.map .step
      closed := true
      incoming := { lost := m.before.waiting id } }
  | .reclaim _ _, _ =>
    if id ∈ m.forced then
      { strides := [.forced]
        outgoing := { lost := m.before.pending id }
        incoming := { lost := m.before.waiting id } }
    else {}
  | .drainOutbound _, .frames (.ok frames) => { outgoing := { collected := frames } }
  | .drainInbound _, .messages (.ok messages) => { incoming := { collected := messages } }
  | _, _ => {}

/-- What is written down about a connection. -/
def account (m : Moment) (id : ConnectionId) : Account :=
  if m.operation.reaches id then m.accountReached id else {}

/-- What an operation makes of a connection, and what is written down about it. -/
inductive Passage (m : Moment) (id : ConnectionId) (c : Connection) : Connection → Prop
  /-- Nothing happens to it. -/
  | still (h : m.account id = {}) : Passage m id c c
  /-- It takes steps that the table allows. -/
  | entered (path : List State) (hwalk : c.state.walkable path = path)
      (h : m.account id = { strides := path.map .step }) : Passage m id c (c.enterAll m.now path)
  /-- It is closed in order. -/
  | closed (path : List State) (hopen : c.state = .established)
      (hwalk : c.state.walkable path = path)
      (h : m.account id =
        { strides := path.map .step, closed := true, incoming := { lost := c.inbox.toList } }) :
      Passage m id c (c.closedAlong m.now path)
  /-- It is forced closed. -/
  | forced (hopen : c.state ≠ .closed)
      (hpass : ∃ instant threshold, m.operation = .reclaim instant threshold)
      (h : m.account id =
        { strides := [.forced]
          outgoing := { lost := c.outbox.toList }
          incoming := { lost := c.inbox.toList } }) : Passage m id c (c.forced m.now)
  /-- It sends a line. -/
  | sent (text : String) (hopen : c.state = .established)
      (h : m.account id = { outgoing := { added := [encodeLine text] } }) :
      Passage m id c (c.transmit [encodeLine text] m.now)
  /-- It receives bytes. -/
  | received (chunk : Bytes) (messages : List Message) (hopen : c.state = .established)
      (hheard : (c.receiver.feed m.before.profile.frameLimit chunk).1 = messages)
      (h : m.account id =
        { outgoing := { added := Message.answers m.before.profile.policy messages }
          incoming := { added := messages } }) :
      Passage m id c (c.receive m.before.profile chunk m.now).2
  /-- Its frames are collected. -/
  | framesCollected (h : m.account id = { outgoing := { collected := c.outbox.toList } }) :
      Passage m id c { c with outbox := Queue.empty }
  /-- Its messages are collected. -/
  | messagesCollected (h : m.account id = { incoming := { collected := c.inbox.toList } }) :
      Passage m id c { c with inbox := Queue.empty }

end Moment

section Reading

variable {m : Moment} {id : ConnectionId} {c c' : Connection}

namespace Moment

/-- The account of a connection that the operation names. -/
theorem account_of_target (hop : m.operation.target? = some id) :
    m.account id = m.accountReached id := by
  simp [account, Operation.reaches, hop]

/-- What is written down as closed has been closed by an operation that was not refused. -/
theorem answer_of_closed (hclosed : (m.accountReached id).closed = true) :
    (∃ target, m.operation = .close target ∨ m.operation = .peerClose target) ∧
      m.answer = .decided (.ok true) := by
  rw [accountReached] at hclosed
  split at hclosed
  case h_7 target hop hanswer => exact ⟨⟨target, .inl hop⟩, hanswer⟩
  case h_8 target hop hanswer => exact ⟨⟨target, .inr hop⟩, hanswer⟩
  case h_9 => split at hclosed <;> cases hclosed
  all_goals cases hclosed

/-- A connection is closed in order where it is closed from this side or after the peer, and that is
not refused. -/
theorem closed_account_iff : (m.account id).closed = true ↔
    (m.operation = .close id ∨ m.operation = .peerClose id) ∧
      m.answer = .decided (.ok true) := by
  constructor
  · intro hclosed
    rw [account] at hclosed
    split at hclosed
    · next hreached =>
      obtain ⟨⟨target, hop⟩, hanswer⟩ := answer_of_closed hclosed
      have hid : target = id := by
        rcases hop with hop | hop <;>
          simpa [Operation.reaches, Operation.target?, hop] using hreached
      exact ⟨hid ▸ hop, hanswer⟩
    · cases hclosed
  · rintro ⟨hop | hop, hanswer⟩ <;>
      rw [account_of_target (by rw [hop]; rfl), accountReached, hop, hanswer]

/-- Connections are forced closed by a pass over them. -/
theorem reclaim_of_mem_forced (hforced : id ∈ m.forced) :
    ∃ instant threshold, m.operation = .reclaim instant threshold := by
  rw [forced] at hforced
  split at hforced
  · next instant threshold hop => exact ⟨instant, threshold, hop⟩
  · cases hforced

/-- What is thrown away is what nobody has collected at that moment: both queues in a forced closing,
the inbox in a closing in order. -/
theorem lost_accountReached :
    (m.accountReached id).outgoing.lost = (if id ∈ m.forced then m.before.pending id else []) ∧
      (m.accountReached id).incoming.lost =
        if id ∈ m.forced ∨ (m.accountReached id).closed = true then m.before.waiting id
        else [] := by
  by_cases hforced : id ∈ m.forced
  · obtain ⟨instant, threshold, hop⟩ := reclaim_of_mem_forced hforced
    have hreached : m.accountReached id =
        { strides := [.forced]
          outgoing := { lost := m.before.pending id }
          incoming := { lost := m.before.waiting id } } := by
      rw [accountReached, hop]
      exact if_pos hforced
    simp [hreached, hforced]
  · rw [accountReached]
    split <;> simp [hforced]

/-- What is thrown away is what nobody has collected at that moment. -/
theorem lost_account :
    (m.account id).outgoing.lost = (if id ∈ m.forced then m.before.pending id else []) ∧
      (m.account id).incoming.lost =
        if id ∈ m.forced ∨ (m.account id).closed = true then m.before.waiting id else [] := by
  rw [account]
  split
  · exact lost_accountReached
  · next hother =>
    have hforced : id ∉ m.forced := by
      intro hmem
      obtain ⟨instant, threshold, hop⟩ := reclaim_of_mem_forced hmem
      exact hother (by rw [hop]; rfl)
    simp [hforced]

/-- A delivery answers how many messages are dispatched. -/
theorem answer_deliver {chunk : Bytes} (hop : m.operation = .deliver id chunk) :
    m.answer = .counted (m.account id).incoming.added.length := by
  have hadded : (m.account id).incoming.added = m.before.hears id chunk := by
    rw [account_of_target (by rw [hop]; rfl), accountReached, hop]
  rw [hadded, Registry.hears]
  cases hget : m.before.get? id with
  | none => exact answer_missing _ (by rw [hop]; rfl) hget (by rw [hop]; rfl)
  | some c =>
    refine answer_held _ (by rw [hop]; rfl) hget ?_
    have hdispatched : (c.receive m.before.profile chunk m.now).1 =
        (if c.state = .established then (c.receiver.feed m.before.profile.frameLimit chunk).1
          else []).length := by
      split
      · next hopen =>
        obtain ⟨block, hreceive, -⟩ := Connection.receive_of_carriesData m.before.profile chunk
          m.now (decide_eq_true hopen : c.block.carriesData = true)
        rw [hreceive]
      · next hshut =>
        rw [Connection.receive_of_not_carriesData _ _ _ (decide_eq_false hshut)]
        rfl
    rw [hop, Operation.answerHeld?, hdispatched]

/-- Nothing is written down about a connection that is not held. -/
theorem account_of_missing (h : m.before.IsSound) (hget : m.before.get? id = none) :
    m.account id = {} := by
  cases hop : m.operation.target? with
  | some named =>
    by_cases hid : named = id
    · subst hid
      rw [account_of_target hop]
      obtain ⟨r, now, op⟩ := m
      have hhears : ∀ chunk, r.hears named chunk = [] := fun chunk => by rw [Registry.hears, hget]
      cases op with
      | create | reclaim | purge | ids | size | census => cases hop
      | deliver _ chunk =>
        cases hop
        simp only [accountReached, hhears]
        rfl
      | _ =>
        cases hop
        simp only [accountReached, answer_missing _ rfl hget rfl]
    · rw [account, if_neg]
      simpa [Operation.reaches, hop] using hid
  | none =>
    obtain ⟨r, now, op⟩ := m
    cases op with
    | reclaim instant threshold =>
      have hforced : id ∉ forced ⟨r, now, .reclaim instant threshold⟩ := by
        intro hmem
        obtain ⟨c, hheld⟩ := (Registry.mem_ids h).1 (List.mem_filter.1 hmem).1
        rw [hget] at hheld
        cases hheld
      exact if_neg hforced
    | create | purge | ids | size | census => rfl
    | _ => cases hop

/-- What is done or refused is a passage if what is done is one. -/
theorem Passage.of_decided {p : Prop} [Decidable p] {done : Connection}
    {outcome : Bool × Connection} (houtcome : outcome = if p then (true, done) else (false, c))
    (hanswer : m.answer = .decided (.ok outcome.1))
    (hdone : p → m.answer = .decided (.ok true) → m.Passage id c done)
    (hrefused : m.answer = .decided (.ok false) → m.account id = {}) :
    m.Passage id c outcome.2 := by
  rw [houtcome] at hanswer ⊢
  by_cases hp : p
  · rw [if_pos hp] at hanswer ⊢
    exact hdone hp hanswer
  · rw [if_neg hp] at hanswer ⊢
    exact .still (hrefused hanswer)

/-- Taking all steps of a path, or none, is a passage. -/
theorem Passage.of_entering {p : Prop} [Decidable p] {path : List State}
    {outcome : Bool × Connection}
    (houtcome : outcome = if p then (true, c.enterAll m.now path) else (false, c))
    (hwalk : p → c.state.walkable path = path) (hanswer : m.answer = .decided (.ok outcome.1))
    (hdone : m.answer = .decided (.ok true) → m.account id = { strides := path.map .step })
    (hrefused : m.answer = .decided (.ok false) → m.account id = {}) :
    m.Passage id c outcome.2 :=
  .of_decided houtcome hanswer (fun hp hanswer => .entered path (hwalk hp) (hdone hanswer))
    hrefused

/-- Closing in order along a path, or not closing, is a passage. -/
theorem Passage.of_closing {path : List State} {outcome : Bool × Connection}
    (houtcome : outcome =
      if c.state = .established then (true, c.closedAlong m.now path) else (false, c))
    (hwalk : State.established.walkable path = path)
    (hanswer : m.answer = .decided (.ok outcome.1))
    (hdone : m.answer = .decided (.ok true) → m.account id =
      { strides := path.map .step, closed := true, incoming := { lost := c.inbox.toList } })
    (hrefused : m.answer = .decided (.ok false) → m.account id = {}) :
    m.Passage id c outcome.2 :=
  .of_decided houtcome hanswer
    (fun hopen hanswer => .closed path hopen (hopen ▸ hwalk) (hdone hanswer)) hrefused

/-- What an operation that names a connection makes of it. -/
theorem passage_apply (hop : m.operation.target? = some id) (hget : m.before.get? id = some c) :
    m.Passage id c (m.operation.apply m.before.profile m.now c) := by
  have haccount := account_of_target hop
  have hwaiting := Registry.waiting_of_get? hget
  obtain ⟨r, now, op⟩ := m
  cases op with
  | create | reclaim | purge | ids | size | census => cases hop
  | establish =>
    refine .of_entering (Connection.drive_handshake now c)
      (fun h => (State.walkable_handshake _).trans (if_pos h)) (answer_held _ hop hget rfl) ?_ ?_
    all_goals intro hanswer; rw [haccount, accountReached, hanswer]
  | accept =>
    refine .of_entering (Connection.drive_passiveOpen now c)
      (fun h => (State.walkable_passiveOpen _).trans (if_pos h)) (answer_held _ hop hget rfl) ?_ ?_
    all_goals intro hanswer; rw [haccount, accountReached, hanswer]
  | listen =>
    refine .of_entering (Connection.advance_eq now c .listen) State.walkable_singleton
      (answer_held _ hop hget rfl) ?_ ?_
    · intro hanswer; rw [haccount, accountReached, hanswer]; rfl
    · intro hanswer; rw [haccount, accountReached, hanswer]
  | transition _ target =>
    refine .of_entering (Connection.advance_eq now c target) State.walkable_singleton
      (answer_held _ hop hget rfl) ?_ ?_
    · intro hanswer; rw [haccount, accountReached, hanswer]; rfl
    · intro hanswer; rw [haccount, accountReached, hanswer]
  | close =>
    refine .of_closing (Connection.closeAlong_teardown now c) rfl (answer_held _ hop hget rfl) ?_ ?_
    all_goals intro hanswer; rw [haccount, accountReached, hanswer]
    rw [← hwaiting]
  | peerClose =>
    refine .of_closing (Connection.closeAlong_passiveClose now c) rfl (answer_held _ hop hget rfl)
      ?_ ?_
    all_goals intro hanswer; rw [haccount, accountReached, hanswer]
    rw [← hwaiting]
  | send _ text =>
    have hanswer := answer_held _ hop hget rfl
    rw [Operation.apply]
    cases hdata : c.block.carriesData with
    | true =>
      rw [hdata] at hanswer
      refine .sent text (of_decide_eq_true hdata) ?_
      rw [haccount, accountReached, hanswer]
    | false =>
      rw [hdata] at hanswer
      exact .still (by rw [haccount, accountReached, hanswer])
  | deliver named chunk =>
    have hhears : r.hears id chunk =
        if c.state = .established then (c.receiver.feed r.profile.frameLimit chunk).1 else [] := by
      rw [Registry.hears, hget]
    have hadded : accountReached ⟨r, now, .deliver named chunk⟩ id =
        { outgoing := { added := Message.answers r.profile.policy (r.hears id chunk) }
          incoming := { added := r.hears id chunk } } := rfl
    rw [hadded, hhears] at haccount
    by_cases hopen : c.state = .established
    · rw [if_pos hopen] at haccount
      exact .received chunk _ hopen rfl haccount
    · have hdata : c.block.carriesData = false := decide_eq_false hopen
      rw [if_neg hopen] at haccount
      rw [Operation.apply, Connection.receive_of_not_carriesData _ _ _ hdata]
      exact .still haccount
  | drainOutbound =>
    have hanswer := answer_held _ hop hget rfl
    exact .framesCollected (by rw [haccount, accountReached, hanswer])
  | drainInbound =>
    have hanswer := answer_held _ hop hget rfl
    exact .messagesCollected (by rw [haccount, accountReached, hanswer])
  | state | block | contains => exact .still haccount

/-- What has become of a connection that is held before and after an operation. -/
theorem eq_effect (h : m.before.IsSound) (hget : m.before.get? id = some c)
    (hafter : m.after.get? id = some c') :
    m.operation.effect m.before.profile m.now id c = c' := by
  rcases (get?_after_iff h).1 hafter with hborn | ⟨c₀, hheld, -, heffect⟩
  · exact absurd hborn (Registry.not_mem_born (h.known id c hget))
  · rwa [Option.some.inj (hget.symm.trans hheld)]

/-- Nothing is written down about a connection that the operation does not name, unless it is a pass
over the connections. -/
theorem account_of_untouched (hother : m.operation.target? ≠ some id)
    (hpass : ∀ instant threshold, m.operation ≠ .reclaim instant threshold) : m.account id = {} := by
  rw [account]
  split
  · next hreached =>
    obtain ⟨r, now, op⟩ := m
    cases op with
    | reclaim instant threshold => exact absurd rfl (hpass instant threshold)
    | create | purge | ids | size | census => rfl
    | _ => exact absurd (congrArg some (of_decide_eq_true hreached)) hother
  · rfl

/-- An operation makes one of eight passages of a connection that is held before and after it. -/
theorem passage (h : m.before.IsSound) (hget : m.before.get? id = some c)
    (hafter : m.after.get? id = some c') : m.Passage id c c' := by
  obtain rfl := eq_effect h hget hafter
  rcases Registry.effect_cases m.operation m.before.profile m.now id c with
    ⟨hop, heffect⟩ | ⟨instant, threshold, hop, heffect⟩ | ⟨hother, hpass, heffect⟩
  · rw [heffect]
    exact passage_apply hop hget
  · have hforced := mem_forced h hop hget
    have haccount : m.account id = if id ∈ m.forced then
        { strides := [.forced]
          outgoing := { lost := m.before.pending id }
          incoming := { lost := m.before.waiting id } } else {} := by
      rw [account, if_pos (by rw [hop]; rfl), accountReached, hop]
    rw [Registry.pending_of_get? hget, Registry.waiting_of_get? hget] at haccount
    rw [heffect]
    split
    · next hstale =>
      exact .forced (Connection.open_of_isStale hstale) ⟨instant, threshold, hop⟩
        (haccount.trans (if_pos (hforced.2 hstale)))
    · next hstale => exact .still (haccount.trans (if_neg fun hmem => hstale (hforced.1 hmem)))
  · rw [heffect]
    exact .still (account_of_untouched hother hpass)

end Moment

end Reading

namespace Registry

/-- What holds of every connection that has just been made, and is kept by every passage, holds of
every connection that a history leaves. Before a connection is made nothing is written down about
it. -/
theorem life_induction {profile : Profile} {latency : Latency} {id : ConnectionId}
    {motive : List Account → Connection → Prop}
    (begin : ∀ blank localEnd remoteEnd isn now, (∀ a ∈ blank, a = {}) →
      motive blank (Connection.fresh profile id localEnd remoteEnd isn now))
    (step : ∀ past (m : Moment) c c', m.before.profile = profile → m.Passage id c c' →
      motive past c → motive (past ++ [m.account id]) c')
    (history : List (Instant × Operation)) {c : Connection}
    (hget : ((empty profile latency).run history).2.get? id = some c) :
    motive (((empty profile latency).moments history).map fun m => m.account id) c := by
  refine (history_induction (isSound_empty profile latency)
    (motive := fun past current => current.profile = profile ∧
      (∀ c, current.get? id = some c → motive (past.map fun m => m.account id) c) ∧
      (current.lastId < id.raw → ∀ m ∈ past, m.account id = {})) ?_ ?_ history).2.2.1 c hget
  · refine ⟨rfl, ?_, by simp⟩
    intro c hget
    rw [get?_empty] at hget
    cases hget
  · rintro past m hsound ⟨hprofile, hheld, hblank⟩
    have hunborn : m.before.lastId < id.raw → m.account id = {} := by
      intro hlast
      refine Moment.account_of_missing hsound (Option.eq_none_iff_forall_ne_some.2 ?_)
      intro c hget
      exact absurd (hsound.known id c hget) (Nat.not_le.2 hlast)
    refine ⟨(profile_perform hsound m.now m.operation).trans hprofile, ?_, ?_⟩
    · intro c hafter
      rw [List.map_append]
      rcases (Moment.get?_after_iff hsound).1 hafter with hborn | ⟨c₀, hget, -, -⟩
      · have hlast : m.before.lastId < id.raw := by
          rw [(raw_of_mem_born hborn).1]
          exact Nat.lt_succ_self _
        obtain ⟨localEnd, remoteEnd, isn, rfl⟩ := fresh_of_mem_born hborn
        rw [hprofile]
        apply begin
        intro a ha
        rcases List.mem_append.1 ha with hold | hnew
        · obtain ⟨m', hm', rfl⟩ := List.mem_map.1 hold
          exact hblank hlast m' hm'
        · rw [List.mem_singleton.1 hnew]
          exact hunborn hlast
      · exact step _ m c₀ c hprofile (Moment.passage hsound hget hafter) (hheld c₀ hget)
    · intro hlast m' hmem
      have hbefore := Nat.lt_of_le_of_lt (lastId_le_perform hsound m.now m.operation) hlast
      rcases List.mem_append.1 hmem with hold | hnew
      · exact hblank hbefore m' hold
      · rw [List.mem_singleton.1 hnew]
        exact hunborn hbefore

end Registry

end Switchboard
