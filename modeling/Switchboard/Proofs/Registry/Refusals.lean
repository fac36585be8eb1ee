import Switchboard.Proofs.Connection.Transfer
import Switchboard.Proofs.Registry.Moments

/-!
# Refusals

An operation that names a connection may be refused: the connection is not held, or its state does
not allow the operation. Openings and closings take several steps and nothing is undone if one of
them is forbidden; but the table forbids their first step wherever it forbids any, so they are taken
to their end or not begun.

Main statement: whether an operation is refused is decided by the state of the connection, and a
refused operation leaves the registry exactly as it was, with every connection, stamp, queue and
counter in it (`refused_unchanged`).
-/

namespace Switchboard

namespace Operation

/-- What an operation that may be refused answers about a connection in a state. -/
def verdict? (s : State) : Operation → Option Bool
  | establish _ => some (s = .closed)
  | listen _ => some (.listen ∈ s.successors)
  | accept _ => some (s = .listen ∨ s = .synSent)
  | transition _ target => some (target ∈ s.successors)
  | send _ _ | close _ | peerClose _ => some (s = .established)
  | create .. | deliver .. | reclaim .. | purge | drainOutbound _ | drainInbound _ | state _ | block _
  | contains _ | ids | size | census => none

/-- The states that an operation of several steps goes through. -/
def path? : Operation → Option (List State)
  | establish _ => some State.handshake
  | accept _ => some State.passiveOpen
  | close _ => some State.teardown
  | peerClose _ => some State.passiveClose
  | create .. | listen _ | transition .. | send .. | deliver .. | reclaim .. | purge | drainOutbound _
  | drainInbound _ | state _ | block _ | contains _ | ids | size | census => none

end Operation

/-- Whether the answer says that nothing was done: no such connection, or not in this state. -/
def Answer.isRefusal : Answer → Bool
  | .decided (.error _) | .decided (.ok false) | .frames (.error _) | .messages (.error _)
  | .state (.error _) | .block (.error _) => true
  | .created _ | .decided (.ok true) | .counted _ | .frames (.ok _) | .messages (.ok _)
  | .state (.ok _) | .block (.ok _) | .held _ | .ids _ | .census _ => false

/-- The table allows a step to the successors of a state. -/
theorem State.leadsTo_iff {s target : State} : s.leadsTo target = true ↔ target ∈ s.successors :=
  List.contains_iff_mem

/-- Data may flow in the established state. -/
theorem Block.carriesData_iff {b : Block} : b.carriesData = true ↔ b.state = .established := by
  rw [carriesData, State.carriesData, decide_eq_true_iff]

namespace Connection

variable {c done : Connection} {p : Prop} [Decidable p] {outcome : Bool × Connection}

/-- The flag says whether it was done. -/
theorem flag_of_decided (houtcome : outcome = if p then (true, done) else (false, c)) :
    outcome.1 = decide p := by
  rw [houtcome]
  split
  · next hp => exact (decide_eq_true hp).symm
  · next hp => exact (decide_eq_false hp).symm

/-- What is refused leaves the connection as it is. -/
theorem eq_of_refused (houtcome : outcome = if p then (true, done) else (false, c))
    (hp : decide p = false) : outcome.2 = c := by
  rw [houtcome, if_neg (of_decide_eq_false hp)]

end Connection

section Verdicts

variable {op : Operation} {c : Connection} (profile : Profile) (now : Instant)

/-- An operation that may be refused decides by the state of the connection. -/
theorem answerHeld?_of_verdict {answer : Bool} (h : op.verdict? c.state = some answer) :
    op.answerHeld? profile now c = some (.decided (.ok answer)) := by
  cases op with
  | establish id =>
    cases h
    rw [Operation.answerHeld?, Connection.flag_of_decided (c.drive_handshake now)]
  | accept id =>
    cases h
    rw [Operation.answerHeld?, Connection.flag_of_decided (c.drive_passiveOpen now)]
  | listen id =>
    cases h
    rw [Operation.answerHeld?, Connection.flag_of_decided (c.advance_eq now .listen)]
    simp only [State.leadsTo_iff]
  | transition id target =>
    cases h
    rw [Operation.answerHeld?, Connection.flag_of_decided (c.advance_eq now target)]
    simp only [State.leadsTo_iff]
  | send id text =>
    cases h
    rfl
  | close id =>
    cases h
    rw [Operation.answerHeld?, Connection.flag_of_decided (c.closeAlong_teardown now)]
  | peerClose id =>
    cases h
    rw [Operation.answerHeld?, Connection.flag_of_decided (c.closeAlong_passiveClose now)]
  | create | deliver | reclaim | purge | drainOutbound | drainInbound | state | block | contains
  | ids | size | census => cases h

/-- Where an operation is refused it makes nothing of the connection. -/
theorem apply_of_verdict (h : op.verdict? c.state = some false) : op.apply profile now c = c := by
  cases op with
  | establish id => exact Connection.eq_of_refused (c.drive_handshake now) (Option.some.inj h)
  | accept id => exact Connection.eq_of_refused (c.drive_passiveOpen now) (Option.some.inj h)
  | listen id =>
    refine Connection.eq_of_refused (c.advance_eq now .listen) ?_
    simpa only [State.leadsTo_iff] using Option.some.inj h
  | transition id target =>
    refine Connection.eq_of_refused (c.advance_eq now target) ?_
    simpa only [State.leadsTo_iff] using Option.some.inj h
  | send id text =>
    have hshut : ¬ c.block.carriesData = true :=
      fun hdata => of_decide_eq_false (Option.some.inj h) (Block.carriesData_iff.1 hdata)
    exact if_neg hshut
  | close id => exact Connection.eq_of_refused (c.closeAlong_teardown now) (Option.some.inj h)
  | peerClose id =>
    exact Connection.eq_of_refused (c.closeAlong_passiveClose now) (Option.some.inj h)
  | create | deliver | reclaim | purge | drainOutbound | drainInbound | state | block | contains
  | ids | size | census => cases h

/-- An operation of several steps may be refused. -/
theorem exists_verdict {path : List State} (hpath : op.path? = some path) (s : State) :
    ∃ answer, op.verdict? s = some answer := by
  cases op with
  | establish | accept | close | peerClose => exact ⟨_, rfl⟩
  | create | listen | transition | send | deliver | reclaim | purge | drainOutbound | drainInbound
  | state | block | contains | ids | size | census => cases hpath

/-- Where an operation of several steps is not refused it goes through all of them. -/
theorem walks_of_verdict {path : List State} (hpath : op.path? = some path)
    (h : op.verdict? c.state = some true) :
    path.getLast? = some (op.apply profile now c).state ∧
      (op.apply profile now c).block.transitions = c.block.transitions + path.length := by
  cases op with
  | establish id =>
    obtain rfl := Option.some.inj hpath
    rw [Operation.apply, c.drive_handshake now, if_pos (of_decide_eq_true (Option.some.inj h))]
    exact ⟨rfl, rfl⟩
  | accept id =>
    obtain rfl := Option.some.inj hpath
    rw [Operation.apply, c.drive_passiveOpen now, if_pos (of_decide_eq_true (Option.some.inj h))]
    exact ⟨rfl, rfl⟩
  | close id =>
    obtain rfl := Option.some.inj hpath
    rw [Operation.apply, c.closeAlong_teardown now, if_pos (of_decide_eq_true (Option.some.inj h))]
    exact ⟨rfl, rfl⟩
  | peerClose id =>
    obtain rfl := Option.some.inj hpath
    rw [Operation.apply, c.closeAlong_passiveClose now,
      if_pos (of_decide_eq_true (Option.some.inj h))]
    exact ⟨rfl, rfl⟩
  | create | listen | transition | send | deliver | reclaim | purge | drainOutbound | drainInbound
  | state | block | contains | ids | size | census => cases hpath

end Verdicts

namespace Registry

variable {r : Registry} {now : Instant} {op : Operation} {id : ConnectionId}

/-- An operation that makes nothing of the connection that it names leaves the registry as it is. -/
theorem perform_unchanged (now : Instant) (hop : op.target? = some id)
    (hsame : ∀ c, r.get? id = some c → op.apply r.profile now c = c) :
    (r.perform now op).2 = r := by
  rw [perform_eq_act now hop]
  exact act_eq_self hsame

/-- An operation that names a connection which is not held leaves the registry as it is. -/
theorem perform_unchanged_of_missing (now : Instant) (hop : op.target? = some id)
    (hget : r.get? id = none) : (r.perform now op).2 = r := by
  refine perform_unchanged now hop fun c hheld => ?_
  rw [hget] at hheld
  cases hheld

/-- About a connection that is held, an operation that may be refused answers what the state of the
connection says. -/
theorem answer_of_verdict (now : Instant) {c : Connection} {answer : Bool}
    (hop : op.target? = some id) (hget : r.get? id = some c) (h : op.verdict? c.state = some answer) :
    (r.perform now op).1 = .decided (.ok answer) := by
  have hanswer := perform_held now hop hget
  rw [answerHeld?_of_verdict r.profile now h] at hanswer
  exact (Option.some.inj hanswer).symm

/-- What can be refused about a connection that is held is refused by its state. -/
theorem verdict_of_isRefusal {c : Connection} (hop : op.target? = some id)
    (hget : r.get? id = some c) (hrefusal : (r.perform now op).1.isRefusal = true) :
    op.verdict? c.state = some false := by
  cases hverdict : op.verdict? c.state with
  | some answer =>
    rw [answer_of_verdict now hop hget hverdict] at hrefusal
    cases answer with
    | false => rfl
    | true => cases hrefusal
  | none =>
    have hanswer := perform_held now hop hget
    cases op with
    | establish | listen | accept | transition | send | close | peerClose => cases hverdict
    | create | reclaim | purge | ids | size | census => cases hop
    | deliver | drainOutbound | drainInbound | state | block | contains =>
      rw [← Option.some.inj hanswer] at hrefusal
      cases hrefusal

/-- A refused operation leaves the registry as it is. -/
theorem perform_unchanged_of_isRefusal (hrefusal : (r.perform now op).1.isRefusal = true) :
    (r.perform now op).2 = r := by
  cases hop : op.target? with
  | none =>
    cases op with
    | create | reclaim | purge | ids | size | census => cases hrefusal
    | _ => cases hop
  | some id =>
    refine perform_unchanged now hop fun c hget => ?_
    exact apply_of_verdict r.profile now (verdict_of_isRefusal hop hget hrefusal)

/-- A delivery to a connection that is not held, or through which no data may flow, is not heard and
leaves the registry as it is. -/
theorem deliver_unheard (chunk : Bytes) (hshut : r.state id ≠ .ok .established) :
    (r.perform now (.deliver id chunk)).1 = .counted 0 ∧
      (r.perform now (.deliver id chunk)).2 = r := by
  have hop : (Operation.deliver id chunk).target? = some id := rfl
  cases hget : r.get? id with
  | none =>
    exact ⟨(Option.some.inj (perform_missing now hop hget)).symm,
      perform_unchanged_of_missing now hop hget⟩
  | some c =>
    have hstate : r.state id = .ok c.state := state_of_get? hget
    have hdata : c.block.carriesData = false := by
      rw [Bool.eq_false_iff, ne_eq, Block.carriesData_iff]
      intro hopen
      exact hshut (hstate.trans (congrArg Except.ok hopen))
    have hreceive := Connection.receive_of_not_carriesData r.profile chunk now hdata
    constructor
    · have hanswer := perform_held now hop hget
      rw [Operation.answerHeld?, hreceive] at hanswer
      exact (Option.some.inj hanswer).symm
    · refine perform_unchanged now hop fun c' hget' => ?_
      obtain rfl := Option.some.inj (hget.symm.trans hget')
      rw [Operation.apply, hreceive]

/-- An operation of several steps takes all of them, or is refused and leaves the registry as it
is. -/
theorem walked_or_refused (now : Instant) (hop : op.target? = some id) {path : List State}
    (hpath : op.path? = some path) :
    (r.perform now op).1.isRefusal = true ∧ (r.perform now op).2 = r ∨
      (r.perform now op).1 = .decided (.ok true) ∧ ∃ c after, r.get? id = some c ∧
        (r.perform now op).2.get? id = some after ∧ path.getLast? = some after.state ∧
          after.block.transitions = c.block.transitions + path.length := by
  cases hget : r.get? id with
  | none =>
    have hanswer := perform_missing now hop hget
    have hrefusal : (r.perform now op).1.isRefusal = true := by
      cases op with
      | establish | accept | close | peerClose => rw [← Option.some.inj hanswer]; rfl
      | create | listen | transition | send | deliver | reclaim | purge | drainOutbound
      | drainInbound | state | block | contains | ids | size | census => cases hpath
    exact .inl ⟨hrefusal, perform_unchanged_of_isRefusal hrefusal⟩
  | some c =>
    obtain ⟨answer, hverdict⟩ := exists_verdict hpath c.state
    have hanswer := answer_of_verdict now hop hget hverdict
    cases answer with
    | false =>
      have hrefusal : (r.perform now op).1.isRefusal = true := by rw [hanswer]; rfl
      exact .inl ⟨hrefusal, perform_unchanged_of_isRefusal hrefusal⟩
    | true =>
      have hafter : (r.perform now op).2.get? id = some (op.apply r.profile now c) := by
        rw [perform_eq_act now hop, get?_act, if_pos rfl, hget, Option.map_some]
      exact .inr ⟨hanswer, c, _, rfl, hafter, walks_of_verdict r.profile now hpath hverdict⟩

end Registry

/-- An operation that names a connection answers `notFound` if it is not held, and a delivery that
nothing was dispatched. About a connection that is held, an active opening succeeds exactly if it is
closed, a passive opening if it waits for one, closing and sending if it is established, and a single
step if the table allows it. What is refused, and a delivery to a connection that is not established,
leaves the whole registry as it was. An operation of several steps takes all of them or none; other
connections are as they were in any case. -/
theorem refused_unchanged (r : Registry) (now : Instant) {op : Operation} {id : ConnectionId}
    (hop : op.target? = some id) :
    (r.get? id = none → op.answerMissing? = some (r.perform now op).1 ∧
      (r.perform now op).2 = r) ∧
    (∀ c answer, r.get? id = some c → op.verdict? c.state = some answer →
      (r.perform now op).1 = .decided (.ok answer)) ∧
    ((r.perform now op).1.isRefusal = true → (r.perform now op).2 = r) ∧
    (∀ chunk, op = .deliver id chunk → r.state id ≠ .ok .established →
      (r.perform now op).1 = .counted 0 ∧ (r.perform now op).2 = r) ∧
    (∀ path, op.path? = some path →
      (r.perform now op).1.isRefusal = true ∧ (r.perform now op).2 = r ∨
      (r.perform now op).1 = .decided (.ok true) ∧ ∃ c after, r.get? id = some c ∧
        (r.perform now op).2.get? id = some after ∧ path.getLast? = some after.state ∧
        after.block.transitions = c.block.transitions + path.length) ∧
    ∀ key ≠ id, (r.perform now op).2.get? key = r.get? key := by
  refine ⟨fun hget => ⟨Registry.perform_missing now hop hget,
    Registry.perform_unchanged_of_missing now hop hget⟩,
    fun c answer hget hverdict => Registry.answer_of_verdict now hop hget hverdict,
    Registry.perform_unchanged_of_isRefusal, ?_,
    fun path => Registry.walked_or_refused now hop, ?_⟩
  · rintro chunk rfl hshut
    exact Registry.deliver_unheard chunk hshut
  · intro key hkey
    rw [Registry.perform_eq_act now hop, Registry.get?_act, if_neg hkey]

/-- A connection that listens is neither opened actively nor closed in order, and hears nothing; it
is opened passively, to the end. An unknown one is not found. -/
theorem refused_unchanged_listening :
    let r := ((Registry.empty {} .none).run
      [(0, .create ⟨"10.0.0.1", 1⟩ ⟨"10.0.0.2", 2⟩ 5), (1, .listen ⟨1⟩)]).2
    (r.perform 2 (.establish ⟨1⟩)).2 = r ∧ (r.perform 2 (.close ⟨1⟩)).2 = r ∧
      (r.perform 2 (.deliver ⟨1⟩ [10])).2 = r ∧
      (r.perform 2 (.send ⟨7⟩ "PING")).1 = .decided (.error (.notFound ⟨7⟩)) ∧
      (r.perform 2 (.accept ⟨1⟩)).1 = .decided (.ok true) ∧
      ∃ c after, r.get? ⟨1⟩ = some c ∧ (r.perform 2 (.accept ⟨1⟩)).2.get? ⟨1⟩ = some after ∧
        State.passiveOpen.getLast? = some after.state ∧
        after.block.transitions = c.block.transitions + 2 := by
  intro r
  have hheld : (r.get? ⟨1⟩).isSome = true := by decide +kernel
  obtain ⟨c, hget⟩ := Option.isSome_iff_exists.1 hheld
  have hlistens : ∀ c ∈ r.get? ⟨1⟩, c.state = .listen := by decide +kernel
  have hstate : c.state = .listen := hlistens c hget
  have hshut : r.state ⟨1⟩ ≠ .ok .established := by
    rw [Registry.state_of_get? hget, hstate]
    decide
  have hestablish := refused_unchanged r 2 (rfl : (Operation.establish ⟨1⟩).target? = some ⟨1⟩)
  have hclose := refused_unchanged r 2 (rfl : (Operation.close ⟨1⟩).target? = some ⟨1⟩)
  have hdeliver := refused_unchanged r 2 (rfl : (Operation.deliver ⟨1⟩ [10]).target? = some ⟨1⟩)
  have hsend := refused_unchanged r 2 (rfl : (Operation.send ⟨7⟩ "PING").target? = some ⟨7⟩)
  obtain ⟨-, haccepts, -, -, hwalks, -⟩ :=
    refused_unchanged r 2 (rfl : (Operation.accept ⟨1⟩).target? = some ⟨1⟩)
  refine ⟨hestablish.2.2.1 (by decide +kernel), hclose.2.2.1 (by decide +kernel),
    (hdeliver.2.2.2.1 [10] rfl hshut).2,
    (Option.some.inj (hsend.1 (by decide +kernel)).1).symm,
    haccepts c true hget (by rw [hstate]; rfl), ?_⟩
  obtain ⟨hrefusal, -⟩ | ⟨-, hwalked⟩ := hwalks State.passiveOpen rfl
  · rw [haccepts c true hget (by rw [hstate]; rfl)] at hrefusal
    cases hrefusal
  · exact hwalked

end Switchboard
