import Switchboard.Proofs.Registry.Outcomes
import Switchboard.Proofs.Registry.Totals

/-!
# The ledger

A registry keeps no running totals. Its census counts the connections that are held anew and adds
the tally of those that have been removed. Main statement: after every history the census says what
a ledger says that is kept moment by moment (`census_eq_ledger`).

The ledger rests on the frames that are placed in outboxes. They are defined by what was asked for,
so it is also stated that they are exactly the frames that the outboxes gain (`pending_after`).
-/

namespace Switchboard

section Placing

variable {m : Moment} {id : ConnectionId} {c : Connection}

/-- An operation that neither sends nor delivers keeps an outbox or empties it. -/
theorem outbox_apply {op : Operation} (hsend : ∀ id text, op ≠ .send id text)
    (hdeliver : ∀ id chunk, op ≠ .deliver id chunk) (profile : Profile) (now : Instant)
    (c : Connection) :
    (op.apply profile now c).outbox = c.outbox ∨ (op.apply profile now c).outbox = Queue.empty := by
  have hkeeps : ∀ {p : Prop} [Decidable p] {done : Connection} {outcome : Bool × Connection},
      outcome = (if p then (true, done) else (false, c)) → done.outbox = c.outbox →
      outcome.2.outbox = c.outbox ∨ outcome.2.outbox = Queue.empty := fun houtcome hdone =>
    .inl (Connection.keeps_of_decided houtcome Connection.outbox hdone)
  cases op with
  | send id text => exact absurd rfl (hsend id text)
  | deliver id chunk => exact absurd rfl (hdeliver id chunk)
  | establish => exact hkeeps (Connection.drive_handshake now c) rfl
  | accept => exact hkeeps (Connection.drive_passiveOpen now c) rfl
  | listen => exact hkeeps (Connection.advance_eq now c .listen) rfl
  | transition _ target => exact hkeeps (Connection.advance_eq now c target) rfl
  | close =>
    exact hkeeps (Connection.closeAlong_teardown now c) (Connection.outbox_closedAlong now c _)
  | peerClose =>
    exact hkeeps (Connection.closeAlong_passiveClose now c) (Connection.outbox_closedAlong now c _)
  | reclaim instant threshold =>
    rw [Operation.apply]
    split
    · exact .inr rfl
    · exact .inl rfl
  | drainOutbound => exact .inr rfl
  | create | purge | drainInbound | state | block | contains | ids | size | census => exact .inl rfl

/-- Without sending and delivering no outbox gains anything. -/
theorem pending_of_quiet (h : m.before.IsSound) (hsend : ∀ id text, m.operation ≠ .send id text)
    (hdeliver : ∀ id chunk, m.operation ≠ .deliver id chunk) (id : ConnectionId) :
    m.after.pending id = m.before.pending id ∨ m.after.pending id = [] := by
  cases hafter : m.after.get? id with
  | none => exact .inr (by rw [Registry.pending, hafter])
  | some c =>
    rw [Registry.pending_of_get? hafter]
    rcases (Moment.get?_after_iff h).1 hafter with hborn | ⟨c₀, hget, -, rfl⟩
    · obtain ⟨localEnd, remoteEnd, isn, rfl⟩ := Registry.fresh_of_mem_born hborn
      exact .inr rfl
    · rw [Registry.pending_of_get? hget, Operation.effect]
      split
      · rcases outbox_apply hsend hdeliver m.before.profile m.now c₀ with hsame | hempty
        · exact .inl (by rw [hsame])
        · exact .inr (by rw [hempty, Queue.toList_empty])
      · exact .inl rfl

/-- Sending and delivering add to the outbox of the connection that they name what they place. -/
theorem pending_of_target (h : m.before.IsSound) (hop : m.operation.target? = some id)
    (hsends : (∃ text, m.operation = .send id text) ∨ ∃ chunk, m.operation = .deliver id chunk) :
    m.after.pending id = m.before.pending id ++ m.placed := by
  cases hget : m.before.get? id with
  | none =>
    have hafter : m.after.get? id = none := by
      rw [Moment.after, Registry.get?_target h m.now hop, hget, Option.map_none]
    rw [Registry.pending, hafter, Registry.pending, hget, (Moment.nothing_of_missing h hop hget).2.1]
    rfl
  | some c =>
    have hafter := Moment.get?_after h hop hget
    rw [Registry.pending_of_get? hafter, Registry.pending_of_get? hget]
    rcases hsends with ⟨text, hsend⟩ | ⟨chunk, hdeliver⟩
    · have hanswer : m.answer = .decided (.ok c.block.carriesData) :=
        Moment.answer_held _ hop hget (by rw [hsend]; rfl)
      have hplaced : m.placed = if c.block.carriesData = true then [encodeLine text] else [] := by
        simp only [Moment.placed, hsend, hanswer]
        cases c.block.carriesData <;> rfl
      rw [hplaced, hsend, Operation.apply]
      split
      · exact Connection.outbox_transmit c [encodeLine text] m.now
      · rw [List.append_nil]
    · have hplaced : m.placed = Message.answers m.before.profile.policy (m.dispatched id) := by
        simp only [Moment.placed, hdeliver]
      rw [hplaced, Moment.dispatched, Registry.waiting_of_get? hafter,
        Registry.waiting_of_get? hget, hdeliver, Operation.apply]
      cases hdata : c.block.carriesData with
      | true =>
        obtain ⟨block, hreceive, -⟩ :=
          Connection.receive_of_carriesData m.before.profile chunk m.now hdata
        simp [hreceive]
      | false =>
        rw [Connection.receive_of_not_carriesData _ _ _ hdata]
        simp [Message.answers]

/-- The frames that are placed are those that the outbox of the connection gains that an operation
names. Nothing else is gained, and what is lost is lost while nothing is placed. -/
theorem pending_after (h : m.before.IsSound) (id : ConnectionId) :
    m.after.pending id =
        m.before.pending id ++ (if m.operation.target? = some id then m.placed else []) ∨
      m.after.pending id = [] ∧ m.placed = [] := by
  have hnamed : ∀ named, m.operation.target? = some named →
      ((∃ text, m.operation = .send named text) ∨ ∃ chunk, m.operation = .deliver named chunk) →
      m.after.pending id =
        m.before.pending id ++ (if m.operation.target? = some id then m.placed else []) := by
    intro named hop hsends
    by_cases hid : id = named
    · subst hid
      rw [if_pos hop, pending_of_target h hop hsends]
    · have hsame : m.after.get? id = m.before.get? id := Registry.get?_other h m.now hop hid
      have hother : m.operation.target? ≠ some id := by
        rw [hop]
        exact fun heq => hid (Option.some.inj heq).symm
      rw [if_neg hother, List.append_nil, Registry.pending, hsame, Registry.pending]
  have hquiet : m.placed = [] →
      (m.after.pending id = m.before.pending id ∨ m.after.pending id = []) →
      m.after.pending id =
          m.before.pending id ++ (if m.operation.target? = some id then m.placed else []) ∨
        m.after.pending id = [] ∧ m.placed = [] := by
    rintro hplaced (hsame | hempty)
    · exact .inl (by rw [hplaced, ite_self, List.append_nil, hsame])
    · exact .inr ⟨hempty, hplaced⟩
  have hpending := pending_of_quiet h
  obtain ⟨r, now, op⟩ := m
  cases op with
  | send named text => exact .inl (hnamed named rfl (.inl ⟨text, rfl⟩))
  | deliver named chunk => exact .inl (hnamed named rfl (.inr ⟨chunk, rfl⟩))
  | _ => exact hquiet rfl (hpending (by simp) (by simp) id)

end Placing

section Held

variable {m : Moment}

/-- The number of connections that are held grows by those that are made and falls by those that are
removed. -/
theorem length_entries_after (h : m.before.IsSound) :
    m.after.entries.length + m.purged = m.before.entries.length + m.created := by
  have heffected := Registry.effected_perform h m.now m.operation
  have hlength := heffected.entries_perm.length_eq
  rw [List.length_append, List.length_map] at hlength
  change m.after.entries.length = _ at hlength
  by_cases hop : m.operation = .purge
  · have hpurged : m.purged = (m.before.entries.filter fun e => e.2.block.isFinished).length := by
      simp only [Moment.purged, Moment.answer, hop, Registry.perform, Registry.purge,
        Registry.connections_eq, List.filter_map, List.length_map]
      rfl
    have hsplit := List.length_eq_length_filter_add (l := m.before.entries)
      fun e => e.2.block.isFinished
    simp only [hop, Operation.born, Operation.removes, decide_true, Bool.true_and,
      List.length_nil] at hlength
    simp only [Moment.created, hop]
    omega
  · have hkept : (m.before.entries.filter fun e => !m.operation.removes e.2) = m.before.entries := by
      simp [Registry.removes_eq_false hop]
    have hpurged : m.purged = 0 := by
      obtain ⟨r, now, op⟩ := m
      cases op <;> first | rfl | exact absurd rfl hop
    have hcreated : (m.operation.born m.before m.now).length = m.created := by
      obtain ⟨r, now, op⟩ := m
      cases op <;> rfl
    rw [hkept, hcreated] at hlength
    omega

/-- The connections that have been made are held or have been removed. -/
theorem current_run (profile : Profile) (latency : Latency)
    (history : List (Instant × Operation)) :
    ((Registry.empty profile latency).run history).2.census.current +
        (((Registry.empty profile latency).moments history).map Moment.purged).sum =
      (((Registry.empty profile latency).moments history).map Moment.created).sum := by
  have hstep : ∀ (past : List Moment) (m : Moment), m.before.IsSound →
      m.before.entries.length + (past.map Moment.purged).sum = (past.map Moment.created).sum →
      m.after.entries.length + ((past ++ [m]).map Moment.purged).sum =
        ((past ++ [m]).map Moment.created).sum := by
    intro past m hsound hpast
    have hlength := length_entries_after hsound
    rw [List.map_append, List.map_append, List.sum_append_nat, List.sum_append_nat]
    simp only [List.map_cons, List.map_nil, List.sum_cons, List.sum_nil, Nat.add_zero]
    omega
  have hall := (Registry.history_induction (Registry.isSound_empty profile latency)
    (motive := fun past r =>
      r.entries.length + (past.map Moment.purged).sum = (past.map Moment.created).sum)
    (by rw [Registry.entries_empty]; rfl) hstep history).2
  have hcurrent : ∀ r : Registry, r.census.current = r.entries.length := by
    intro r
    rw [Registry.census, Census.take, Registry.connections_eq, List.length_map]
  rw [hcurrent, hall]

end Held

/-- Adding up the bytes of frames gives the bytes of all of them together. -/
theorem sum_map_flatten_length (moments : List Moment) (listed : Moment → List Bytes) :
    (moments.map fun m => (listed m).flatten.length).sum =
      (moments.flatMap listed).flatten.length := by
  induction moments with
  | nil => rfl
  | cons m rest ih =>
    rw [List.map_cons, List.sum_cons, ih, List.flatMap_cons, List.flatten_append,
      List.length_append]

/-- After every history the census says what the ledger of the history says. -/
theorem census_eq_ledger (profile : Profile) (latency : Latency)
    (history : List (Instant × Operation)) :
    let moments := (Registry.empty profile latency).moments history
    let answers := ((Registry.empty profile latency).run history).1
    let census := ((Registry.empty profile latency).run history).2.census
    moments.map Moment.answer = answers ∧
      census.total = (moments.map Moment.created).sum ∧
      census.current + (moments.map Moment.purged).sum = (moments.map Moment.created).sum ∧
      census.bytesReceived = (moments.flatMap Moment.received).flatten.length ∧
      census.packetsReceived = (moments.flatMap Moment.received).length ∧
      census.bytesSent = (moments.flatMap Moment.placed).flatten.length ∧
      census.packetsSent = (moments.flatMap Moment.placed).length ∧
      census.transitions = (moments.map Moment.steps).sum ∧
      census.closed = (moments.flatMap Moment.closed).toFinset.card ∧
      census.timedOut = (moments.flatMap Moment.forced).toFinset.card ∧
      ∀ m ∈ moments, ∀ id,
        m.after.pending id =
            m.before.pending id ++ (if m.operation.target? = some id then m.placed else []) ∨
          m.after.pending id = [] ∧ m.placed = [] := by
  intro moments answers census
  have htotal : ∀ f : Figure, f.ofCensus census = (moments.map f.ofMoment).sum := fun f =>
    (Registry.ofCensus_census _ f).trans (total_run profile latency history f)
  refine ⟨Registry.answers_moments _ history, htotal .connections,
    current_run profile latency history, ?_, ?_, ?_, ?_, htotal .transitions,
    marked_run profile latency history .closed, marked_run profile latency history .timedOut, ?_⟩
  · exact (htotal .bytesReceived).trans (sum_map_flatten_length moments Moment.received)
  · exact (htotal .packetsReceived).trans List.length_flatMap.symm
  · exact (htotal .bytesSent).trans (sum_map_flatten_length moments Moment.placed)
  · exact (htotal .packetsSent).trans List.length_flatMap.symm
  · intro m hmem id
    exact pending_after
      (Registry.isSound_moments (Registry.isSound_empty profile latency) history m hmem) id

end Switchboard
