import Switchboard.Proofs.Session.Scripts

/-!
# How sessions end

Main statement: however others act in between, as long as they carry no data for the connection and
do not open it again, a session that is done has not left its connection open, and has not undone
what a pass over the registry has decided about it; what it has written begins the answers to what
was delivered while the connection was established (`session_ends_shut`).

Which operations can be let loose in a script without looking at the registry is decided by what
they are (`Operation.isHarmless`).
-/

namespace Switchboard

/-- Whether an operation neither carries data for a connection nor opens it once it is closed. -/
def Operation.isHarmless (id : ConnectionId) (op : Operation) : Bool :=
  op.isDataless id && match op with
    | establish named | listen named => named ≠ id
    | transition named target => named ≠ id || !State.closed.leadsTo target
    | _ => true

section Harmless

variable {op : Operation} {id : ConnectionId} {now : Instant}

/-- A harmless operation carries no data. -/
theorem Operation.isDataless_of_isHarmless (h : op.isHarmless id = true) :
    op.isDataless id = true :=
  (Bool.and_eq_true_iff.1 h).1

/-- A harmless operation leaves a closed connection closed. -/
theorem Operation.state_apply_of_isHarmless (h : op.isHarmless id = true)
    (hreached : op.reaches id = true) (profile : Profile) {c : Connection}
    (hclosed : c.state = .closed) : (op.apply profile now c).state = .closed := by
  have hnamed : ∀ {named}, op.target? = some named → named = id := by
    intro named hop
    simpa [Operation.reaches, hop] using hreached
  have hshut : c.state ≠ .established := by
    rw [hclosed]
    decide
  cases op with
  | establish | listen | send | deliver =>
    obtain rfl := hnamed rfl
    simp [isHarmless, isDataless] at h
  | transition named target =>
    obtain rfl := hnamed rfl
    have hblocked : ¬ c.state.leadsTo target = true := by
      rw [hclosed]
      simpa [isHarmless, isDataless] using h
    rw [apply, Connection.advance_eq, if_neg hblocked]
    exact hclosed
  | accept =>
    have hidle : ¬ (c.state = .listen ∨ c.state = .synSent) := by
      rw [hclosed]
      decide
    rw [apply, Connection.drive_passiveOpen, if_neg hidle]
    exact hclosed
  | close =>
    rw [apply, Connection.closeAlong_teardown, if_neg hshut]
    exact hclosed
  | peerClose =>
    rw [apply, Connection.closeAlong_passiveClose, if_neg hshut]
    exact hclosed
  | reclaim =>
    rw [apply]
    split
    · rfl
    · exact hclosed
  | drainOutbound | drainInbound | create | purge => exact hclosed
  | state | block | contains | ids | size | census => exact hclosed

/-- A harmless operation does not open a closed connection again. -/
theorem Operation.not_reopens_of_isHarmless (h : op.isHarmless id = true) {r : Registry}
    (hr : r.IsSound) : ¬ Moment.Reopens ⟨r, now, op⟩ id := by
  rintro ⟨hclosed, hheld, hopen⟩
  obtain ⟨c, hget, hstate⟩ := held_of_state hclosed
  obtain ⟨c', hafter⟩ := Option.isSome_iff_exists.1 hheld
  have heffect := Moment.eq_effect hr hget hafter
  have hshut : c'.state = .closed := by
    rw [← heffect, effect]
    split
    · next hreached => exact state_apply_of_isHarmless h hreached r.profile hstate
    · exact hstate
  exact hopen ((Registry.state_of_get? hafter).trans (congrArg Except.ok hshut))

end Harmless

namespace Session

/-- What others do in a script. -/
def deeds (id : ConnectionId) (script : List (Instant × Event)) : List (Instant × Operation) :=
  script.filterMap fun e => (e.2.operation? id e.1).map fun op => (e.1, op)

/-- What others do in a script they do in the moments in which they act. -/
theorem deeds_eq (id : ConnectionId) (looks : Bool) (script : List (Instant × Event))
    (x : Exchange) :
    deeds id script = (disturbances id looks script x).map fun m => (m.now, m.operation) := by
  rw [disturbances, List.map_filterMap]
  simp only [Option.map_map, Function.comp_def]
  conv_lhs => rw [deeds, ← List.zipIdx_map_fst 0 script, List.filterMap_map]
  rfl

namespace Course

/-- What others do in a schedule. -/
def others (schedule : List (Instant × Turn)) : List (Instant × Operation) :=
  schedule.filterMap fun
    | (now, .other op) => some (now, op)
    | _ => none

/-- What others do in a schedule they do in the moments in which they act. -/
theorem others_eq (id : ConnectionId) (s : Course) (schedule : List (Instant × Turn)) :
    others schedule = (s.disturbances id schedule).map fun m => (m.now, m.operation) := by
  induction schedule generalizing s with
  | nil => rfl
  | cons t later ih =>
    obtain ⟨now, t⟩ := t
    cases t with
    | session => exact ih _
    | other op => exact congrArg _ (ih _)

/-- A step of the session leaves a registry sound. -/
theorem isSound_proceed {s : Course} (h : s.registry.IsSound) (id : ConnectionId) (now : Instant) :
    (s.proceed id now).registry.IsSound := by
  rcases proceed_eq s id now with ⟨hregistry, -⟩ | ⟨op, stage, -, hdoes⟩
  · rw [hregistry]
    exact h
  · rw [hdoes]
    exact Registry.isSound_perform h now op

/-- A schedule in which others do only what is harmless is admitted. -/
theorem admits_of_harmless {id : ConnectionId} {s : Course} {schedule : List (Instant × Turn)}
    (h : s.registry.IsSound) (hops : ∀ e ∈ others schedule, e.2.isHarmless id = true) :
    s.Admits id schedule := by
  induction schedule generalizing s with
  | nil => trivial
  | cons t later ih =>
    obtain ⟨instant, t⟩ := t
    cases t with
    | session => exact ⟨trivial, ih (isSound_proceed h id instant) hops⟩
    | other op =>
      obtain ⟨hop, hlater⟩ := List.forall_mem_cons.1 hops
      exact ⟨⟨Operation.isDataless_of_isHarmless hop, Operation.not_reopens_of_isHarmless hop h⟩,
        ih (Registry.isSound_perform h instant op) hlater⟩

/-- The final closing closes an established connection in order, in four steps. -/
theorem closes_established {profile : Profile} {id : ConnectionId} {s : Course}
    {sent : List Bytes} (h : s.Orderly profile id sent) {fault : SessionFault} {c : Connection}
    (hstage : s.stage = .closing fault) (hget : s.registry.get? id = some c)
    (hopen : c.state = .established) (now : Instant) :
    (s.proceed id now).stage = .done fault ∧
      ∃ c', (s.proceed id now).registry.get? id = some c' ∧ c'.state = .closed ∧
        c'.block.gracefullyClosed = true ∧ c'.block.transitions = c.block.transitions + 4 := by
  have hproceed : s.proceed id now = s.does now (.close id) (.done fault) := by
    simp only [proceed, hstage]
  have hafter : (s.does now (.close id) (.done fault)).registry.get? id =
      some (c.closedAlong now State.teardown) := by
    rw [get?_does h now rfl, hget, Option.map_some, Operation.apply, Connection.closeAlong_teardown,
      if_pos hopen]
  have hblock := Connection.block_closedAlong now c State.teardown
  rw [hproceed]
  refine ⟨rfl, _, hafter, Connection.state_closedAlong now hopen rfl, ?_, ?_⟩
  · rw [hblock]
  · rw [hblock]
    rfl

end Course

/-- A session opens a connection of its own and serves a client, while others act on the registry
whenever they like, without carrying data for this connection or opening it again once it is closed.
When the session is done the connection is not established. If a pass has forced it closed it stays
that way, and if it is established when the session closes it, it is closed in order by four more
steps. What has been written begins the answers to the lines of what was delivered while the
connection was established, which is the beginning of what the client sends, and ends for good when
the connection leaves that state. Every script is run in a course of the session, in which others do
what the script says; it is one of these if what they do is harmless. -/
theorem session_ends_shut (profile : Profile) (latency : Latency)
    (prior : List (Instant × Operation)) (localEnd remoteEnd : Endpoint) (isn : UInt32)
    (opening : Instant) :
    let r := ((Registry.empty profile latency).run prior).2
    let id : ConnectionId := ⟨r.lastId + 1⟩
    ∃ opened, start localEnd remoteEnd isn opening r = (.ok id, opened) ∧
      (∀ arrivals sink schedule, (Course.begin opened arrivals sink).Admits id schedule →
        let s := (Course.begin opened arrivals sink).run id schedule
        (∀ fault, s.stage = .done fault → s.registry.state id ≠ .ok .established) ∧
          (∀ m ∈ s.past, id ∈ m.forced → ∀ c, s.registry.get? id = some c →
            c.state = .closed ∧ c.block.timedOut = true ∧ c.block.gracefullyClosed = false) ∧
          (∀ fault c now, s.stage = .closing fault → s.registry.get? id = some c →
            c.state = .established →
            (s.proceed id now).stage = .done fault ∧
              ∃ c', (s.proceed id now).registry.get? id = some c' ∧ c'.state = .closed ∧
                c'.block.gracefullyClosed = true ∧
                c'.block.transitions = c.block.transitions + 4) ∧
          s.written <+: (profile.replies (s.heard id).flatten).flatten ∧
          s.heard id <+: Arrival.chunks arrivals ∧
          ∀ first later, schedule = first ++ later →
            let t := (Course.begin opened arrivals sink).run id first
            t.registry.state id ≠ .ok .established → s.heard id = t.heard id) ∧
      ∀ script closing sink, ∃ schedule,
        let s := (Course.begin opened (Arrival.ofScript script) sink).run id schedule
        let outcome := run id script closing ⟨opened, sink, []⟩
        Course.others schedule <+: deeds id script ∧
          ((∀ e ∈ deeds id script, e.2.isHarmless id = true) →
            (Course.begin opened (Arrival.ofScript script) sink).Admits id schedule) ∧
          s.stage = .done outcome.1 ∧ s.registry = outcome.2.registry ∧
          s.written = Service.written outcome.2.account := by
  intro r id
  have hempty := Registry.isSound_empty profile latency
  have hprofile : r.profile = profile := Registry.profile_run hempty prior
  obtain ⟨opened, hstart, hheld⟩ :=
    start_fresh localEnd remoteEnd isn opening (Registry.isSound_run hempty prior)
  rw [hprofile] at hheld
  refine ⟨opened, hstart, ?_, ?_⟩
  · intro arrivals sink schedule hadmits s
    have hbegin := Course.orderly_begin hheld
      (isOpened_fresh profile id localEnd remoteEnd isn opening opening) rfl arrivals sink
    have horderly : s.Orderly profile id (Arrival.chunks arrivals) := hbegin.run hadmits
    refine ⟨?_, ?_, ?_, s.written_prefix.trans horderly.owed_prefix, horderly.heard_prefix, ?_⟩
    · intro fault hdone hopen
      obtain ⟨c, hget, hestablished⟩ := held_of_state hopen
      exact horderly.shut fault hdone c hget hestablished
    · intro m hmem hforced c hget
      obtain ⟨hclosed, htimedOut, hgraceful⟩ := horderly.attended.isReclaimed m hmem hforced c hget
      exact ⟨hclosed, htimedOut, hgraceful⟩
    · intro fault c now hclosing hget hopen
      exact Course.closes_established horderly hclosing hget hopen now
    · rintro first later rfl t hshut
      obtain ⟨hfirst, hlater⟩ := Course.admits_append hadmits
      have hrun : s = t.run id later := List.foldl_append
      rw [hrun]
      exact (hbegin.run hfirst).heard_run hlater hshut
  · intro script closing sink
    obtain ⟨schedule, hmoments, hmirrors, hstage⟩ :=
      Course.leads_run id script closing opened sink
    have hdeeds : Course.others schedule <+: deeds id script := by
      rw [Course.others_eq, deeds_eq id true script ⟨opened, sink, []⟩]
      exact hmoments.map _
    exact ⟨schedule, hdeeds, fun hharmless => Course.admits_of_harmless hheld.isSound fun e he =>
      hharmless e (hdeeds.subset he), hstage, hmirrors.registry_eq, hmirrors.written_eq⟩

/-- A client sends two lines. The second one has been delivered when a pass forces the connection
closed: its answer is lost, and the session, which finds the connection closed, does not close it in
order. -/
theorem session_ends_shut_reclaimed :
    let opened := (start ⟨"127.0.0.1", 7070⟩ ⟨"127.0.0.1", 50000⟩ 1000 0
      (Registry.empty {} .none)).2
    let arrivals : List Arrival :=
      [.bytes (Utf8.encode "ECHO a\n"), .bytes (Utf8.encode "PING b\n")]
    let schedule : List (Instant × Turn) :=
      List.replicate 10 (1, .session) ++ (2, .other (.reclaim 2 0)) ::
        List.replicate 5 (3, .session)
    let s := (Course.begin opened arrivals Sink.unlimited).run ⟨1⟩ schedule
    (Course.begin opened arrivals Sink.unlimited).Admits ⟨1⟩ schedule ∧
      s.stage = .done (.reclaimed ⟨1⟩ .closed) ∧ s.registry.state ⟨1⟩ ≠ .ok .established ∧
      s.written = Utf8.encode "ECHO_REPLY a\n" ∧ (∃ m ∈ s.past, ⟨1⟩ ∈ m.forced) ∧
      ∀ c, s.registry.get? ⟨1⟩ = some c →
        c.state = .closed ∧ c.block.timedOut = true ∧ c.block.gracefullyClosed = false := by
  intro opened arrivals schedule s
  obtain ⟨opened', hstart, hcourses, -⟩ := session_ends_shut {} .none [] ⟨"127.0.0.1", 7070⟩
    ⟨"127.0.0.1", 50000⟩ 1000 0
  obtain rfl : opened = opened' := congrArg Prod.snd hstart
  have hadmits : (Course.begin opened arrivals Sink.unlimited).Admits ⟨1⟩ schedule := by
    decide +kernel
  obtain ⟨hdone, hreclaimed, -⟩ := hcourses arrivals Sink.unlimited schedule hadmits
  have hstage : s.stage = .done (.reclaimed ⟨1⟩ .closed) := by decide +kernel
  have hforced : ∃ m ∈ s.past, ⟨1⟩ ∈ m.forced := by decide +kernel
  refine ⟨hadmits, hstage, hdone _ hstage, by decide +kernel, hforced, ?_⟩
  obtain ⟨m, hmem, hm⟩ := hforced
  exact hreclaimed m hmem hm

end Session

end Switchboard
