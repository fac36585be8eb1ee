import Switchboard.Proofs.Session.Scripts

/-!
# Serving a client

A session whose connection nobody else touches answers the whole stream of its client, however the
stream is cut into reads. A byte passes through the read buffer, the receiver, the outbox and the
sink, and others may act on the registry between any two of these steps, as long as they leave this
connection as it is: on other connections, by purging, or by a pass that spares it.

What every turn keeps is that the session is *served* (`Course.Served`): its connection has carried
what has been heard and the answers to it, and what has not been fetched from the outbox yet is due.
A step of the session brings its end nearer, by a count of the steps that remain
(`Course.remaining`), and what others do takes nothing away from it. Main statement: after enough
steps the session is done, and then the client has been written the answers to the lines of its
stream and nothing else, and the connection is closed in order and keeps nothing (`run_served`).
-/

namespace Switchboard

/-- The connection is afterwards as it has been before. -/
def Moment.Spares (m : Moment) (id : ConnectionId) : Prop :=
  m.after.get? id = m.before.get? id

/-- Whether a connection is spared is decided by looking at it. -/
instance (m : Moment) (id : ConnectionId) : Decidable (m.Spares id) :=
  inferInstanceAs (Decidable (_ = _))

/-- What an operation does not reach it spares; what it reaches, if it neither removes nor changes
it. -/
theorem Moment.spares_iff {m : Moment} {id : ConnectionId} {c : Connection}
    (h : m.before.IsSound) (hget : m.before.get? id = some c) :
    m.Spares id ↔ (m.operation.reaches id = true →
      m.operation.removes c = false ∧ m.operation.apply m.before.profile m.now c = c) := by
  constructor
  · intro hspares hreached
    rcases (Moment.get?_after_iff h).1 (hspares.trans hget) with
      hborn | ⟨c₀, hheld, hkept, heffect⟩
    · exact absurd hborn (Registry.not_mem_born (h.known id c hget))
    · obtain rfl : c = c₀ := Option.some.inj (hget.symm.trans hheld)
      rw [Operation.effect, if_pos hreached] at heffect
      exact ⟨hkept, heffect⟩
  · intro hspared
    rw [Moment.Spares, hget, Moment.get?_after_iff h]
    refine .inr ⟨c, hget, ?_⟩
    by_cases hreached : m.operation.reaches id = true
    · rw [Operation.effect, if_pos hreached]
      exact hspared hreached
    · have hpurge : m.operation ≠ .purge := by
        rintro hop
        rw [hop] at hreached
        exact hreached rfl
      rw [Operation.effect, if_neg hreached]
      exact ⟨Registry.removes_eq_false hpurge c, rfl⟩

/-- A connection that hears a delivery has counted it, and so has not been spared. -/
theorem Moment.heard_of_spares {m : Moment} {id : ConnectionId} (h : m.before.IsSound)
    (hspares : m.Spares id) : m.heard id = [] := by
  rw [Moment.heard]
  split
  · next named chunk hop =>
    refine if_neg ?_
    rintro ⟨rfl, hopen⟩
    obtain ⟨c, hget, hstate⟩ := held_of_state hopen
    have hreached : m.operation.reaches named = true := by
      rw [hop]
      exact decide_eq_true rfl
    obtain ⟨-, hsame⟩ := (Moment.spares_iff h hget).1 hspares hreached
    obtain ⟨block, hreceive, hcarried⟩ := Connection.receive_of_carriesData m.before.profile chunk
      m.now (c := c) (decide_eq_true hstate)
    rw [hop, Operation.apply, hreceive] at hsame
    have hblock : block = c.block := congrArg Connection.block hsame
    have hpackets := hcarried.packetsReceived_eq
    rw [hblock, List.length_singleton] at hpackets
    omega
  · rfl

/-- A longer stream has the answers of its beginning first. -/
theorem Profile.replies_prefix (profile : Profile) (stream more : Bytes) :
    profile.replies stream <+: profile.replies (stream ++ more) := by
  have hfirst := (Receiver.follows_feed (Receiver.isClean_fresh.follows profile.frameLimit)
    stream).2
  rw [List.nil_append] at hfirst
  obtain ⟨hmessages, -⟩ := Receiver.follows_feed hfirst more
  rw [Session.Course.replies_append hmessages]
  exact List.prefix_append _ _

namespace Registry

variable {r : Registry} {profile : Profile} {id : ConnectionId} {c : Connection}

/-- A connection that is spared in every moment of a history is held as before. -/
theorem Holds.run (h : r.Holds profile id c) {history : List (Instant × Operation)}
    (hspares : ∀ m ∈ r.moments history, m.Spares id) : (r.run history).2.Holds profile id c where
  isSound := isSound_run h.isSound history
  profile_eq := (profile_run h.isSound history).trans h.profile_eq
  get?_eq := by
    refine Eq.trans ?_ h.get?_eq
    clear h
    induction history generalizing r with
    | nil => rfl
    | cons step later ih =>
      obtain ⟨hfirst, hlater⟩ := List.forall_mem_cons.1 hspares
      exact (ih hlater).trans hfirst

/-- Collecting the messages of a connection that is held answers those in its inbox. -/
theorem drainInbound_of_get? (hget : r.get? id = some c) :
    (r.drainInbound id).1 = .ok c.inbox.toList := by
  rw [drainInbound, act, hget]
  rfl

/-- Collecting the frames of a connection that is held answers those in its outbox. -/
theorem drainOutbound_of_get? (hget : r.get? id = some c) :
    (r.drainOutbound id).1 = .ok c.outbox.toList := by
  rw [drainOutbound, act, hget]
  rfl

end Registry

namespace Session

/-- The client sends at least one byte, or it is silent. -/
def Arrival.IsCalm : Arrival → Prop
  | bytes chunk => chunk ≠ []
  | silence => True
  | failure _ => False

/-- What a client does is looked at byte by byte. -/
instance : (a : Arrival) → Decidable a.IsCalm
  | .bytes _ => inferInstanceAs (Decidable (_ ≠ _))
  | .silence => inferInstanceAs (Decidable True)
  | .failure _ => inferInstanceAs (Decidable False)

/-- The turn is the session's. -/
def Turn.isSession : Turn → Bool
  | session => true
  | other _ => false

namespace Stage

/-- What the connection has transmitted has been fetched. -/
def hasFetched : Stage → Bool
  | collecting | fetching => false
  | _ => true

/-- Why the session comes to its end. -/
def fault? : Stage → Option SessionFault
  | closing fault | done fault => some fault
  | _ => none

/-- The steps from a stage to the end, if nothing more arrives and nothing is due. -/
def distance : Stage → Nat
  | delivering _ => 7
  | collecting => 6
  | fetching => 5
  | writing _ => 4
  | looking => 3
  | reading => 2
  | closing _ => 1
  | done _ => 0

end Stage

namespace Course

/-- A bound on the steps that a session still takes: six for everything that is still to arrive, and
one for every frame that is due or will be. -/
def remaining (profile : Profile) (id : ConnectionId) (sent : List Bytes) (s : Course) : Nat :=
  s.stage.distance + 6 * s.arrivals.length + (s.stage.due (s.registry.pending id)).length +
    ((profile.replies sent.flatten).length - (profile.replies (s.heard id).flatten).length)

/-- The connection is as it has been opened, but for what has been heard and the answers to it. -/
structure Carries (profile : Profile) (id : ConnectionId) (first : Connection) (s : Course)
    (c : Connection) : Prop where
  get?_eq : s.registry.get? id = some c
  state_eq : c.state = .established
  carried : first.block.Carried (s.heard id) (profile.replies (s.heard id).flatten) c.block
  outbox_eq : s.stage.hasFetched = true → c.outbox.toList = []

/-- Everything that the client has sent is answered. -/
structure Finished (profile : Profile) (id : ConnectionId) (sent : List Bytes) (s : Course)
    (fault : SessionFault) : Prop where
  fault_eq : fault = .clientDisconnected
  arrivals_eq : s.arrivals = []
  heard_eq : s.heard id = sent
  written_eq : s.written = (profile.replies sent.flatten).flatten

/-- What every turn keeps of a session that nobody disturbs. -/
structure Served (profile : Profile) (id : ConnectionId) (first : Connection) (sent : List Bytes)
    (s : Course) : Prop where
  orderly : s.Orderly profile id sent
  calm : ∀ a ∈ s.arrivals, a.IsCalm
  sink_eq : s.sink = Sink.unlimited
  carries : (∀ fault, s.stage ≠ .done fault) → ∃ c, s.Carries profile id first c
  finished : ∀ fault, s.stage.fault? = some fault → s.Finished profile id sent fault
  closed : ∀ fault, s.stage = .done fault → ∃ c, s.registry.get? id = some c ∧
    IsClosed sent (profile.replies sent.flatten) c

variable {profile : Profile} {id : ConnectionId} {first c : Connection} {sent : List Bytes}
  {s : Course} {now : Instant}

/-- A session that goes on serving has neither come to its end nor closed its connection. -/
theorem served_of_serving (horderly : s.Orderly profile id sent)
    (hcalm : ∀ a ∈ s.arrivals, a.IsCalm) (hsink : s.sink = Sink.unlimited)
    (hserving : s.stage.isServing = true) (hc : s.Carries profile id first c) :
    s.Served profile id first sent where
  orderly := horderly
  calm := hcalm
  sink_eq := hsink
  carries := fun _ => ⟨c, hc⟩
  finished := by
    intro fault hfault
    cases hstage : s.stage with
    | closing | done =>
      rw [hstage] at hserving
      cases hserving
    | _ =>
      rw [hstage] at hfault
      cases hfault
  closed := by
    intro fault hdone
    rw [hdone] at hserving
    cases hserving

/-- An operation of the session that only collects or looks leaves a connection as it is, except for
the queues. -/
theorem Carries.does (hc : s.Carries profile id first c) (h : s.Orderly profile id sent)
    (now : Instant) (op : Operation) (stage : Stage) (hop : op.target? = some id)
    (hunheard : Moment.heard ⟨s.registry, now, op⟩ id = [])
    (hblock : (op.apply profile now c).block = c.block)
    (houtbox : stage.hasFetched = true → (op.apply profile now c).outbox.toList = []) :
    (s.does now op stage).Carries profile id first (op.apply profile now c) where
  get?_eq := by rw [get?_does h now hop, hc.get?_eq, Option.map_some]
  state_eq := (congrArg Block.state hblock).trans hc.state_eq
  carried := by
    rw [heard_does, hunheard, List.append_nil, hblock]
    exact hc.carried
  outbox_eq := houtbox

/-- An operation of the session that delivers nothing brings it nearer to its end by the distance
between the stages, if the same is due. -/
theorem remaining_does (profile : Profile) (id : ConnectionId) (sent : List Bytes) (s : Course)
    (now : Instant) (op : Operation) (stage : Stage)
    (hunheard : Moment.heard ⟨s.registry, now, op⟩ id = [])
    (hdue : (stage.due ((s.does now op stage).registry.pending id)).length =
      (s.stage.due (s.registry.pending id)).length) :
    (s.does now op stage).remaining profile id sent + s.stage.distance =
      s.remaining profile id sent + stage.distance := by
  have hstage : (s.does now op stage).stage = stage := rfl
  have harrivals : (s.does now op stage).arrivals = s.arrivals := rfl
  rw [remaining, remaining, heard_does, hunheard, List.append_nil, hstage, harrivals, hdue]
  omega

/-- What is pending is what waits in the outbox. -/
theorem Carries.pending_eq (hc : s.Carries profile id first c) :
    s.registry.pending id = c.outbox.toList :=
  Registry.pending_of_get? hc.get?_eq

/-- A session that looks after its connection finds it open, and reads. -/
theorem Served.look (h : s.Served profile id first sent) (hstage : s.stage = .looking) :
    (s.proceed id now).Served profile id first sent ∧
      (s.proceed id now).remaining profile id sent < s.remaining profile id sent := by
  obtain ⟨c, hc⟩ := h.carries (by simp [hstage])
  have houtbox := hc.outbox_eq (by rw [hstage]; rfl)
  have hgoes : obstacle? id s.registry = none := by
    rw [obstacle?, Registry.state_of_get? hc.get?_eq, hc.state_eq]
    rfl
  have hproceed : s.proceed id now = s.does now (.state id) .reading := by
    simp only [proceed, hstage, hgoes]
  have horderly : (s.proceed id now).Orderly profile id sent := h.orderly.proceed
  rw [hproceed] at horderly ⊢
  refine ⟨served_of_serving horderly h.calm h.sink_eq rfl
    (hc.does h.orderly now (.state id) .reading rfl rfl rfl fun _ => houtbox), ?_⟩
  have hremaining := remaining_does profile id sent s now (.state id) .reading rfl
    (by rw [hstage]; rfl)
  simp only [hstage, Stage.distance] at hremaining
  omega

/-- At the end of the client's stream everything has been answered. -/
theorem Served.finished_of_nil (h : s.Served profile id first sent) (hstage : s.stage = .reading)
    (harrivals : s.arrivals = []) (hc : s.Carries profile id first c) :
    s.heard id = sent ∧ s.written = (profile.replies sent.flatten).flatten := by
  obtain ⟨-, howed, hsent⟩ :=
    h.orderly.attentive (by rw [hstage]; rfl) c hc.get?_eq hc.state_eq
  have hheard : s.heard id = sent := by
    rw [hstage, harrivals] at hsent
    simpa [Stage.inHand, Arrival.chunks] using hsent
  have hnothing : s.stage.due (s.registry.pending id) = [] := by
    rw [hstage, hc.pending_eq]
    exact hc.outbox_eq (by rw [hstage]; rfl)
  refine ⟨hheard, ?_⟩
  rw [owed, hnothing, List.flatten_nil, List.append_nil, replies, hheard] at howed
  exact howed

/-- A session that reads goes on to what the client has done, or to its end. -/
theorem Served.read (h : s.Served profile id first sent) (hstage : s.stage = .reading) :
    (s.proceed id now).Served profile id first sent ∧
      (s.proceed id now).remaining profile id sent < s.remaining profile id sent := by
  obtain ⟨c, hc⟩ := h.carries (by simp [hstage])
  have houtbox := hc.outbox_eq (by rw [hstage]; rfl)
  have horderly : (s.proceed id now).Orderly profile id sent := h.orderly.proceed
  cases harrivals : s.arrivals with
  | nil =>
    have hproceed : s.proceed id now =
        { s with stage := .closing .clientDisconnected, arrivals := [] } := by
      simp only [proceed, hstage, harrivals, Stage.after]
    rw [hproceed] at horderly ⊢
    obtain ⟨hheard, hwritten⟩ := h.finished_of_nil hstage harrivals hc
    refine ⟨⟨horderly, fun a ha => (by cases ha), h.sink_eq,
      fun _ => ⟨c, hc.get?_eq, hc.state_eq, hc.carried, fun _ => houtbox⟩,
      fun fault hfault => ⟨(Option.some.inj hfault).symm, rfl, hheard, hwritten⟩,
      fun fault hdone => (by cases hdone)⟩, ?_⟩
    simp only [remaining, heard, hstage, harrivals, Stage.distance, Stage.due, List.length_nil]
    omega
  | cons arrival later =>
    have hlater : ∀ a ∈ later, a.IsCalm := fun a ha => h.calm a (by simp [harrivals, ha])
    cases arrival with
    | failure fault => exact (h.calm (.failure fault) (by simp [harrivals])).elim
    | silence =>
      have hproceed : s.proceed id now = { s with stage := .looking, arrivals := later } := by
        simp only [proceed, hstage, harrivals, Stage.after]
      rw [hproceed] at horderly ⊢
      refine ⟨served_of_serving horderly hlater h.sink_eq rfl
        ⟨hc.get?_eq, hc.state_eq, hc.carried, fun _ => houtbox⟩, ?_⟩
      simp only [remaining, heard, hstage, harrivals, Stage.distance, Stage.due, List.length_cons]
      omega
    | bytes chunk =>
      have hsome : chunk ≠ [] := h.calm (.bytes chunk) (by simp [harrivals])
      have hproceed : s.proceed id now =
          { s with stage := .delivering chunk, arrivals := later, buffer := ReadBuffer.empty } := by
        simp only [proceed, hstage, harrivals, h.orderly.buffer_eq, Stage.after_bytes,
          if_neg hsome]
      rw [hproceed] at horderly ⊢
      refine ⟨served_of_serving horderly hlater h.sink_eq rfl
        ⟨hc.get?_eq, hc.state_eq, hc.carried, fun _ => houtbox⟩, ?_⟩
      simp only [remaining, heard, hstage, harrivals, Stage.distance, Stage.due, List.length_cons]
      omega

/-- A session that delivers has the answers due that it has been short of before. -/
theorem Served.deliver (h : s.Served profile id first sent) {chunk : Bytes}
    (hstage : s.stage = .delivering chunk) :
    (s.proceed id now).Served profile id first sent ∧
      (s.proceed id now).remaining profile id sent < s.remaining profile id sent := by
  obtain ⟨c, hc⟩ := h.carries (by simp [hstage])
  have houtbox := hc.outbox_eq (by rw [hstage]; rfl)
  obtain ⟨answers, hanswers, hpending, -, hcarried⟩ :=
    (h.orderly.attentive (by rw [hstage]; rfl) c hc.get?_eq hc.state_eq).receive hc.state_eq chunk
      now
  have hheard := heard_deliver hc.get?_eq hc.state_eq now chunk .collecting
  have hproceed : s.proceed id now = s.does now (.deliver id chunk) .collecting := by
    simp only [proceed, hstage]
  have horderly : (s.proceed id now).Orderly profile id sent := h.orderly.proceed
  rw [hproceed] at horderly ⊢
  have hlater : (s.does now (.deliver id chunk) .collecting).Carries profile id first
      (c.receive profile chunk now).2 := by
    refine ⟨?_, hcarried.state_eq.trans hc.state_eq, ?_, fun hfetched => by cases hfetched⟩
    · rw [get?_does h.orderly now rfl, hc.get?_eq, Option.map_some, Operation.apply]
    · rw [hheard, hanswers]
      exact hc.carried.trans hcarried
  refine ⟨served_of_serving horderly h.calm h.sink_eq rfl hlater, ?_⟩
  obtain ⟨rest, hrest⟩ := horderly.heard_prefix
  have hless := (profile.replies_prefix (s.heard id ++ [chunk]).flatten rest.flatten).length_le
  rw [← List.flatten_append, ← hheard, hrest, hheard, hanswers, List.length_append] at hless
  rw [houtbox, List.nil_append] at hpending
  rw [remaining, remaining, hlater.pending_eq, hpending, hheard, hanswers, List.length_append,
    hstage, hc.pending_eq, houtbox]
  have harrivals : (s.does now (.deliver id chunk) .collecting).arrivals = s.arrivals := rfl
  have hcollecting : (s.does now (.deliver id chunk) .collecting).stage = .collecting := rfl
  rw [harrivals, hcollecting]
  simp only [Stage.distance, Stage.due, List.length_nil]
  omega

/-- A session that collects the messages lets go of them. -/
theorem Served.collect (h : s.Served profile id first sent) (hstage : s.stage = .collecting) :
    (s.proceed id now).Served profile id first sent ∧
      (s.proceed id now).remaining profile id sent < s.remaining profile id sent := by
  obtain ⟨c, hc⟩ := h.carries (by simp [hstage])
  have hproceed : s.proceed id now = s.does now (.drainInbound id) .fetching := by
    simp only [proceed, hstage, Registry.drainInbound_of_get? hc.get?_eq]
  have horderly : (s.proceed id now).Orderly profile id sent := h.orderly.proceed
  rw [hproceed] at horderly ⊢
  have hlater := hc.does h.orderly now (.drainInbound id) .fetching rfl rfl rfl
    fun hfetched => by cases hfetched
  refine ⟨served_of_serving horderly h.calm h.sink_eq rfl hlater, ?_⟩
  have hremaining := remaining_does profile id sent s now (.drainInbound id) .fetching rfl
    (by rw [hlater.pending_eq, hstage, hc.pending_eq]; rfl)
  simp only [hstage, Stage.distance] at hremaining
  omega

/-- A session that fetches the frames is going to write them. -/
theorem Served.fetch (h : s.Served profile id first sent) (hstage : s.stage = .fetching) :
    (s.proceed id now).Served profile id first sent ∧
      (s.proceed id now).remaining profile id sent < s.remaining profile id sent := by
  obtain ⟨c, hc⟩ := h.carries (by simp [hstage])
  have hproceed : s.proceed id now =
      s.does now (.drainOutbound id) (.writing c.outbox.toList) := by
    simp only [proceed, hstage, Registry.drainOutbound_of_get? hc.get?_eq]
  have horderly : (s.proceed id now).Orderly profile id sent := h.orderly.proceed
  rw [hproceed] at horderly ⊢
  have hlater := hc.does h.orderly now (.drainOutbound id) (.writing c.outbox.toList) rfl rfl rfl
    fun _ => Queue.toList_empty
  refine ⟨served_of_serving horderly h.calm h.sink_eq rfl hlater, ?_⟩
  have hremaining := remaining_does profile id sent s now (.drainOutbound id)
    (.writing c.outbox.toList) rfl
    (by
      rw [hlater.pending_eq, hstage, hc.pending_eq]
      exact congrArg List.length (List.append_nil _))
  simp only [hstage, Stage.distance] at hremaining
  omega

/-- A session that writes, writes one frame, or looks again when there is none left. -/
theorem Served.write (h : s.Served profile id first sent) {frames : List Bytes}
    (hstage : s.stage = .writing frames) :
    (s.proceed id now).Served profile id first sent ∧
      (s.proceed id now).remaining profile id sent < s.remaining profile id sent := by
  obtain ⟨c, hc⟩ := h.carries (by simp [hstage])
  have houtbox := hc.outbox_eq (by rw [hstage]; rfl)
  have horderly : (s.proceed id now).Orderly profile id sent := h.orderly.proceed
  cases frames with
  | nil =>
    have hproceed : s.proceed id now = { s with stage := .looking } := by
      simp only [proceed, hstage]
    rw [hproceed] at horderly ⊢
    refine ⟨served_of_serving horderly h.calm h.sink_eq rfl
      ⟨hc.get?_eq, hc.state_eq, hc.carried, fun _ => houtbox⟩, ?_⟩
    simp only [remaining, heard, hstage, Stage.distance, Stage.due, List.nil_append]
    omega
  | cons frame rest =>
    have hproceed : s.proceed id now =
        { s with stage := .writing rest, written := s.written ++ frame } := by
      have hwrite : s.sink.write frame = (frame, none, s.sink) := by
        rw [h.sink_eq]
        rfl
      simp only [proceed, hstage, hwrite]
    rw [hproceed] at horderly ⊢
    refine ⟨served_of_serving horderly h.calm h.sink_eq rfl
      ⟨hc.get?_eq, hc.state_eq, hc.carried, fun _ => houtbox⟩, ?_⟩
    simp only [remaining, heard, hstage, Stage.distance, Stage.due, List.length_append,
      List.length_cons]
    omega

/-- A session that closes its connection, closes it in order, and is done. -/
theorem Served.close (h : s.Served profile id first sent) (hopened : IsOpened first)
    {fault : SessionFault} (hstage : s.stage = .closing fault) :
    (s.proceed id now).Served profile id first sent ∧
      (s.proceed id now).remaining profile id sent < s.remaining profile id sent := by
  obtain ⟨c, hc⟩ := h.carries (by simp [hstage])
  obtain ⟨hfault, harrivals, hheard, hwritten⟩ := h.finished fault (by rw [hstage]; rfl)
  have hproceed : s.proceed id now = s.does now (.close id) (.done fault) := by
    simp only [proceed, hstage]
  have horderly : (s.proceed id now).Orderly profile id sent := h.orderly.proceed
  rw [hproceed] at horderly ⊢
  have hlater : (s.does now (.close id) (.done fault)).heard id = sent := by
    rw [heard_does, hheard]
    exact List.append_nil _
  have hafter : (s.does now (.close id) (.done fault)).registry.get? id =
      some (c.closedAlong now State.teardown) := by
    rw [get?_does h.orderly now rfl, hc.get?_eq, Option.map_some, Operation.apply,
      Connection.closeAlong_teardown, if_pos hc.state_eq]
  have hcarried := hc.carried
  rw [hheard] at hcarried
  refine ⟨⟨horderly, h.calm, h.sink_eq, fun hopen => absurd rfl (hopen fault), ?_, fun _ _ =>
    ⟨_, hafter, isClosed_closedAlong hopened hcarried (hc.outbox_eq (by rw [hstage]; rfl)) now⟩⟩,
    ?_⟩
  · intro fault' hfault'
    obtain rfl : fault = fault' := Option.some.inj hfault'
    exact ⟨hfault, harrivals, hlater, hwritten⟩
  · have hremaining := remaining_does profile id sent s now (.close id) (.done fault) rfl
      (by rw [hstage]; rfl)
    simp only [hstage, Stage.distance] at hremaining
    omega

/-- A session that is done has nothing left to do. -/
theorem Served.remaining_of_done (h : s.Served profile id first sent) {fault : SessionFault}
    (hstage : s.stage = .done fault) : s.remaining profile id sent = 0 := by
  obtain ⟨-, harrivals, hheard, -⟩ := h.finished fault (by rw [hstage]; rfl)
  rw [remaining, harrivals, hheard, hstage, Nat.sub_self]
  rfl

/-- A session that has nothing left to do is done. -/
theorem done_of_remaining (hremaining : s.remaining profile id sent = 0) :
    ∃ fault, s.stage = .done fault := by
  have hdistance : s.stage.distance = 0 := by
    rw [remaining] at hremaining
    omega
  cases hstage : s.stage with
  | done fault => exact ⟨fault, rfl⟩
  | _ =>
    rw [hstage] at hdistance
    cases hdistance

/-- A step of the session keeps it served and brings it nearer to its end. -/
theorem Served.proceed (h : s.Served profile id first sent) (now : Instant)
    (hopened : IsOpened first) :
    (s.proceed id now).Served profile id first sent ∧
      (s.proceed id now).remaining profile id sent ≤ s.remaining profile id sent - 1 := by
  have hnearer : ∀ {s' : Course}, s'.Served profile id first sent ∧
      s'.remaining profile id sent < s.remaining profile id sent →
      s'.Served profile id first sent ∧
        s'.remaining profile id sent ≤ s.remaining profile id sent - 1 :=
    fun hstep => ⟨hstep.1, Nat.le_sub_one_of_lt hstep.2⟩
  cases hstage : s.stage with
  | looking => exact hnearer (h.look hstage)
  | reading => exact hnearer (h.read hstage)
  | delivering => exact hnearer (h.deliver hstage)
  | collecting => exact hnearer (h.collect hstage)
  | fetching => exact hnearer (h.fetch hstage)
  | writing => exact hnearer (h.write hstage)
  | closing => exact hnearer (h.close hopened hstage)
  | done fault =>
    have hproceed : s.proceed id now = s := by simp only [Course.proceed, hstage]
    rw [hproceed, h.remaining_of_done hstage]
    exact ⟨h, Nat.zero_le _⟩

/-- What leaves the connection as it is leaves a course orderly. -/
theorem Orderly.spare (h : s.Orderly profile id sent) {op : Operation}
    (hspares : Moment.Spares ⟨s.registry, now, op⟩ id) :
    (s.does now op s.stage).Orderly profile id sent := by
  have hattended : Registry.Attended profile id s.past (Moment.before ⟨s.registry, now, op⟩) :=
    h.attended
  have hsame : (s.does now op s.stage).registry.get? id = s.registry.get? id := hspares
  have hheard : (s.does now op s.stage).heard id = s.heard id := by
    rw [heard_does, Moment.heard_of_spares h.attended.isSound hspares, List.append_nil]
  have howed : (s.does now op s.stage).owed id = s.owed id := by
    rw [owed, owed, Registry.pending, Registry.pending, hsame]
    rfl
  have hreplies : (s.does now op s.stage).replies profile id = s.replies profile id := by
    rw [replies, hheard, replies]
  refine ⟨?_, h.buffer_eq, hheard ▸ h.heard_prefix, ?_, ?_, ?_⟩
  · refine hattended.after fun c c' hget hafter => ?_
    obtain rfl : c = c' := Option.some.inj (hget.symm.trans (hspares.symm.trans hafter))
    exact ⟨h.attended.isSettled c hget, fun _ => rfl⟩
  · rw [howed, hreplies]
    exact h.owed_prefix
  · intro hserving c hafter hopen
    rw [hsame] at hafter
    obtain ⟨hfollows, howed', hsent⟩ := h.attentive hserving c hafter hopen
    refine ⟨hheard ▸ hfollows, ?_, hheard ▸ hsent⟩
    rw [howed, hreplies, howed']
  · intro fault hdone c hafter
    rw [hsame] at hafter
    exact h.shut fault hdone c hafter

/-- What leaves the connection as it is keeps a session served, and takes nothing from what remains.
-/
theorem Served.spare (h : s.Served profile id first sent) {op : Operation}
    (hspares : Moment.Spares ⟨s.registry, now, op⟩ id) :
    (s.does now op s.stage).Served profile id first sent ∧
      (s.does now op s.stage).remaining profile id sent = s.remaining profile id sent := by
  have hsame : (s.does now op s.stage).registry.get? id = s.registry.get? id := hspares
  have hheard : (s.does now op s.stage).heard id = s.heard id := by
    rw [heard_does, Moment.heard_of_spares h.orderly.attended.isSound hspares, List.append_nil]
  refine ⟨⟨h.orderly.spare hspares, h.calm, h.sink_eq, ?_, ?_, ?_⟩, ?_⟩
  · intro hopen
    obtain ⟨c, hget, hstate, hcarried, houtbox⟩ := h.carries hopen
    exact ⟨c, hsame.trans hget, hstate, hheard.symm ▸ hcarried, houtbox⟩
  · intro fault hfault
    obtain ⟨hfault, harrivals, hall, hwritten⟩ := h.finished fault hfault
    exact ⟨hfault, harrivals, hheard.trans hall, hwritten⟩
  · intro fault hdone
    rw [hsame]
    exact h.closed fault hdone
  · rw [remaining, remaining, hheard, Registry.pending, Registry.pending, hsame]
    rfl

/-- In every schedule in which the connection is spared, a session stays served, and every step of
it brings it nearer to its end. -/
theorem Served.run (h : s.Served profile id first sent) (hopened : IsOpened first)
    {schedule : List (Instant × Turn)}
    (hspares : ∀ m ∈ s.disturbances id schedule, m.Spares id) :
    (s.run id schedule).Served profile id first sent ∧
      (s.run id schedule).remaining profile id sent ≤
        s.remaining profile id sent - schedule.countP fun t => t.2.isSession := by
  induction schedule generalizing s with
  | nil => exact ⟨h, Nat.le_refl _⟩
  | cons t later ih =>
    obtain ⟨now, t⟩ := t
    cases t with
    | session =>
      obtain ⟨hserved, hnearer⟩ := h.proceed now hopened
      obtain ⟨hlast, hbound⟩ := ih hserved hspares
      rw [List.countP_cons_of_pos rfl]
      exact ⟨hlast, hbound.trans (by omega)⟩
    | other op =>
      obtain ⟨hfirst, hlater⟩ := List.forall_mem_cons.1 hspares
      obtain ⟨hserved, hsame⟩ := h.spare hfirst
      obtain ⟨hlast, hbound⟩ := ih hserved hlater
      rw [List.countP_cons_of_neg Bool.false_ne_true, ← hsame]
      exact ⟨hlast, hbound⟩

/-- A session that has just opened its connection is served. -/
theorem served_begin {opened : Registry} (hheld : opened.Holds profile id first)
    (hopened : IsOpened first) (hunclosed : first.block.gracefullyClosed = false)
    {arrivals : List Arrival} (hcalm : ∀ a ∈ arrivals, a.IsCalm) :
    (begin opened arrivals Sink.unlimited).Served profile id first (Arrival.chunks arrivals) := by
  refine served_of_serving (orderly_begin hheld hopened hunclosed arrivals Sink.unlimited) hcalm rfl
    rfl ⟨hheld.get?_eq, hopened.state_eq, Block.Carried.refl _, fun _ => ?_⟩
  rw [hopened.outbox_eq, Queue.toList_empty]

/-- What remains in the beginning. -/
theorem remaining_begin {opened : Registry} (hheld : opened.Holds profile id first)
    (hopened : IsOpened first) (arrivals : List Arrival) (sink : Sink) :
    (begin opened arrivals sink).remaining profile id sent =
      6 * arrivals.length + (profile.replies sent.flatten).length + 3 := by
  have hpending : opened.pending id = [] := by
    rw [Registry.pending_of_get? hheld.get?_eq, hopened.outbox_eq, Queue.toList_empty]
  have hnothing :
      (profile.replies (heard id (begin opened arrivals sink)).flatten).length = 0 := rfl
  rw [remaining, hnothing]
  simp only [begin, hpending, Stage.distance, Stage.due, List.length_nil]
  omega

end Course

/-- A session makes a connection, opens it, and serves a client that sends at least one byte at a
time, while others act on the registry whenever they like and leave this connection as it is. After
enough steps the session is done. Then it has written the answers to the lines of the client's
stream that are within the limit, and nothing else; its connection has been closed in order, has
counted everything, and keeps nothing. So has every run of a script in which others spare the
connection. -/
theorem run_served (profile : Profile) (latency : Latency)
    (prior : List (Instant × Operation)) (localEnd remoteEnd : Endpoint) (isn : UInt32)
    (making opening : Instant) :
    let r := ((Registry.empty profile latency).run prior).2
    let id : ConnectionId := ⟨r.lastId + 1⟩
    let made := (r.create localEnd remoteEnd isn making).2
    ∀ meanwhile, (∀ m ∈ made.moments meanwhile, m.Spares id) →
      ∃ opened, (made.run meanwhile).2.establish id opening = (.ok true, opened) ∧
        (making = opening → meanwhile = [] →
          start localEnd remoteEnd isn opening r = (.ok id, opened)) ∧
        ∀ arrivals : List Arrival, (∀ a ∈ arrivals, a.IsCalm) →
          let chunks := Arrival.chunks arrivals
          let lines := Lines.ofStream chunks.flatten
          let messages :=
            (lines.ended.filter fun line => line.length ≤ profile.frameLimit).map Message.ofFrame
          let replies := Message.answers profile.policy messages
          let first := Course.begin opened arrivals Sink.unlimited
          (lines.stream = chunks.flatten ∧ lines.IsCut) ∧
            (∀ schedule, (∀ m ∈ first.disturbances id schedule, m.Spares id) →
              let s := first.run id schedule
              (6 * arrivals.length + replies.length + 3 ≤
                  schedule.countP (fun t => t.2.isSession) → ∃ fault, s.stage = .done fault) ∧
                ∀ fault, s.stage = .done fault → fault = .clientDisconnected ∧
                  s.written = replies.flatten ∧
                  ∃ c, s.registry.get? id = some c ∧ IsClosed chunks replies c) ∧
            ∀ script closing, Arrival.ofScript script = arrivals →
              (∀ m ∈ disturbances id true script ⟨opened, Sink.unlimited, []⟩, m.Spares id) →
              let outcome := run id script closing ⟨opened, Sink.unlimited, []⟩
              outcome.1 = .clientDisconnected ∧
                Service.written outcome.2.account = replies.flatten ∧
                ∃ c, outcome.2.registry.get? id = some c ∧ IsClosed chunks replies c := by
  intro r id made meanwhile hmeanwhile
  have hempty := Registry.isSound_empty profile latency
  have hmade : made.Holds r.profile id
      (Connection.fresh r.profile id localEnd remoteEnd isn making) :=
    holds_create localEnd remoteEnd isn making (Registry.isSound_run hempty prior)
  obtain ⟨hanswer, hheld⟩ := establish_of_holds opening (hmade.run hmeanwhile) rfl
  have hprofile : r.profile = profile := Registry.profile_run hempty prior
  rw [hprofile] at hheld
  have hopened := isOpened_fresh profile id localEnd remoteEnd isn making opening
  let opened := ((made.run meanwhile).2.establish id opening).2
  refine ⟨opened, Prod.ext hanswer rfl, ?_, ?_⟩
  · rintro rfl rfl
    exact start_eq localEnd remoteEnd isn making hanswer
  intro arrivals hcalm chunks lines messages replies first
  have hbegin := Course.served_begin hheld hopened rfl hcalm
  have hdone : ∀ schedule, (∀ m ∈ first.disturbances id schedule, m.Spares id) →
      ∀ fault, (first.run id schedule).stage = .done fault → fault = .clientDisconnected ∧
        (first.run id schedule).written = replies.flatten ∧
        ∃ c, (first.run id schedule).registry.get? id = some c ∧ IsClosed chunks replies c := by
    intro schedule hspares fault hstage
    have hserved := (hbegin.run hopened hspares).1
    obtain ⟨hfault, -, -, hwritten⟩ := hserved.finished fault (by rw [hstage]; rfl)
    exact ⟨hfault, hwritten, hserved.closed fault hstage⟩
  refine ⟨Lines.ofStream_eq_iff.1 rfl, fun schedule hspares => ⟨fun henough => ?_,
    hdone schedule hspares⟩, ?_⟩
  · have hbound := (hbegin.run hopened hspares).2
    rw [Course.remaining_begin hheld hopened] at hbound
    have hnothing : (first.run id schedule).remaining profile id chunks = 0 :=
      Nat.le_zero.1 (hbound.trans (Nat.le_of_eq (Nat.sub_eq_zero_of_le henough)))
    exact Course.done_of_remaining hnothing
  · rintro script closing rfl hspares outcome
    obtain ⟨schedule, hmoments, hmirrors, hstage⟩ :=
      Course.leads_run id script closing opened Sink.unlimited
    obtain ⟨hfault, hwritten, c, hget, hclosed⟩ :=
      hdone schedule (fun m hm => hspares m (hmoments.subset hm)) _ hstage
    exact ⟨hfault, hmirrors.written_eq.symm.trans hwritten, c, hmirrors.registry_eq ▸ hget, hclosed⟩

/-- A client sends a line and a half, is silent, and sends the rest and the beginning of a third
line. Another connection is opened before this one is; then a pass forces it closed and spares this
one, and it is removed; or somebody sends on it after every step of the session. -/
theorem run_served_two_lines :
    let made := ((Registry.empty {} .none).create ⟨"127.0.0.1", 7070⟩ ⟨"127.0.0.1", 50000⟩ 1000 0).2
    let meanwhile : List (Instant × Operation) :=
      [(1, .create ⟨"10.0.0.1", 1⟩ ⟨"10.0.0.2", 2⟩ 5), (1, .establish ⟨2⟩)]
    let opened := ((made.run meanwhile).2.establish ⟨1⟩ 2).2
    let schedule : List (Instant × Turn) :=
      (List.replicate 23 [(4, .session), (5, .other (.send ⟨2⟩ "news"))]).flatten
    let script : List (Instant × Event) :=
      [(4, .read (Utf8.encode "ECHO a\nPI")), (5, .silence), (5, .other (.reclaim 5 3)),
        (5, .deed .purge), (6, .read (Utf8.encode "NG b\nrest"))]
    let arrivals := Arrival.ofScript script
    let first := Course.begin opened arrivals Sink.unlimited
    let s := first.run ⟨1⟩ schedule
    (∀ m ∈ made.moments meanwhile, m.Spares ⟨1⟩) ∧ (∀ a ∈ arrivals, a.IsCalm) ∧
      (∀ m ∈ first.disturbances ⟨1⟩ schedule, m.Spares ⟨1⟩) ∧
      (∀ m ∈ disturbances ⟨1⟩ true script ⟨opened, Sink.unlimited, []⟩, m.Spares ⟨1⟩) ∧
      (∃ fault, s.stage = .done fault) ∧ s.written = Utf8.encode "ECHO_REPLY a\nPONG b\n" ∧
      (run ⟨1⟩ script 7 ⟨opened, Sink.unlimited, []⟩).1 = .clientDisconnected ∧
      Service.written (run ⟨1⟩ script 7 ⟨opened, Sink.unlimited, []⟩).2.account =
        Utf8.encode "ECHO_REPLY a\nPONG b\n" ∧
      ∃ c, (run ⟨1⟩ script 7 ⟨opened, Sink.unlimited, []⟩).2.registry.get? ⟨1⟩ = some c ∧
        c.state = .closed ∧ c.block.bytesReceived = 18 ∧ c.block.packetsReceived = 2 := by
  intro made meanwhile opened schedule script arrivals first s
  have hmeanwhile : ∀ m ∈ made.moments meanwhile, m.Spares ⟨1⟩ := by decide +kernel
  obtain ⟨opened', hopened, -, hserved⟩ := run_served {} .none [] ⟨"127.0.0.1", 7070⟩
    ⟨"127.0.0.1", 50000⟩ 1000 0 2 meanwhile hmeanwhile
  obtain rfl : opened = opened' := congrArg Prod.snd hopened
  have hid : (⟨((Registry.empty {} .none).run []).2.lastId + 1⟩ : ConnectionId) = ⟨1⟩ := rfl
  rw [hid] at hserved
  have hcalm : ∀ a ∈ arrivals, a.IsCalm := by decide +kernel
  have hturns : ∀ m ∈ first.disturbances ⟨1⟩ schedule, m.Spares ⟨1⟩ := by decide +kernel
  have hevents : ∀ m ∈ disturbances ⟨1⟩ true script ⟨opened, Sink.unlimited, []⟩,
      m.Spares ⟨1⟩ := by
    decide +kernel
  obtain ⟨-, hcourses, hscripts⟩ := hserved arrivals hcalm
  obtain ⟨hends, hdone⟩ := hcourses schedule hturns
  obtain ⟨fault, hstage⟩ := hends (by decide +kernel)
  obtain ⟨-, hwritten, -⟩ := hdone fault hstage
  obtain ⟨hfault, haccount, c, hget, hclosed⟩ := hscripts script 7 rfl hevents
  refine ⟨hmeanwhile, hcalm, hturns, hevents, ⟨fault, hstage⟩, hwritten.trans ?_, hfault,
    haccount.trans ?_, c, hget, hclosed.state_eq, hclosed.bytesReceived_eq.trans ?_,
    hclosed.packetsReceived_eq.trans ?_⟩ <;>
    decide +kernel

end Session

end Switchboard
