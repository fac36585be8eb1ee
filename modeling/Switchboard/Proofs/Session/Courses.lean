import Switchboard.Proofs.Registry.Disturbances
import Switchboard.Proofs.Session.Openings

/-!
# Courses

A session step by step: it looks after its connection, reads, delivers, collects the messages,
fetches the frames, writes them one by one, and in the end closes. Between any two of these steps
others may act on the registry. The course of a session keeps what is still to come from the client,
the read buffer, what has been written to the client, and the moments in which the registry has been
acted on.

What every step keeps, of the session and of the others, is that a course is *orderly*
(`Course.Orderly`): what has been written, followed by what is due, begins the answers to what has
been delivered while the connection was established, and is all of them as long as it is; nothing is
left in the read buffer between two steps; and the session is not done before the connection is
shut.
-/

namespace Switchboard

/-- The bytes that a connection is delivered while it is established. -/
def Moment.heard (m : Moment) (id : ConnectionId) : List Bytes :=
  match m.operation with
  | .deliver named chunk =>
    if named = id ∧ m.before.state id = .ok .established then [chunk] else []
  | _ => []

/-- A sink takes the beginning of what is written to it, and everything unless it fails. -/
theorem Sink.write_prefix (sink : Sink) (bytes : Bytes) :
    (sink.write bytes).1 <+: bytes ∧
      ((sink.write bytes).2.1 = none → (sink.write bytes).1 = bytes) := by
  rw [Sink.write]
  split
  · exact ⟨List.prefix_rfl, fun _ => rfl⟩
  · split
    · exact ⟨List.prefix_rfl, fun _ => rfl⟩
    · refine ⟨List.take_prefix _ _, fun hnone => ?_⟩
      cases hnone

namespace Session

/-- What a client does while a session waits for it. -/
inductive Arrival
  | bytes (chunk : Bytes)
  | silence
  | failure (fault : IoFault)

/-- The bytes that arrive, in order. -/
def Arrival.chunks (arrivals : List Arrival) : List Bytes :=
  arrivals.filterMap fun
    | bytes chunk => some chunk
    | silence => none
    | failure _ => none

/-- What a session does next. -/
inductive Stage
  | looking
  | reading
  | delivering (chunk : Bytes)
  | collecting
  | fetching
  | writing (frames : List Bytes)
  | closing (fault : SessionFault)
  | done (fault : SessionFault)
  deriving DecidableEq

namespace Stage

/-- The session has not come to its end yet. -/
def isServing : Stage → Bool
  | closing _ | done _ => false
  | _ => true

/-- The chunk that has been read and not been delivered. -/
def inHand : Stage → List Bytes
  | delivering chunk => [chunk]
  | _ => []

/-- What follows when the client does the first of these things, what it does later, and the read
buffer. Bytes are read into the buffer, and the whole buffer is delivered and cleared. -/
def after (buffer : ReadBuffer) : List Arrival → Stage × List Arrival × ReadBuffer
  | [] => (closing .clientDisconnected, [], buffer)
  | .failure fault :: later => (closing (.io fault), later, buffer)
  | .silence :: later => (looking, later, buffer)
  | .bytes chunk :: later =>
    let filled := buffer.append chunk
    if chunk.isEmpty then (closing .clientDisconnected, later, filled)
    else (delivering filled.bytes, later, filled.clear)

/-- What is read into an empty buffer is delivered as it is, and the buffer is empty again. -/
theorem after_bytes (chunk : Bytes) (later : List Arrival) :
    after ReadBuffer.empty (.bytes chunk :: later) =
      (if chunk = [] then closing .clientDisconnected else delivering chunk, later,
        ReadBuffer.empty) := by
  cases chunk <;> rfl

/-- An empty buffer is empty after every read. -/
theorem after_buffer (arrivals : List Arrival) :
    (after ReadBuffer.empty arrivals).2.2 = ReadBuffer.empty := by
  cases arrivals with
  | nil => rfl
  | cons arrival later =>
    cases arrival with
    | bytes chunk => rw [after_bytes]
    | silence | failure => rfl

/-- The frames that are still to be written, if these are pending. -/
def due (pending : List Bytes) : Stage → List Bytes
  | closing _ | done _ => []
  | writing frames => frames ++ pending
  | _ => pending

end Stage

/-- A session in the course of serving a client. The end of the arrivals is the end of the client's
stream. -/
structure Course where
  stage : Stage
  arrivals : List Arrival
  buffer : ReadBuffer
  registry : Registry
  sink : Sink
  written : Bytes
  past : List Moment

/-- Who acts next: the session, or somebody else. -/
inductive Turn
  | session
  | other (op : Operation)

namespace Course

/-- A session that is about to serve a client. -/
def begin (registry : Registry) (arrivals : List Arrival) (sink : Sink) : Course :=
  ⟨.looking, arrivals, ReadBuffer.empty, registry, sink, [], []⟩

/-- An operation on the registry, after which this is the stage. -/
def does (s : Course) (now : Instant) (op : Operation) (stage : Stage) : Course :=
  let m : Moment := ⟨s.registry, now, op⟩
  { s with stage := stage, registry := m.after, past := s.past ++ [m] }

/-- The next step of the session. -/
def proceed (id : ConnectionId) (now : Instant) (s : Course) : Course :=
  match s.stage with
  | .looking =>
    match obstacle? id s.registry with
    | some fault => s.does now (.state id) (.closing fault)
    | none => s.does now (.state id) .reading
  | .reading =>
    let (stage, arrivals, buffer) := Stage.after s.buffer s.arrivals
    { s with stage := stage, arrivals := arrivals, buffer := buffer }
  | .delivering chunk => s.does now (.deliver id chunk) .collecting
  | .collecting =>
    match (s.registry.drainInbound id).1 with
    | .ok _ => s.does now (.drainInbound id) .fetching
    | .error fault => s.does now (.drainInbound id) (.closing (.connection fault))
  | .fetching =>
    match (s.registry.drainOutbound id).1 with
    | .ok frames => s.does now (.drainOutbound id) (.writing frames)
    | .error fault => s.does now (.drainOutbound id) (.closing (.connection fault))
  | .writing [] => { s with stage := .looking }
  | .writing (frame :: rest) =>
    let (taken, fault, sink) := s.sink.write frame
    let stage := match fault with
      | some fault => .closing (.io fault)
      | none => .writing rest
    { s with stage := stage, sink := sink, written := s.written ++ taken }
  | .closing fault => s.does now (.close id) (.done fault)
  | .done _ => s

/-- One turn, at an instant. -/
def turn (id : ConnectionId) (s : Course) : Instant × Turn → Course
  | (now, .session) => s.proceed id now
  | (now, .other op) => s.does now op s.stage

/-- All turns of a schedule, the first one first. -/
def run (id : ConnectionId) (s : Course) (schedule : List (Instant × Turn)) : Course :=
  schedule.foldl (turn id) s

/-- The moments of a schedule in which others act. -/
def disturbances (id : ConnectionId) : Course → List (Instant × Turn) → List Moment
  | _, [] => []
  | s, (now, .session) :: later => (s.proceed id now).disturbances id later
  | s, (now, .other op) :: later =>
    ⟨s.registry, now, op⟩ :: (s.does now op s.stage).disturbances id later

/-- Others carry no data for the connection and do not open it again. -/
def Permits (id : ConnectionId) (s : Course) : Instant × Turn → Prop
  | (_, .session) => True
  | (now, .other op) => op.isDataless id = true ∧ ¬ Moment.Reopens ⟨s.registry, now, op⟩ id

/-- In no turn of a schedule others carry data for the connection or open it again. -/
def Admits (id : ConnectionId) (s : Course) : List (Instant × Turn) → Prop
  | [] => True
  | t :: later => s.Permits id t ∧ (s.turn id t).Admits id later

/-- What others may do is decided by looking at what they do. -/
instance (id : ConnectionId) (s : Course) : (t : Instant × Turn) → Decidable (s.Permits id t)
  | (_, .session) => inferInstanceAs (Decidable True)
  | (_, .other _) => inferInstanceAs (Decidable (_ ∧ _))

/-- A schedule is decided turn by turn. -/
def decidableAdmits (id : ConnectionId) :
    (schedule : List (Instant × Turn)) → (s : Course) → Decidable (s.Admits id schedule)
  | [], _ => inferInstanceAs (Decidable True)
  | t :: later, s =>
    have := decidableAdmits id later (s.turn id t)
    inferInstanceAs (Decidable (_ ∧ _))

instance (id : ConnectionId) (s : Course) (schedule : List (Instant × Turn)) :
    Decidable (s.Admits id schedule) :=
  decidableAdmits id schedule s

/-- The bytes that have been delivered while the connection was established. -/
def heard (id : ConnectionId) (s : Course) : List Bytes :=
  s.past.flatMap fun m => m.heard id

/-- The answers to what has been delivered while the connection was established. -/
def replies (profile : Profile) (id : ConnectionId) (s : Course) : Bytes :=
  (profile.replies (s.heard id).flatten).flatten

/-- What has been written, and what is due. -/
def owed (id : ConnectionId) (s : Course) : Bytes :=
  s.written ++ (s.stage.due (s.registry.pending id)).flatten

/-- While its connection is established, a session that serves delivers everything that arrives, and
owes all answers. -/
structure Attentive (profile : Profile) (id : ConnectionId) (sent : List Bytes) (s : Course)
    (c : Connection) : Prop where
  follows : c.receiver.Follows profile.frameLimit 0 (s.heard id).flatten
  owed_eq : s.owed id = s.replies profile id
  sent_eq : s.heard id ++ (s.stage.inHand ++ Arrival.chunks s.arrivals) = sent

/-- What every step of a course keeps, if this is what the client sends. -/
structure Orderly (profile : Profile) (id : ConnectionId) (sent : List Bytes) (s : Course) :
    Prop where
  attended : s.registry.Attended profile id s.past
  buffer_eq : s.buffer = ReadBuffer.empty
  heard_prefix : s.heard id <+: sent
  owed_prefix : s.owed id <+: s.replies profile id
  attentive : s.stage.isServing = true → ∀ c, s.registry.get? id = some c →
    c.state = .established → s.Attentive profile id sent c
  shut : ∀ fault, s.stage = .done fault → ∀ c, s.registry.get? id = some c →
    c.state ≠ .established

variable {profile : Profile} {id : ConnectionId} {sent : List Bytes} {s : Course} {now : Instant}

/-- What a session has heard after an operation. -/
theorem heard_does (op : Operation) (stage : Stage) :
    (s.does now op stage).heard id = s.heard id ++ Moment.heard ⟨s.registry, now, op⟩ id := by
  rw [heard, does, List.flatMap_append, List.flatMap_singleton]
  rfl

/-- Only deliveries are heard. -/
theorem heard_of_dataless {m : Moment} (hdataless : m.operation.isDataless id = true) :
    m.heard id = [] := by
  rw [Moment.heard]
  split
  · next named chunk hop =>
    rw [hop] at hdataless
    exact if_neg fun h => of_decide_eq_true hdataless h.1
  · rfl

/-- What is due includes nothing of what has been thrown away. -/
theorem due_nil_prefix (stage : Stage) (pending : List Bytes) :
    (stage.due []).flatten <+: (stage.due pending).flatten := by
  cases stage with
  | writing frames =>
    rw [Stage.due, Stage.due, List.append_nil, List.flatten_append]
    exact List.prefix_append _ _
  | _ => exact List.nil_prefix

/-- What is pending after a disturbance has been pending before. -/
theorem pending_disturbed {m : Moment} (hattended : m.before.Attended profile id s.past)
    (hdataless : m.operation.isDataless id = true) (hshut : ¬ m.Reopens id) :
    m.after.pending id = m.before.pending id ∨ m.after.pending id = [] := by
  cases hafter : m.after.get? id with
  | none =>
    right
    rw [Registry.pending, hafter]
  | some c' =>
    obtain ⟨c, hget, -⟩ := Moment.held_before hattended.isSound hattended.known hafter
    rw [Registry.pending_of_get? hafter, Registry.pending_of_get? hget]
    exact (hattended.disturbed hdataless hshut hget hafter).outbox_eq

/-- The connection is established after a disturbance only if nothing has happened to it. -/
theorem Orderly.established_before (h : s.Orderly profile id sent) {op : Operation}
    (hdataless : op.isDataless id = true) (hshut : ¬ Moment.Reopens ⟨s.registry, now, op⟩ id)
    {stage : Stage} {c : Connection} (hafter : (s.does now op stage).registry.get? id = some c)
    (hopen : c.state = .established) : s.registry.get? id = some c := by
  have hattended : Registry.Attended profile id s.past (Moment.before ⟨s.registry, now, op⟩) :=
    h.attended
  obtain ⟨c₀, hget, -⟩ := Moment.held_before hattended.isSound hattended.known hafter
  have hdisturbed := hattended.disturbed hdataless hshut hget hafter
  rw [hdisturbed.eq_of_established (h.attended.isSettled c₀ hget).isPastOpening hopen]
  exact hget

/-- What others do, without carrying data or opening the connection again, leaves a course orderly.
-/
theorem Orderly.disturb (h : s.Orderly profile id sent) (now : Instant) (op : Operation)
    (hdataless : op.isDataless id = true) (hshut : ¬ Moment.Reopens ⟨s.registry, now, op⟩ id) :
    (s.does now op s.stage).Orderly profile id sent := by
  have hattended : Registry.Attended profile id s.past (Moment.before ⟨s.registry, now, op⟩) :=
    h.attended
  have hheard : (s.does now op s.stage).heard id = s.heard id := by
    rw [heard_does, heard_of_dataless hdataless, List.append_nil]
  have hreplies : (s.does now op s.stage).replies profile id = s.replies profile id := by
    rw [replies, hheard, replies]
  refine ⟨?_, h.buffer_eq, hheard ▸ h.heard_prefix, ?_, ?_, ?_⟩
  · refine hattended.after fun c c' hget hafter => ?_
    have hdisturbed := hattended.disturbed hdataless hshut hget hafter
    exact ⟨hdisturbed.isSettled (h.attended.isSettled c hget),
      fun hclosed => congrArg Connection.block (hdisturbed.eq_of_closed hclosed)⟩
  · rw [hreplies]
    refine List.IsPrefix.trans ?_ h.owed_prefix
    refine (List.prefix_append_right_inj s.written).2 ?_
    rcases pending_disturbed hattended hdataless hshut with hpending | hpending
    · have hdue := congrArg (fun l => (s.stage.due l).flatten) hpending
      exact hdue ▸ List.prefix_rfl
    · have hnil := due_nil_prefix s.stage (s.registry.pending id)
      rwa [← hpending] at hnil
  · intro hserving c' hafter hopen
    have hget := h.established_before hdataless hshut hafter hopen
    obtain ⟨hfollows, howed, hsent⟩ := h.attentive hserving c' hget hopen
    have hpending : (s.does now op s.stage).registry.pending id = s.registry.pending id := by
      rw [Registry.pending_of_get? hafter, Registry.pending_of_get? hget]
    refine ⟨by rwa [hheard], ?_, by rwa [hheard]⟩
    rw [hreplies, ← howed, owed, hpending]
    rfl
  · intro fault hdone c' hafter hopen
    exact h.shut fault hdone c' (h.established_before hdataless hshut hafter hopen) hopen

/-- Going over to another stage leaves a course orderly if the same is due and the same is still to
be delivered. -/
theorem Orderly.move (h : s.Orderly profile id sent) {stage : Stage} {arrivals : List Arrival}
    (hbefore : s.stage.isServing = true) (hserving : stage.isServing = true)
    (hdue : ∀ pending, stage.due pending = s.stage.due pending)
    (hchunks : stage.inHand ++ Arrival.chunks arrivals =
      s.stage.inHand ++ Arrival.chunks s.arrivals) :
    Orderly profile id sent { s with stage := stage, arrivals := arrivals } := by
  have howed : owed id { s with stage := stage, arrivals := arrivals } = s.owed id := by
    rw [owed, owed, hdue]
  refine ⟨h.attended, h.buffer_eq, h.heard_prefix, howed ▸ h.owed_prefix, ?_, ?_⟩
  · intro _ c hget hopen
    obtain ⟨hfollows, howed', hsent⟩ := h.attentive hbefore c hget hopen
    exact ⟨hfollows, howed.trans howed', (congrArg _ hchunks).trans hsent⟩
  · intro fault hdone
    obtain rfl : stage = .done fault := hdone
    cases hserving

/-- What has been written begins what is owed. -/
theorem written_prefix (s : Course) : s.written <+: s.owed id :=
  List.prefix_append _ _

/-- A session may always come to its end. -/
theorem Orderly.stop (h : s.Orderly profile id sent) (fault : SessionFault)
    (arrivals : List Arrival) :
    Orderly profile id sent { s with stage := .closing fault, arrivals := arrivals } where
  attended := h.attended
  buffer_eq := h.buffer_eq
  heard_prefix := h.heard_prefix
  owed_prefix := by
    have howed : owed id { s with stage := .closing fault, arrivals := arrivals } = s.written :=
      List.append_nil _
    rw [howed]
    exact s.written_prefix.trans h.owed_prefix
  attentive := by
    intro hserving
    cases hserving
  shut := by
    intro fault' hdone
    cases hdone

/-- Looking after the connection does nothing to it. -/
theorem Orderly.look (h : s.Orderly profile id sent) (now : Instant) :
    (s.does now (.state id) s.stage).Orderly profile id sent := by
  refine h.disturb now (.state id) rfl ?_
  rintro ⟨hclosed, -, hopen⟩
  exact hopen hclosed

/-- What becomes of the connection when it is named by an operation of the session. -/
theorem get?_does (h : s.Orderly profile id sent) (now : Instant) {op : Operation}
    (hop : op.target? = some id) (stage : Stage) :
    (s.does now op stage).registry.get? id =
      (s.registry.get? id).map (op.apply profile now) := by
  rw [← h.attended.profile_eq]
  exact Registry.get?_target h.attended.isSound now hop

/-- An operation of the session leaves its registry attended if the connection stays settled, and
stays as it is once it is closed. -/
theorem Orderly.attended_does (h : s.Orderly profile id sent) (now : Instant) (op : Operation)
    (hop : op.target? = some id) (stage : Stage)
    (hkeeps : ∀ c, s.registry.get? id = some c → c.IsSettled →
      (op.apply profile now c).IsSettled ∧
        (c.state = .closed → (op.apply profile now c).block = c.block)) :
    (s.does now op stage).registry.Attended profile id (s.does now op stage).past := by
  have hattended : Registry.Attended profile id s.past (Moment.before ⟨s.registry, now, op⟩) :=
    h.attended
  refine hattended.after fun c c' hget hafter => ?_
  have hmap := get?_does h now hop stage
  rw [hget, Option.map_some] at hmap
  obtain rfl : c' = op.apply profile now c := Option.some.inj (hafter.symm.trans hmap)
  exact hkeeps c hget (h.attended.isSettled c hget)

/-- The answers to a longer stream are those to the stream, and those to the messages that it has in
addition. -/
theorem replies_append {stream chunk : Bytes} {messages : List Message}
    (hmessages : (Lines.ofStream (stream ++ chunk)).messages profile.frameLimit =
      (Lines.ofStream stream).messages profile.frameLimit ++ messages) :
    profile.replies (stream ++ chunk) =
      profile.replies stream ++ Message.answers profile.policy messages := by
  rw [Profile.replies, hmessages, Connection.answers_append]
  rfl

/-- A delivery to the established connection is heard. -/
theorem heard_deliver {c : Connection} (hget : s.registry.get? id = some c)
    (hopen : c.state = .established) (now : Instant) (chunk : Bytes) (stage : Stage) :
    (s.does now (.deliver id chunk) stage).heard id = s.heard id ++ [chunk] := by
  rw [heard_does]
  exact congrArg _ (if_pos ⟨rfl, (Registry.state_of_get? hget).trans (congrArg _ hopen)⟩)

/-- A delivery to the established connection is received behind what has been heard, and what it
adds to the answers is transmitted. -/
theorem Attentive.receive {c : Connection} (h : s.Attentive profile id sent c)
    (hopen : c.state = .established) (chunk : Bytes) (now : Instant) :
    ∃ answers, profile.replies (s.heard id ++ [chunk]).flatten =
        profile.replies (s.heard id).flatten ++ answers ∧
      (c.receive profile chunk now).2.outbox.toList = c.outbox.toList ++ answers ∧
      (c.receive profile chunk now).2.receiver.Follows profile.frameLimit 0
        (s.heard id ++ [chunk]).flatten ∧
      Block.Carried [chunk] answers c.block (c.receive profile chunk now).2.block := by
  obtain ⟨messages, hmessages, -, -, houtbox, hlonger, hcarried⟩ :=
    Connection.receive_follows profile chunk now (decide_eq_true hopen) h.follows
  have hflatten : (s.heard id ++ [chunk]).flatten = (s.heard id).flatten ++ chunk := by simp
  refine ⟨Message.answers profile.policy messages, ?_, houtbox, ?_, hcarried⟩
  · rw [hflatten, replies_append hmessages]
  · rw [hflatten]
    exact hlonger

/-- A delivery to the established connection is heard, and all answers to it are due. -/
theorem Orderly.deliver_established (h : s.Orderly profile id sent) (now : Instant) {chunk : Bytes}
    (hstage : s.stage = .delivering chunk) {c : Connection} (hget : s.registry.get? id = some c)
    (hopen : c.state = .established) :
    (s.does now (.deliver id chunk) .collecting).Attentive profile id sent
      (c.receive profile chunk now).2 := by
  have hattentive := h.attentive (by rw [hstage]; rfl) c hget hopen
  obtain ⟨answers, hanswers, houtbox, hlonger, -⟩ := hattentive.receive hopen chunk now
  have hheard := heard_deliver hget hopen now chunk .collecting
  have hpending : (s.does now (.deliver id chunk) .collecting).registry.pending id =
      s.registry.pending id ++ answers := by
    rw [Registry.pending_of_get? ((get?_does h now rfl _).trans (congrArg _ hget)),
      Registry.pending_of_get? hget]
    exact houtbox
  refine ⟨?_, ?_, ?_⟩
  · rw [hheard]
    exact hlonger
  · rw [replies, hheard, hanswers, List.flatten_append, ← replies, ← hattentive.owed_eq, owed, owed,
      hpending, hstage, List.append_assoc, ← List.flatten_append]
    rfl
  · have hsent := hattentive.sent_eq
    rw [hstage] at hsent
    rw [hheard, List.append_assoc]
    exact hsent

/-- A delivery that finds no established connection does nothing to it. -/
theorem get?_deliver_shut (h : s.Orderly profile id sent) (now : Instant) (chunk : Bytes)
    (hshut : ¬ ∃ c, s.registry.get? id = some c ∧ c.state = .established) (stage : Stage) :
    (s.does now (.deliver id chunk) stage).registry.get? id = s.registry.get? id := by
  rw [get?_does h now rfl]
  cases hget : s.registry.get? id with
  | none => rfl
  | some c =>
    have hdata : c.block.carriesData = false :=
      decide_eq_false fun hopen => hshut ⟨c, hget, hopen⟩
    rw [Option.map_some, Operation.apply, Connection.receive_of_not_carriesData _ _ _ hdata]

/-- Delivering what has been read leaves a course orderly. -/
theorem Orderly.deliver (h : s.Orderly profile id sent) {chunk : Bytes}
    (hstage : s.stage = .delivering chunk) :
    (s.does now (.deliver id chunk) .collecting).Orderly profile id sent := by
  have hattended := h.attended_does now (.deliver id chunk) rfl .collecting
    fun c hget hc => hc.receive profile chunk now
  by_cases hopen : ∃ c, s.registry.get? id = some c ∧ c.state = .established
  · obtain ⟨c, hget, hestablished⟩ := hopen
    have hattentive := h.deliver_established now hstage hget hestablished
    refine ⟨hattended, h.buffer_eq, ?_, ?_, ?_, fun fault hdone => by cases hdone⟩
    · have hsent := hattentive.sent_eq
      rw [← hsent]
      exact List.prefix_append _ _
    · exact hattentive.owed_eq ▸ List.prefix_rfl
    · intro _ c' hafter _
      rw [get?_does h now rfl, hget, Option.map_some] at hafter
      obtain rfl := Option.some.inj hafter
      exact hattentive
  · have hsame := get?_deliver_shut h now chunk hopen .collecting
    have hheard : (s.does now (.deliver id chunk) .collecting).heard id = s.heard id := by
      have hunheard : ¬ (id = id ∧ s.registry.state id = .ok .established) := by
        rintro ⟨-, hstate⟩
        exact hopen (held_of_state hstate)
      rw [heard_does]
      exact (congrArg _ (if_neg hunheard)).trans (List.append_nil _)
    refine ⟨hattended, h.buffer_eq, hheard ▸ h.heard_prefix, ?_, ?_,
      fun fault hdone => by cases hdone⟩
    · have howed : (s.does now (.deliver id chunk) .collecting).owed id = s.owed id := by
        rw [owed, owed, Registry.pending, hsame, hstage]
        rfl
      rw [howed, replies, hheard]
      exact h.owed_prefix
    · intro _ c' hafter hestablished
      exact absurd ⟨c', hsame ▸ hafter, hestablished⟩ hopen

/-- Collecting from a queue leaves a course orderly if the same is owed and the same is still to be
delivered. -/
theorem Orderly.collect (h : s.Orderly profile id sent) {op : Operation} {stage : Stage}
    (hop : op.target? = some id) (hblock : ∀ c, (op.apply profile now c).block = c.block)
    (hreceiver : ∀ c, (op.apply profile now c).receiver = c.receiver)
    (hunheard : Moment.heard ⟨s.registry, now, op⟩ id = [])
    (howed : (s.does now op stage).owed id = s.owed id) (hbefore : s.stage.isServing = true)
    (hserving : stage.isServing = true) (hhand : stage.inHand = s.stage.inHand) :
    (s.does now op stage).Orderly profile id sent := by
  have hheard : (s.does now op stage).heard id = s.heard id := by
    rw [heard_does, hunheard, List.append_nil]
  have hreplies : (s.does now op stage).replies profile id = s.replies profile id := by
    rw [replies, hheard, replies]
  refine ⟨h.attended_does now op hop stage fun c _ hc =>
      ⟨hc.of_block_eq (hblock c), fun _ => hblock c⟩,
    h.buffer_eq, hheard ▸ h.heard_prefix, ?_, fun _ c' hafter hopen => ?_, fun fault hdone => ?_⟩
  · rw [howed, hreplies]
    exact h.owed_prefix
  · rw [get?_does h now hop] at hafter
    obtain ⟨c, hget, rfl⟩ := Option.map_eq_some_iff.1 hafter
    have hestablished : c.state = .established :=
      (congrArg Block.state (hblock c)).symm.trans hopen
    obtain ⟨hfollows, howed', hsent⟩ := h.attentive hbefore c hget hestablished
    refine ⟨?_, ?_, ?_⟩
    · rw [hheard, hreceiver]
      exact hfollows
    · rw [howed, hreplies, howed']
    · rw [hheard]
      exact (congrArg (fun l => s.heard id ++ (l ++ _)) hhand).trans hsent
  · obtain rfl : stage = .done fault := hdone
    cases hserving

/-- Collecting the messages leaves a course orderly. -/
theorem Orderly.collectMessages (h : s.Orderly profile id sent) (now : Instant)
    (hstage : s.stage = .collecting) :
    (s.does now (.drainInbound id) .fetching).Orderly profile id sent := by
  refine h.collect rfl (fun _ => rfl) (fun _ => rfl) rfl ?_ (by rw [hstage]; rfl) rfl
    (by rw [hstage]; rfl)
  have hpending : (s.does now (.drainInbound id) .fetching).registry.pending id =
      s.registry.pending id := by
    rw [Registry.pending, get?_does h now rfl, Registry.pending]
    cases s.registry.get? id <;> rfl
  rw [owed, owed, hpending, hstage]
  rfl

/-- Collecting the frames leaves a course orderly: those that have been pending are now to be
written. -/
theorem Orderly.collectFrames (h : s.Orderly profile id sent) (now : Instant)
    (hstage : s.stage = .fetching) :
    (s.does now (.drainOutbound id)
      (.writing (s.registry.pending id))).Orderly profile id sent := by
  refine h.collect rfl (fun _ => rfl) (fun _ => rfl) rfl ?_ (by rw [hstage]; rfl) rfl
    (by rw [hstage]; rfl)
  have hpending : (s.does now (.drainOutbound id)
      (.writing (s.registry.pending id))).registry.pending id = [] := by
    rw [Registry.pending, get?_does h now rfl]
    cases s.registry.get? id with
    | none => rfl
    | some c => exact Queue.toList_empty
  rw [owed, owed, hpending, hstage]
  exact congrArg (fun l => s.written ++ l.flatten) (List.append_nil _)

/-- What is owed before a frame is written. -/
theorem owed_writing {frame : Bytes} {rest : List Bytes}
    (hstage : s.stage = .writing (frame :: rest)) :
    s.owed id = s.written ++ frame ++
      (Stage.due (s.registry.pending id) (.writing rest)).flatten := by
  rw [owed, hstage, List.append_assoc]
  rfl

/-- Writing a frame leaves a course orderly. -/
theorem Orderly.write (h : s.Orderly profile id sent) {frame : Bytes} {rest : List Bytes}
    (hstage : s.stage = .writing (frame :: rest)) (sink : Sink) :
    Orderly profile id sent
      { s with stage := .writing rest, sink := sink, written := s.written ++ frame } := by
  have howed : owed id
      { s with stage := .writing rest, sink := sink, written := s.written ++ frame } = s.owed id :=
    (owed_writing hstage).symm
  refine ⟨h.attended, h.buffer_eq, h.heard_prefix, howed ▸ h.owed_prefix, fun _ c hget hopen => ?_,
    fun fault hdone => by cases hdone⟩
  obtain ⟨hfollows, howed', hsent⟩ := h.attentive (by rw [hstage]; rfl) c hget hopen
  rw [hstage] at hsent
  exact ⟨hfollows, howed.trans howed', hsent⟩

/-- A session whose client takes only the beginning of a frame comes to its end. -/
theorem Orderly.breakOff (h : s.Orderly profile id sent) {frame taken : Bytes} {rest : List Bytes}
    (hstage : s.stage = .writing (frame :: rest)) (sink : Sink) (fault : SessionFault)
    (htaken : taken <+: frame) :
    Orderly profile id sent
      { s with stage := .closing fault, sink := sink, written := s.written ++ taken } where
  attended := h.attended
  buffer_eq := h.buffer_eq
  heard_prefix := h.heard_prefix
  owed_prefix := by
    have howed : owed id
        { s with stage := .closing fault, sink := sink, written := s.written ++ taken } =
        s.written ++ taken := List.append_nil _
    have hless : s.written ++ taken <+: s.owed id := by
      rw [owed_writing hstage]
      exact ((List.prefix_append_right_inj s.written).2 htaken).trans (List.prefix_append _ _)
    rw [howed]
    exact hless.trans h.owed_prefix
  attentive := by
    intro hserving
    cases hserving
  shut := by
    intro fault' hdone
    cases hdone

/-- Closing does not open a closed connection again. -/
theorem Orderly.not_reopens_close (h : s.Orderly profile id sent) :
    ¬ Moment.Reopens ⟨s.registry, now, .close id⟩ id := by
  rintro ⟨hclosed, -, hopen⟩
  obtain ⟨c, hget, hstate⟩ := held_of_state hclosed
  have hsame : (Operation.close id).apply profile now c = c := by
    rw [Operation.apply, Connection.closeAlong_teardown, if_neg (by rw [hstate]; decide)]
  have hafter : (s.does now (.close id) s.stage).registry.get? id = some c := by
    rw [get?_does h now rfl, hget, Option.map_some, hsame]
  exact hopen ((Registry.state_of_get? hafter).trans (congrArg _ hstate))

/-- After the session has closed its connection it is done, and the connection is not established.
-/
theorem Orderly.close (h : s.Orderly profile id sent) {fault : SessionFault}
    (hstage : s.stage = .closing fault) :
    (s.does now (.close id) (.done fault)).Orderly profile id sent := by
  obtain ⟨hattended, hbuffer, hheard, howed, -, -⟩ := h.disturb now (.close id) rfl
    h.not_reopens_close
  rw [owed, hstage] at howed
  refine ⟨hattended, hbuffer, hheard, howed, fun hserving => (by cases hserving),
    fun _ _ c' hafter => ?_⟩
  rw [get?_does h now rfl] at hafter
  obtain ⟨c, -, rfl⟩ := Option.map_eq_some_iff.1 hafter
  rw [Operation.apply, Connection.closeAlong_teardown]
  split
  · next hopen =>
    rw [Connection.state_closedAlong now hopen rfl]
    decide
  · next hshut => exact hshut

/-- Collecting frames answers those that are pending, unless the connection is not held. -/
theorem drainOutbound_eq (r : Registry) (id : ConnectionId) :
    (r.drainOutbound id).1 = .ok (r.pending id) ∨
      ∃ fault, (r.drainOutbound id).1 = .error fault := by
  rw [Registry.drainOutbound, Registry.act, Registry.pending]
  cases r.get? id with
  | none => exact .inr ⟨_, rfl⟩
  | some c => exact .inl rfl

/-- The next thing that a client does leaves a course orderly. -/
theorem Orderly.read (h : s.Orderly profile id sent) (hstage : s.stage = .reading) :
    (s.proceed id now).Orderly profile id sent := by
  have hbefore : s.stage.isServing = true := by rw [hstage]; rfl
  have hhand : s.stage.inHand = [] := by rw [hstage]; rfl
  have hdue : ∀ pending, s.stage.due pending = pending := by
    intro pending
    rw [hstage]
    rfl
  simp only [Course.proceed, hstage]
  cases harrivals : s.arrivals with
  | nil => exact h.stop .clientDisconnected []
  | cons arrival later =>
    cases arrival with
    | failure fault => exact h.stop (.io fault) later
    | silence =>
      refine h.move hbefore rfl (fun pending => (hdue pending).symm) ?_
      rw [hhand, harrivals]
      rfl
    | bytes chunk =>
      rw [h.buffer_eq, Stage.after_bytes, ← h.buffer_eq]
      by_cases hsome : chunk = []
      · rw [if_pos hsome]
        exact h.stop .clientDisconnected later
      · rw [if_neg hsome]
        refine h.move hbefore rfl (fun pending => (hdue pending).symm) ?_
        rw [hhand, harrivals]
        rfl

/-- A step of the session leaves a course orderly. -/
theorem Orderly.proceed (h : s.Orderly profile id sent) :
    (s.proceed id now).Orderly profile id sent := by
  cases hstage : s.stage with
  | reading => exact h.read hstage
  | looking =>
    have hlooked := h.look now
    simp only [Course.proceed, hstage]
    cases obstacle? id s.registry with
    | some fault => exact hlooked.stop fault s.arrivals
    | none =>
      have hbefore : s.stage.isServing = true := by rw [hstage]; rfl
      exact hlooked.move hbefore rfl (fun _ => by rw [does, hstage]; rfl)
        (by rw [does, hstage]; rfl)
  | delivering chunk =>
    simp only [Course.proceed, hstage]
    exact h.deliver hstage
  | collecting =>
    have hcollected := h.collectMessages now hstage
    simp only [Course.proceed, hstage]
    cases (s.registry.drainInbound id).1 with
    | ok => exact hcollected
    | error fault => exact hcollected.stop (.connection fault) s.arrivals
  | fetching =>
    have hcollected := h.collectFrames now hstage
    simp only [Course.proceed, hstage]
    rcases drainOutbound_eq s.registry id with hframes | ⟨fault, hfault⟩
    · rw [hframes]
      exact hcollected
    · rw [hfault]
      exact hcollected.stop (.connection fault) s.arrivals
  | writing frames =>
    cases frames with
    | nil =>
      have hbefore : s.stage.isServing = true := by rw [hstage]; rfl
      simp only [Course.proceed, hstage]
      exact h.move hbefore rfl (fun _ => by rw [hstage]; rfl) (by rw [hstage]; rfl)
    | cons frame rest =>
      obtain ⟨htaken, hwhole⟩ := s.sink.write_prefix frame
      simp only [Course.proceed, hstage]
      cases hfault : (s.sink.write frame).2.1 with
      | none =>
        rw [hwhole hfault]
        exact h.write hstage _
      | some fault => exact h.breakOff hstage _ (.io fault) htaken
  | closing fault =>
    simp only [Course.proceed, hstage]
    exact h.close hstage
  | done fault =>
    simp only [Course.proceed, hstage]
    exact h

/-- Whoever acts, a course stays orderly. -/
theorem Orderly.turn (h : s.Orderly profile id sent) {t : Instant × Turn}
    (hpermits : s.Permits id t) : (s.turn id t).Orderly profile id sent := by
  obtain ⟨now, t⟩ := t
  cases t with
  | session => exact h.proceed
  | other op => exact h.disturb now op hpermits.1 hpermits.2

/-- A course stays orderly in every schedule. -/
theorem Orderly.run (h : s.Orderly profile id sent) {schedule : List (Instant × Turn)}
    (hadmits : s.Admits id schedule) : (s.run id schedule).Orderly profile id sent := by
  induction schedule generalizing s with
  | nil => exact h
  | cons t later ih => exact ih (h.turn hadmits.1) hadmits.2

/-- An operation of a session on its connection. -/
inductive Own (id : ConnectionId) : Operation → Prop
  | look : Own id (.state id)
  | deliver (chunk : Bytes) : Own id (.deliver id chunk)
  | collectMessages : Own id (.drainInbound id)
  | collectFrames : Own id (.drainOutbound id)
  | close : Own id (.close id)

/-- A step of the session either leaves the registry alone or is an operation on the connection. -/
theorem proceed_eq (s : Course) (id : ConnectionId) (now : Instant) :
    (s.proceed id now).registry = s.registry ∧ (s.proceed id now).past = s.past ∨
      ∃ op stage, Own id op ∧ s.proceed id now = s.does now op stage := by
  rw [Course.proceed]
  split
  · split
    · exact .inr ⟨_, _, .look, rfl⟩
    · exact .inr ⟨_, _, .look, rfl⟩
  · exact .inl ⟨rfl, rfl⟩
  · exact .inr ⟨_, _, .deliver _, rfl⟩
  · split
    · exact .inr ⟨_, _, .collectMessages, rfl⟩
    · exact .inr ⟨_, _, .collectMessages, rfl⟩
  · split
    · exact .inr ⟨_, _, .collectFrames, rfl⟩
    · exact .inr ⟨_, _, .collectFrames, rfl⟩
  · exact .inl ⟨rfl, rfl⟩
  · exact .inl ⟨rfl, rfl⟩
  · exact .inr ⟨_, _, .close, rfl⟩
  · exact .inl ⟨rfl, rfl⟩

/-- What the session does to a connection that is not established does not change its state. -/
theorem state_of_own {op : Operation} (hown : Own id op) {c : Connection}
    (hshut : c.state ≠ .established) : (op.apply profile now c).state = c.state := by
  cases hown with
  | look | collectMessages | collectFrames => rfl
  | deliver chunk =>
    have hdata : c.block.carriesData = false := decide_eq_false hshut
    rw [Operation.apply, Connection.receive_of_not_carriesData _ _ _ hdata]
  | close => rw [Operation.apply, Connection.closeAlong_teardown, if_neg hshut]

/-- What a session does not hear after its connection has been shut: anything. -/
theorem heard_of_shut {m : Moment} (hshut : m.before.state id ≠ .ok .established) :
    m.heard id = [] := by
  rw [Moment.heard]
  split
  · exact if_neg fun h => hshut h.2
  · rfl

/-- Once the connection is not established, it stays so in every turn, and nothing is heard. -/
theorem Orderly.turn_shut (h : s.Orderly profile id sent) {t : Instant × Turn}
    (hpermits : s.Permits id t) (hshut : s.registry.state id ≠ .ok .established) :
    (s.turn id t).registry.state id ≠ .ok .established ∧
      (s.turn id t).heard id = s.heard id := by
  obtain ⟨now, t⟩ := t
  have hheard : ∀ op stage, (s.does now op stage).heard id = s.heard id := by
    intro op stage
    have hnone : Moment.heard ⟨s.registry, now, op⟩ id = [] := heard_of_shut hshut
    rw [heard_does, hnone, List.append_nil]
  cases t with
  | session =>
    rw [Course.turn]
    rcases proceed_eq s id now with ⟨hregistry, hpast⟩ | ⟨op, stage, hown, hdoes⟩
    · rw [hregistry, heard, hpast]
      exact ⟨hshut, rfl⟩
    · rw [hdoes]
      refine ⟨fun hopen => ?_, hheard op stage⟩
      obtain ⟨c', hafter, hestablished⟩ := held_of_state hopen
      have hop : op.target? = some id := by cases hown <;> rfl
      rw [get?_does h now hop] at hafter
      obtain ⟨c, hget, rfl⟩ := Option.map_eq_some_iff.1 hafter
      have hbefore : c.state ≠ .established := fun heq =>
        hshut ((Registry.state_of_get? hget).trans (congrArg _ heq))
      exact hbefore ((state_of_own hown hbefore).symm.trans hestablished)
  | other op =>
    obtain ⟨hdataless, hstays⟩ := hpermits
    refine ⟨fun hopen => ?_, hheard op s.stage⟩
    obtain ⟨c', hafter, hestablished⟩ := held_of_state hopen
    have hget := h.established_before hdataless hstays hafter hestablished
    exact hshut ((Registry.state_of_get? hget).trans (congrArg _ hestablished))

/-- Once the connection is not established, nothing more is heard. -/
theorem Orderly.heard_run (h : s.Orderly profile id sent) {schedule : List (Instant × Turn)}
    (hadmits : s.Admits id schedule) (hshut : s.registry.state id ≠ .ok .established) :
    (s.run id schedule).heard id = s.heard id := by
  induction schedule generalizing s with
  | nil => rfl
  | cons t later ih =>
    obtain ⟨hpermits, hlater⟩ := hadmits
    obtain ⟨hstays, hheard⟩ := h.turn_shut hpermits hshut
    exact (ih (h.turn hpermits) hlater hstays).trans hheard

/-- A schedule is admitted if its first part is and, after that, the rest. -/
theorem admits_append {first later : List (Instant × Turn)}
    (h : s.Admits id (first ++ later)) : s.Admits id first ∧ (s.run id first).Admits id later := by
  induction first generalizing s with
  | nil => exact ⟨trivial, h⟩
  | cons t rest ih => exact ⟨⟨h.1, (ih h.2).1⟩, (ih h.2).2⟩

/-- In the beginning nothing is owed. -/
theorem owed_begin {opened : Registry} {c : Connection} (hheld : opened.Holds profile id c)
    (hopened : IsOpened c) {arrivals : List Arrival} {sink : Sink} :
    (begin opened arrivals sink).owed id = [] := by
  rw [owed, begin, Registry.pending_of_get? hheld.get?_eq, hopened.outbox_eq]
  rfl

/-- A session that has just opened its connection is in an orderly course. -/
theorem orderly_begin {opened : Registry} {c : Connection} (hheld : opened.Holds profile id c)
    (hopened : IsOpened c) (hunclosed : c.block.gracefullyClosed = false)
    (arrivals : List Arrival) (sink : Sink) :
    (begin opened arrivals sink).Orderly profile id (Arrival.chunks arrivals) where
  attended := by
    refine ⟨hheld.isSound, hheld.profile_eq, hheld.isSound.known id c hheld.get?_eq,
      fun c' hget => ?_, fun m hmem => by cases hmem⟩
    obtain rfl : c = c' := Option.some.inj (hheld.get?_eq.symm.trans hget)
    exact ⟨by rw [hopened.state_eq]; rfl, fun _ => hunclosed,
      fun _ => hopened.timedOut_eq⟩
  buffer_eq := rfl
  heard_prefix := List.nil_prefix
  owed_prefix := by
    rw [owed_begin hheld hopened]
    exact List.nil_prefix
  attentive := by
    intro _ c' hget _
    obtain rfl : c = c' := Option.some.inj (hheld.get?_eq.symm.trans hget)
    refine ⟨?_, owed_begin hheld hopened, rfl⟩
    rw [hopened.receiver_eq]
    exact Receiver.isClean_fresh.follows profile.frameLimit
  shut := by
    intro fault hdone
    cases hdone

end Course

end Session

end Switchboard
