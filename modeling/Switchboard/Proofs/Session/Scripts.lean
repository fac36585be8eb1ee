import Switchboard.Proofs.Session.Courses

/-!
# Scripts as courses

A session that runs a script takes one of its courses to the end (`leads_run`): the frames that it
writes at once are written one by one, what it reads passes through an empty read buffer, and others
act in the moments in which the script says so.
-/

namespace Switchboard

/-- A deed as an operation on the registry. -/
def Deed.operation (id : ConnectionId) (now : Instant) : Deed → Operation
  | reclaim => .reclaim now 0
  | purge => .purge
  | close => .close id
  | peerClose => .peerClose id
  | transition target => .transition id target
  | push text => .send id text

/-- A deed does what its operation does. -/
theorem Deed.perform_eq (deed : Deed) (id : ConnectionId) (now : Instant) (r : Registry) :
    (deed.perform id now r).2 = (r.perform now (deed.operation id now)).2 := by
  cases deed <;> rfl

/-- What somebody else does in an event, as an operation on the registry. -/
def Event.operation? (id : ConnectionId) (now : Instant) : Event → Option Operation
  | deed done => some (done.operation id now)
  | other op => some op
  | read _ => none
  | silence => none
  | failure _ => none

/-- The bytes that a note says were written. -/
def Note.bytes : Note → Bytes
  | wrote bytes => bytes
  | read _ => []
  | waited => []
  | readFailed _ => []
  | deed _ => []
  | endOfStream => []

namespace Sink

variable {sink : Sink} {first : Bytes}

/-- Writing nothing does nothing. -/
theorem write_nil (sink : Sink) : sink.write [] = ([], none, sink) := by
  obtain ⟨fault?⟩ := sink
  cases fault? <;> rfl

/-- A sink with a fault takes what it has room for. -/
theorem write_limited (room : Nat) (fault : IoFault) (bytes : Bytes) :
    Sink.write ⟨some (room, fault)⟩ bytes =
      if bytes.length ≤ room then (bytes, none, ⟨some (room - bytes.length, fault)⟩)
      else (bytes.take room, some fault, ⟨some (0, fault)⟩) := rfl

/-- A sink that fails takes nothing of what would come later. -/
theorem write_append_of_fault {fault : IoFault} (h : (sink.write first).2.1 = some fault)
    (rest : Bytes) : sink.write (first ++ rest) = sink.write first := by
  obtain ⟨fault?⟩ := sink
  cases fault? with
  | none => cases h
  | some limit =>
    obtain ⟨room, fault⟩ := limit
    rw [write_limited] at h ⊢
    split at h
    · cases h
    · next hlong =>
      have hlonger : ¬ (first ++ rest).length ≤ room := by
        rw [List.length_append]
        omega
      rw [write_limited, if_neg hlong, if_neg hlonger, List.take_append_of_le_length (by omega)]

/-- A sink that does not fail goes on with what comes later. -/
theorem write_append_of_none (h : (sink.write first).2.1 = none) (rest : Bytes) :
    sink.write (first ++ rest) =
      ((sink.write first).1 ++ ((sink.write first).2.2.write rest).1,
        ((sink.write first).2.2.write rest).2) := by
  obtain ⟨fault?⟩ := sink
  cases fault? with
  | none => rfl
  | some limit =>
    obtain ⟨room, fault⟩ := limit
    rw [write_limited] at h ⊢
    split at h
    · next hfits =>
      have hroom : (first ++ rest).length ≤ room ↔ rest.length ≤ room - first.length := by
        rw [List.length_append]
        omega
      rw [write_limited, if_pos hfits, write_limited]
      by_cases hrest : rest.length ≤ room - first.length
      · rw [if_pos (hroom.2 hrest), if_pos hrest, List.length_append, Nat.sub_sub]
      · rw [if_neg (mt hroom.1 hrest), if_neg hrest, List.take_append,
          List.take_of_length_le hfits]
    · cases h

end Sink

namespace Exchange

/-- A note adds the bytes that it says were written. -/
theorem written_note (x : Exchange) (n : Note) :
    Service.written (x.note n).account = Service.written x.account ++ n.bytes := by
  cases n <;> simp [Service.written, note, Note.bytes]

/-- What writing to a client does to an exchange. -/
theorem write_eq (x : Exchange) (bytes : Bytes) :
    (x.write bytes).1 = (x.sink.write bytes).2.1 ∧ (x.write bytes).2.registry = x.registry ∧
      (x.write bytes).2.sink = (x.sink.write bytes).2.2 ∧
      Service.written (x.write bytes).2.account =
        Service.written x.account ++ (x.sink.write bytes).1 := by
  rw [write]
  obtain ⟨taken, fault, sink⟩ := x.sink.write bytes
  cases taken with
  | nil => exact ⟨rfl, rfl, rfl, (List.append_nil _).symm⟩
  | cons byte rest => exact ⟨rfl, rfl, rfl, written_note _ (.wrote (byte :: rest))⟩

end Exchange

/-- What is refused changes nothing. -/
theorem Registry.act_refused {α : Type} {r : Registry} {id : ConnectionId}
    {action : Connection → α × Connection} {fault : Fault}
    (h : (r.act id action).1 = .error fault) : (r.act id action).2 = r := by
  rw [act] at h ⊢
  split at h
  · cases h
  · rfl

namespace Session

/-- What a client does in an event. -/
def Arrival.ofEvent? : Event → Option Arrival
  | .read chunk => some (.bytes chunk)
  | .silence => some .silence
  | .failure fault => some (.failure fault)
  | .deed _ | .other _ => none

/-- What a client does in a script. -/
def Arrival.ofScript (script : List (Instant × Event)) : List Arrival :=
  script.filterMap fun e => ofEvent? e.2

/-- The moments in which others act while a session with an empty read buffer serves a script: each
of them in the registry that serving what comes before has left. -/
def disturbances (id : ConnectionId) (looks : Bool) (script : List (Instant × Event))
    (x : Exchange) : List Moment :=
  script.zipIdx.filterMap fun (e, i) =>
    (e.2.operation? id e.1).map fun op =>
      ⟨(serve (ofId id) looks (script.take i) x).2.registry, e.1, op⟩

section Turns

variable {id : ConnectionId} {looks : Bool} {now : Instant} {later : List (Instant × Event)}
  {x : Exchange}

/-- A session that finds an obstacle ends. -/
theorem serve_obstacle {script : List (Instant × Event)} {fault : SessionFault}
    (hobstacle : (if looks then obstacle? id x.registry else none) = some fault) :
    serve (ofId id) looks script x = (fault, x) := by
  cases script with
  | nil => rw [serve, ofId, hobstacle]
  | cons e rest =>
    obtain ⟨now, event⟩ := e
    cases event <;> rw [serve, ofId, hobstacle]

/-- A script that has come to its end is the end of the client's stream. -/
theorem serve_nil (hgoes : (if looks then obstacle? id x.registry else none) = none) :
    serve (ofId id) looks [] x = (.clientDisconnected, x.note .endOfStream) := by
  rw [serve, ofId, hgoes]

/-- A session whose read fails ends. -/
theorem serve_failure {fault : IoFault}
    (hgoes : (if looks then obstacle? id x.registry else none) = none) :
    serve (ofId id) looks ((now, .failure fault) :: later) x =
      (.io fault, x.note (.readFailed fault)) := by
  rw [serve, ofId, hgoes]

/-- A silent client is waited for. -/
theorem serve_silence (hgoes : (if looks then obstacle? id x.registry else none) = none) :
    serve (ofId id) looks ((now, .silence) :: later) x =
      serve (ofId id) true later (x.note .waited) := by
  rw [serve, ofId, hgoes]

/-- A deed is done while the session waits. -/
theorem serve_deed {deed : Deed}
    (hgoes : (if looks then obstacle? id x.registry else none) = none) :
    serve (ofId id) looks ((now, .deed deed) :: later) x =
      serve (ofId id) false later ({ x with registry := (deed.perform id now x.registry).2 }.note
        (.deed (deed.perform id now x.registry).1)) := by
  rw [serve, ofId, hgoes]

/-- Others act while the session waits. -/
theorem serve_other {op : Operation}
    (hgoes : (if looks then obstacle? id x.registry else none) = none) :
    serve (ofId id) looks ((now, .other op) :: later) x =
      serve (ofId id) false later { x with registry := (x.registry.perform now op).2 } := by
  rw [serve, ofId, hgoes]

/-- A session that reads nothing ends. -/
theorem serve_read_nil (hgoes : (if looks then obstacle? id x.registry else none) = none) :
    serve (ofId id) looks ((now, .read []) :: later) x =
      (.clientDisconnected, x.note (.read 0)) := by
  rw [serve, ofId, hgoes]
  rfl

/-- What is read into the empty buffer is responded to, and if that goes well, the buffer is empty
again before the next read. -/
theorem serve_read {chunk : Bytes}
    (hgoes : (if looks then obstacle? id x.registry else none) = none) (hsome : chunk ≠ []) :
    serve (ofId id) looks ((now, .read chunk) :: later) x =
      match respond id chunk now (x.note (.read chunk.length)) with
      | (some fault, x) => (fault, x)
      | (none, x) => serve (ofId id) true later x := by
  have hread : chunk.isEmpty = false := List.isEmpty_eq_false_iff.2 hsome
  rw [serve, ofId, hgoes]
  simp only [hread, Bool.false_eq_true, if_false]
  rfl

/-- A session that cannot respond ends. -/
theorem serve_read_fault {chunk : Bytes} {fault : SessionFault}
    (hgoes : (if looks then obstacle? id x.registry else none) = none) (hsome : chunk ≠ [])
    (hfault : (respond id chunk now (x.note (.read chunk.length))).1 = some fault) :
    serve (ofId id) looks ((now, .read chunk) :: later) x =
      (fault, (respond id chunk now (x.note (.read chunk.length))).2) := by
  rw [serve_read hgoes hsome]
  generalize respond id chunk now (x.note (.read chunk.length)) = outcome at hfault ⊢
  obtain ⟨found, responded⟩ := outcome
  obtain rfl : found = some fault := hfault
  rfl

/-- A session that has responded goes on. -/
theorem serve_read_some {chunk : Bytes}
    (hgoes : (if looks then obstacle? id x.registry else none) = none) (hsome : chunk ≠ [])
    (hfault : (respond id chunk now (x.note (.read chunk.length))).1 = none) :
    serve (ofId id) looks ((now, .read chunk) :: later) x =
      serve (ofId id) true later (respond id chunk now (x.note (.read chunk.length))).2 := by
  rw [serve_read hgoes hsome]
  generalize respond id chunk now (x.note (.read chunk.length)) = outcome at hfault ⊢
  obtain ⟨found, responded⟩ := outcome
  obtain rfl : found = none := hfault
  rfl

/-- Where frames can be collected, writing back writes them. -/
theorem flush_eq {frames : List Bytes} (hframes : (x.registry.drainOutbound id).1 = .ok frames) :
    flush id x =
      (({ x with registry := (x.registry.drainOutbound id).2 }.write frames.flatten).1.map .io,
        ({ x with registry := (x.registry.drainOutbound id).2 }.write frames.flatten).2) := by
  rw [flush]
  generalize x.registry.drainOutbound id = outcome at hframes ⊢
  obtain ⟨collected, drained⟩ := outcome
  obtain rfl : collected = .ok frames := hframes
  rfl

/-- Where frames cannot be collected, the session ends. -/
theorem flush_refused {fault : Fault} (hframes : (x.registry.drainOutbound id).1 = .error fault) :
    flush id x = (some (.connection fault), x) := by
  rw [flush]
  generalize x.registry.drainOutbound id = outcome at hframes ⊢
  obtain ⟨collected, drained⟩ := outcome
  obtain rfl : collected = .error fault := hframes
  rfl

/-- Where messages can be collected, responding collects them and writes back. -/
theorem respond_eq {messages : List Message} {chunk : Bytes} {now : Instant}
    (hmessages : ((x.registry.deliver id chunk now).2.drainInbound id).1 = .ok messages) :
    respond id chunk now x = flush id
      { x with registry := ((x.registry.deliver id chunk now).2.drainInbound id).2 } := by
  simp only [respond]
  generalize (x.registry.deliver id chunk now).2.drainInbound id = outcome at hmessages ⊢
  obtain ⟨collected, drained⟩ := outcome
  obtain rfl : collected = .ok messages := hmessages
  rfl

/-- Where messages cannot be collected, the session ends. -/
theorem respond_refused {chunk : Bytes} {fault : Fault}
    (hmessages : ((x.registry.deliver id chunk now).2.drainInbound id).1 = .error fault) :
    respond id chunk now x = (some (.connection fault),
      { x with registry := ((x.registry.deliver id chunk now).2.drainInbound id).2 }) := by
  simp only [respond]
  generalize (x.registry.deliver id chunk now).2.drainInbound id = outcome at hmessages ⊢
  obtain ⟨collected, drained⟩ := outcome
  obtain rfl : collected = .error fault := hmessages
  rfl

/-- Serving nothing does not act on the registry. -/
theorem registry_serve_nil (id : ConnectionId) (looks : Bool) (x : Exchange) :
    (serve (ofId id) looks [] x).2.registry = x.registry := by
  cases hgoes : if looks then obstacle? id x.registry else none with
  | some fault => rw [serve_obstacle hgoes]
  | none =>
    rw [serve_nil hgoes]
    rfl

/-- Where the session goes on after an event, others act in the event and after it. -/
theorem disturbances_cons {looks' : Bool} {e : Instant × Event} {x' : Exchange}
    (hserve : ∀ front, serve (ofId id) looks (e :: front) x = serve (ofId id) looks' front x') :
    disturbances id looks (e :: later) x =
      ((e.2.operation? id e.1).map fun op => ⟨x.registry, e.1, op⟩).toList ++
        disturbances id looks' later x' := by
  simp only [disturbances, List.zipIdx_cons, List.filterMap_cons, List.take_zero,
    registry_serve_nil, Nat.zero_add, List.zipIdx_succ, List.filterMap_map, Function.comp_def,
    List.take_succ_cons, hserve]
  cases e.2.operation? id e.1 <;> rfl

end Turns

namespace Course

/-- From the first course the second one can be reached, where others act in these moments. -/
def Leads (id : ConnectionId) (ms : List Moment) (s s' : Course) : Prop :=
  ∃ schedule, s.disturbances id schedule = ms ∧ s.run id schedule = s'

/-- The course has got as far as the exchange, and nothing is left in its read buffer. -/
structure Mirrors (s : Course) (x : Exchange) : Prop where
  registry_eq : s.registry = x.registry
  sink_eq : s.sink = x.sink
  written_eq : s.written = Service.written x.account
  buffer_eq : s.buffer = ReadBuffer.empty

variable {id : ConnectionId} {s middle last : Course} {x x' : Exchange} {now : Instant}
  {ms later : List Moment} {looks : Bool}

/-- What others do in a longer schedule. -/
theorem disturbances_append (id : ConnectionId) (s : Course)
    (first second : List (Instant × Turn)) :
    s.disturbances id (first ++ second) =
      s.disturbances id first ++ (s.run id first).disturbances id second := by
  induction first generalizing s with
  | nil => rfl
  | cons t rest ih =>
    obtain ⟨now, t⟩ := t
    cases t with
    | session => exact ih _
    | other op => exact congrArg _ (ih _)

/-- A course leads on from where another one has led. -/
theorem Leads.trans (h : Leads id ms s middle) (hlater : Leads id later middle last) :
    Leads id (ms ++ later) s last := by
  obtain ⟨first, rfl, rfl⟩ := h
  obtain ⟨second, rfl, rfl⟩ := hlater
  exact ⟨first ++ second, disturbances_append id s first second, List.foldl_append⟩

/-- A course has led to itself. -/
theorem leads_refl (s : Course) : Leads id [] s s :=
  ⟨[], rfl, rfl⟩

/-- The session takes a step. -/
theorem leads_proceed (id : ConnectionId) (s : Course) (now : Instant) :
    Leads id [] s (s.proceed id now) :=
  ⟨[(now, .session)], rfl, rfl⟩

/-- Somebody else acts. -/
theorem leads_does (s : Course) (now : Instant) (op : Operation) :
    Leads id [⟨s.registry, now, op⟩] s (s.does now op s.stage) :=
  ⟨[(now, .other op)], rfl, rfl⟩

/-- The session goes on, or comes to its end if something is wrong. -/
def onward : Option SessionFault → Stage
  | none => .looking
  | some fault => .closing fault

/-- Frames are written one by one as they would be at once. -/
theorem leads_writing (id : ConnectionId) {frames : List Bytes}
    (hstage : s.stage = .writing frames) :
    ∃ s', Leads id [] s s' ∧
      s'.stage = onward ((s.sink.write frames.flatten).2.1.map .io) ∧
      s'.arrivals = s.arrivals ∧ s'.buffer = s.buffer ∧ s'.registry = s.registry ∧
      s'.sink = (s.sink.write frames.flatten).2.2 ∧
      s'.written = s.written ++ (s.sink.write frames.flatten).1 := by
  induction frames generalizing s with
  | nil =>
    have hproceed : s.proceed id 0 = { s with stage := .looking } := by rw [proceed, hstage]
    refine ⟨_, leads_proceed id s 0, ?_⟩
    rw [hproceed, List.flatten_nil, Sink.write_nil]
    exact ⟨rfl, rfl, rfl, rfl, rfl, (List.append_nil _).symm⟩
  | cons frame rest ih =>
    rw [List.flatten_cons]
    cases hfault : (s.sink.write frame).2.1 with
    | some fault =>
      have hproceed : s.proceed id 0 =
          { s with
            stage := .closing (.io fault)
            sink := (s.sink.write frame).2.2
            written := s.written ++ (s.sink.write frame).1 } := by
        simp only [proceed, hstage, hfault]
      refine ⟨_, leads_proceed id s 0, ?_⟩
      rw [hproceed, Sink.write_append_of_fault hfault, hfault]
      exact ⟨rfl, rfl, rfl, rfl, rfl, rfl⟩
    | none =>
      let next : Course :=
        { s with
          stage := .writing rest
          sink := (s.sink.write frame).2.2
          written := s.written ++ (s.sink.write frame).1 }
      have hproceed : s.proceed id 0 = next := by simp only [proceed, hstage, hfault, next]
      have hfirst := leads_proceed id s 0
      rw [hproceed] at hfirst
      have hnext : next.stage = .writing rest := rfl
      obtain ⟨s', hleads, hstage', harrivals, hbuffer, hregistry, hsink, hwritten⟩ := ih hnext
      rw [Sink.write_append_of_none hfault]
      exact ⟨s', hfirst.trans hleads, hstage', harrivals, hbuffer, hregistry, hsink,
        hwritten.trans (List.append_assoc _ _ _)⟩

/-- A course that acts on the registry keeps up with an exchange in which that is done. -/
theorem Mirrors.does (hx : s.Mirrors x) (now : Instant) (op : Operation) (stage : Stage) :
    (s.does now op stage).Mirrors { x with registry := (x.registry.perform now op).2 } where
  registry_eq := by
    rw [← hx.registry_eq]
    rfl
  sink_eq := hx.sink_eq
  written_eq := hx.written_eq
  buffer_eq := hx.buffer_eq

/-- A course that collects the messages keeps up with an exchange in which they are collected. -/
theorem Mirrors.collects (hx : s.Mirrors x) (stage : Stage) :
    (s.does 0 (.drainInbound id) stage).Mirrors
      { x with registry := (x.registry.drainInbound id).2 } :=
  hx.does 0 (.drainInbound id) stage

/-- Writing frames one by one is writing all of them. -/
theorem leads_write (id : ConnectionId) {frames : List Bytes} (hstage : s.stage = .writing frames)
    (hx : s.Mirrors x) :
    ∃ s', Leads id [] s s' ∧ s'.Mirrors (x.write frames.flatten).2 ∧
      s'.stage = onward ((x.write frames.flatten).1.map .io) ∧ s'.arrivals = s.arrivals := by
  obtain ⟨s', hleads, hstage', harrivals, hbuffer, hregistry, hsink, hwritten⟩ :=
    leads_writing id hstage
  obtain ⟨hfault, hsame, hsink', haccount⟩ := x.write_eq frames.flatten
  rw [hx.sink_eq] at hstage' hsink hwritten
  refine ⟨s', hleads, ⟨?_, hsink.trans hsink'.symm, ?_, hbuffer.trans hx.buffer_eq⟩, ?_, harrivals⟩
  · rw [hregistry, hx.registry_eq, hsame]
  · rw [hwritten, hx.written_eq, haccount]
  · rw [hstage', hfault]

/-- Fetching the frames and writing them is flushing. -/
theorem leads_flush (id : ConnectionId) (hstage : s.stage = .fetching) (hx : s.Mirrors x) :
    ∃ s', Leads id [] s s' ∧ s'.Mirrors (flush id x).2 ∧ s'.stage = onward (flush id x).1 ∧
      s'.arrivals = s.arrivals := by
  have hfirst := leads_proceed id s 0
  rcases drainOutbound_eq x.registry id with hframes | ⟨fault, hfault⟩
  · have hproceed : s.proceed id 0 =
        s.does 0 (.drainOutbound id) (.writing (x.registry.pending id)) := by
      simp only [proceed, hstage, hx.registry_eq, hframes]
    rw [hproceed] at hfirst
    obtain ⟨s', hleads, hmirrors, hstage', harrivals⟩ := leads_write id rfl
      (hx.does 0 (.drainOutbound id) (.writing (x.registry.pending id)))
    rw [flush_eq hframes]
    exact ⟨s', hfirst.trans hleads, hmirrors, hstage', harrivals⟩
  · have hproceed : s.proceed id 0 =
        s.does 0 (.drainOutbound id) (.closing (.connection fault)) := by
      simp only [proceed, hstage, hx.registry_eq, hfault]
    have hsame : (x.registry.perform 0 (.drainOutbound id)).2 = x.registry :=
      Registry.act_refused hfault
    have hmirrors := hx.does 0 (.drainOutbound id) (.closing (.connection fault))
    rw [hsame] at hmirrors
    rw [hproceed] at hfirst
    rw [flush_refused hfault]
    exact ⟨_, hfirst, hmirrors, rfl, rfl⟩

/-- Delivering, collecting the messages and flushing is responding. -/
theorem leads_respond (id : ConnectionId) {chunk : Bytes} (hstage : s.stage = .delivering chunk)
    (hx : s.Mirrors x) (now : Instant) :
    ∃ s', Leads id [] s s' ∧ s'.Mirrors (respond id chunk now x).2 ∧
      s'.stage = onward (respond id chunk now x).1 ∧ s'.arrivals = s.arrivals := by
  have hdeliver : s.proceed id now = s.does now (.deliver id chunk) .collecting := by
    simp only [proceed, hstage]
  have hfirst := leads_proceed id s now
  rw [hdeliver] at hfirst
  have hheard : (s.does now (.deliver id chunk) .collecting).Mirrors
      { x with registry := (x.registry.deliver id chunk now).2 } :=
    hx.does now (.deliver id chunk) .collecting
  have hsecond := leads_proceed id (s.does now (.deliver id chunk) .collecting) 0
  have hcollecting : (s.does now (.deliver id chunk) .collecting).stage = .collecting := rfl
  have hregistry : (s.does now (.deliver id chunk) .collecting).registry =
      (x.registry.deliver id chunk now).2 := hheard.registry_eq
  cases hmessages : ((x.registry.deliver id chunk now).2.drainInbound id).1 with
  | ok messages =>
    have hcollect : (s.does now (.deliver id chunk) .collecting).proceed id 0 =
        (s.does now (.deliver id chunk) .collecting).does 0 (.drainInbound id) .fetching := by
      simp only [proceed, hcollecting, hregistry, hmessages]
    rw [hcollect] at hsecond
    obtain ⟨s', hleads, hmirrors, hstage', harrivals⟩ :=
      leads_flush id rfl (hheard.collects .fetching)
    rw [respond_eq hmessages]
    exact ⟨s', (hfirst.trans hsecond).trans hleads, hmirrors, hstage', harrivals⟩
  | error fault =>
    have hcollect : (s.does now (.deliver id chunk) .collecting).proceed id 0 =
        (s.does now (.deliver id chunk) .collecting).does 0 (.drainInbound id)
          (.closing (.connection fault)) := by
      simp only [proceed, hcollecting, hregistry, hmessages]
    rw [hcollect] at hsecond
    rw [respond_refused hmessages]
    exact ⟨_, hfirst.trans hsecond, hheard.collects _, rfl, rfl⟩

/-- A course whose session looks after its connection, or waits in a read. -/
def atTurn (looks : Bool) : Stage :=
  if looks then .looking else .reading

/-- Looking after the connection finds an obstacle, or the session reads. -/
theorem leads_look (id : ConnectionId) {looks : Bool} (hstage : s.stage = atTurn looks)
    (hx : s.Mirrors x) :
    ∃ s', Leads id [] s s' ∧ s'.Mirrors x ∧ s'.arrivals = s.arrivals ∧
      s'.stage = match if looks then obstacle? id x.registry else none with
        | some fault => .closing fault
        | none => .reading := by
  cases looks with
  | false => exact ⟨s, leads_refl s, hx, rfl, hstage⟩
  | true =>
    have hlooking : s.stage = .looking := hstage
    refine ⟨_, leads_proceed id s 0, ?_⟩
    rw [if_pos rfl]
    cases hobstacle : obstacle? id x.registry with
    | some fault =>
      have hproceed : s.proceed id 0 = s.does 0 (.state id) (.closing fault) := by
        simp only [proceed, hlooking, hx.registry_eq, hobstacle]
      rw [hproceed]
      exact ⟨hx.does 0 (.state id) (.closing fault), rfl, rfl⟩
    | none =>
      have hproceed : s.proceed id 0 = s.does 0 (.state id) .reading := by
        simp only [proceed, hlooking, hx.registry_eq, hobstacle]
      rw [hproceed]
      exact ⟨hx.does 0 (.state id) .reading, rfl, rfl⟩

/-- A note that says nothing of written bytes keeps an exchange in step with a course. -/
theorem Mirrors.note (hx : s.Mirrors x) {n : Note} (hn : n.bytes = []) : s.Mirrors (x.note n) where
  registry_eq := hx.registry_eq
  sink_eq := hx.sink_eq
  written_eq := by rw [Exchange.written_note, hn, List.append_nil, hx.written_eq]
  buffer_eq := hx.buffer_eq

/-- Reading takes in the next thing that the client does, and leaves the read buffer empty. -/
theorem leads_arrival (id : ConnectionId) (hstage : s.stage = .reading) (hx : s.Mirrors x) :
    ∃ s', Leads id [] s s' ∧ s'.Mirrors x ∧
      s'.stage = (Stage.after ReadBuffer.empty s.arrivals).1 ∧
      s'.arrivals = (Stage.after ReadBuffer.empty s.arrivals).2.1 := by
  have hproceed : s.proceed id 0 =
      { s with
        stage := (Stage.after ReadBuffer.empty s.arrivals).1
        arrivals := (Stage.after ReadBuffer.empty s.arrivals).2.1
        buffer := (Stage.after ReadBuffer.empty s.arrivals).2.2 } := by
    simp only [proceed, hstage, hx.buffer_eq]
  have hleads := leads_proceed id s 0
  rw [hproceed] at hleads
  exact ⟨_, hleads, ⟨hx.registry_eq, hx.sink_eq, hx.written_eq, Stage.after_buffer _⟩, rfl, rfl⟩

/-- A script that is served as one of the courses of the session, in which others act in the moments
of the script, or only in the first of them if the session ends before. -/
def Coursed (id : ConnectionId) (looks : Bool) (script : List (Instant × Event)) (s : Course)
    (x : Exchange) : Prop :=
  ∃ ms s', ms <+: Session.disturbances id looks script x ∧ Leads id ms s s' ∧
    s'.Mirrors (serve (ofId id) looks script x).2 ∧
    s'.stage = .closing (serve (ofId id) looks script x).1

/-- What leads to a served script is part of serving a longer one. -/
theorem Coursed.after {e : Instant × Event} {rest : List (Instant × Event)} {looks' : Bool}
    (h : Coursed id looks' rest middle x')
    (hserve : ∀ front, serve (ofId id) looks (e :: front) x = serve (ofId id) looks' front x')
    (hleads : Leads id ms s middle)
    (hms : ms = ((e.2.operation? id e.1).map fun op => ⟨x.registry, e.1, op⟩).toList) :
    Coursed id looks (e :: rest) s x := by
  obtain ⟨more, s', hprefix, hrest, hmirrors, hstage⟩ := h
  rw [← hserve] at hmirrors hstage
  refine ⟨ms ++ more, s', ?_, hleads.trans hrest, hmirrors, hstage⟩
  rw [disturbances_cons hserve, hms]
  exact (List.prefix_append_right_inj _).2 hprefix

/-- A session that has come to its end serves no more of the script. -/
theorem coursed_of_closing {script : List (Instant × Event)} {fault : SessionFault}
    (hserve : serve (ofId id) looks script x = (fault, x')) (hleads : Leads id [] s last)
    (hx : last.Mirrors x') (hstage : last.stage = .closing fault) :
    Coursed id looks script s x := by
  refine ⟨[], last, List.nil_prefix, hleads, ?_, ?_⟩ <;> rw [hserve]
  exacts [hx, hstage]

/-- What is read next is served as one of the courses, if the rest of the script is. -/
theorem coursed_read {script : List (Instant × Event)} {chunk : Bytes} {arrivals : List Arrival}
    (hgoes : (if looks then obstacle? id x.registry else none) = none)
    (hread : Leads id [] s middle)
    (hstage : middle.stage = (Stage.after ReadBuffer.empty (.bytes chunk :: arrivals)).1)
    (hx : middle.Mirrors x)
    (hrest : ∀ (s' : Course) (x : Exchange), s'.stage = .looking → s'.Mirrors x →
      s'.arrivals = middle.arrivals → Coursed id true script s' x) :
    Coursed id looks ((now, .read chunk) :: script) s x := by
  rw [Stage.after_bytes] at hstage
  by_cases hsome : chunk = []
  · subst hsome
    exact coursed_of_closing (serve_read_nil hgoes) hread (hx.note rfl) hstage
  · rw [if_neg hsome] at hstage
    obtain ⟨s', hleads, hmirrors, hstage', harrivals⟩ := leads_respond id hstage
      (hx.note (n := .read chunk.length) rfl) now
    cases hfault : (respond id chunk now (x.note (.read chunk.length))).1 with
    | some fault =>
      rw [hfault] at hstage'
      exact coursed_of_closing (serve_read_fault hgoes hsome hfault) (hread.trans hleads) hmirrors
        hstage'
    | none =>
      rw [hfault] at hstage'
      exact (hrest s' _ hstage' hmirrors harrivals).after
        (fun _ => serve_read_some hgoes hsome hfault) (hread.trans hleads) rfl

/-- Every script is served as one of the courses of the session. -/
theorem coursed_serve (id : ConnectionId) (script : List (Instant × Event)) :
    ∀ (looks : Bool) (s : Course) (x : Exchange), s.stage = atTurn looks → s.Mirrors x →
      s.arrivals = Arrival.ofScript script → Coursed id looks script s x := by
  induction script with
  | nil =>
    intro looks s x hstage hx harrivals
    obtain ⟨looked, hlooked, hmirrors, hsame, hstage'⟩ := leads_look id hstage hx
    cases hgoes : if looks then obstacle? id x.registry else none with
    | some fault =>
      rw [hgoes] at hstage'
      exact coursed_of_closing (serve_obstacle hgoes) hlooked hmirrors hstage'
    | none =>
      rw [hgoes] at hstage'
      obtain ⟨s', hleads, hmirrors', hended, -⟩ := leads_arrival id hstage' hmirrors
      rw [hsame.trans harrivals] at hended
      exact coursed_of_closing (serve_nil hgoes) (hlooked.trans hleads) (hmirrors'.note rfl) hended
  | cons e later ih =>
    intro looks s x hstage hx harrivals
    obtain ⟨now, event⟩ := e
    obtain ⟨looked, hlooked, hmirrors, hsame, hstage'⟩ := leads_look id hstage hx
    cases hgoes : if looks then obstacle? id x.registry else none with
    | some fault =>
      rw [hgoes] at hstage'
      exact coursed_of_closing (serve_obstacle hgoes) hlooked hmirrors hstage'
    | none =>
      rw [hgoes] at hstage'
      have harrived := leads_arrival id hstage' hmirrors
      rw [hsame.trans harrivals] at harrived
      have hacts : ∀ op, Leads id [⟨x.registry, now, op⟩] s (looked.does now op looked.stage) := by
        intro op
        rw [← hmirrors.registry_eq]
        exact hlooked.trans (leads_does looked now op)
      cases event with
      | deed deed =>
        have hdone := hmirrors.does now (deed.operation id now) looked.stage
        rw [← deed.perform_eq id now] at hdone
        exact (ih false (looked.does now (deed.operation id now) looked.stage) _ hstage'
          (hdone.note rfl) (hsame.trans harrivals)).after (fun _ => serve_deed hgoes)
          (hacts (deed.operation id now)) rfl
      | other op =>
        exact (ih false (looked.does now op looked.stage) _ hstage'
          (hmirrors.does now op looked.stage) (hsame.trans harrivals)).after
          (fun _ => serve_other hgoes) (hacts op) rfl
      | failure fault =>
        obtain ⟨s', hleads, hmirrors', hended, -⟩ := harrived
        exact coursed_of_closing (serve_failure hgoes) (hlooked.trans hleads)
          (hmirrors'.note rfl) hended
      | silence =>
        obtain ⟨s', hleads, hmirrors', hlooking, hlater⟩ := harrived
        exact (ih true s' _ hlooking (hmirrors'.note rfl) hlater).after
          (fun _ => serve_silence hgoes) (hlooked.trans hleads) rfl
      | read chunk =>
        obtain ⟨s', hleads, hmirrors', hread, hlater⟩ := harrived
        refine coursed_read hgoes (hlooked.trans hleads) hread hmirrors' ?_
        intro s'' x' hlooking hx' hsame'
        have hofScript : Arrival.ofScript ((now, .read chunk) :: later) =
            .bytes chunk :: Arrival.ofScript later := rfl
        rw [hofScript, Stage.after_bytes] at hlater
        exact ih true s'' x' hlooking hx' (hsame'.trans hlater)

/-- A session that runs a script takes one of its courses to the end. -/
theorem leads_run (id : ConnectionId) (script : List (Instant × Event)) (closing : Instant)
    (opened : Registry) (sink : Sink) :
    ∃ schedule,
      (begin opened (Arrival.ofScript script) sink).disturbances id schedule <+:
        Session.disturbances id true script ⟨opened, sink, []⟩ ∧
      ((begin opened (Arrival.ofScript script) sink).run id schedule).Mirrors
        (Session.run id script closing ⟨opened, sink, []⟩).2 ∧
      ((begin opened (Arrival.ofScript script) sink).run id schedule).stage =
        .done (Session.run id script closing ⟨opened, sink, []⟩).1 := by
  obtain ⟨ms, s, hprefix, hleads, hmirrors, hstage⟩ := coursed_serve id script true
    (begin opened (Arrival.ofScript script) sink) ⟨opened, sink, []⟩ rfl ⟨rfl, rfl, rfl, rfl⟩ rfl
  obtain ⟨schedule, hms, hlast⟩ := hleads.trans (leads_proceed id s closing)
  have hproceed : s.proceed id closing = s.does closing (.close id)
      (.done (serve (ofId id) true script ⟨opened, sink, []⟩).1) := by
    simp only [proceed, hstage]
  rw [List.append_nil] at hms
  refine ⟨schedule, hms ▸ hprefix, ?_, ?_⟩
  · rw [hlast, hproceed]
    exact hmirrors.does closing (.close id) _
  · rw [hlast, hproceed]
    rfl

end Course

end Session

end Switchboard
