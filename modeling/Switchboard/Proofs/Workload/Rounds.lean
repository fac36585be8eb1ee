import Switchboard.Proofs.Workload.Traffic

/-!
# Whole rounds

A round on any sound registry: a batch is made and opened, talks, and half of it is closed; then idle
connections may be reclaimed, a burst may be sent, and everything is collected. The phases one after
the other do what the report of the round says (`round_spec`), so a round can be told in numbers
(`Round.work`) up to the frames that are thrown away where connections are forced closed.

Connections that were held before a round are reached by its last three phases. If all of them have
been opened, and perhaps closed since, the same is true after the round.
-/

namespace Switchboard

/-- How far connections may have come that have been opened, and perhaps closed since. -/
def Life.sinceOpened : List Life := [opened, takenDown, reclaimed]

/-- What has been opened is open, or has been closed in order or by force. -/
theorem Life.mem_sinceOpened {life : Life} :
    life ∈ sinceOpened ↔ life = opened ∨ life = takenDown ∨ life = reclaimed := by
  simp [sinceOpened]

namespace Registry

variable {r after : Registry} {id : ConnectionId} {c : Connection}

/-- Every connection that is held has been opened, and perhaps closed since. -/
def AllOpened (r : Registry) : Prop :=
  ∀ id c, r.get? id = some c → c.life ∈ Life.sinceOpened

/-- Everything that was transmitted or dispatched has been collected. -/
def AllCollected (r : Registry) : Prop :=
  ∀ id c, r.get? id = some c → c.inbox = Queue.empty ∧ c.outbox = Queue.empty

/-- Connections stay opened where none of them comes farther. -/
theorem AllOpened.of_alike (h : r.AllOpened) (halike : r.Alike after) : after.AllOpened := by
  intro id c' hget
  obtain ⟨c, hbefore, hlife⟩ := halike.exists_of_get? hget
  exact hlife ▸ h id c hbefore

/-- A connection that is idle for too long was opened and not closed since, and is reclaimed. -/
theorem AllOpened.of_reclaim (hopened : r.AllOpened) (h : r.IsSound) (instant : Instant)
    (threshold : Nat) (now : Instant) :
    (r.perform now (.reclaim instant threshold)).2.AllOpened := by
  intro id c' hget
  rw [get?_perform h] at hget
  obtain hborn | ⟨c, hbefore, -, heffect⟩ := hget
  · cases hborn
  · have hlife := hopened id c hbefore
    have heffect : (if c.isStale instant threshold then c.forced now else c) = c' := heffect
    split at heffect
    · next hstale =>
      have hopen : c.life.state ≠ .closed := Connection.open_of_isStale hstale
      have hopened : c.life = Life.opened := by
        rcases Life.mem_sinceOpened.1 hlife with hlife | hlife | hlife
        · exact hlife
        · exact absurd (hlife ▸ rfl) hopen
        · exact absurd (hlife ▸ rfl) hopen
      obtain ⟨-, htransitions, -, hgraceful⟩ := Life.mk.inj hopened
      have hforced : (c.forced now).life = ⟨.closed, c.block.transitions + 1, true,
        c.block.gracefullyClosed⟩ := rfl
      rw [← heffect, hforced, htransitions, hgraceful]
      exact Life.mem_sinceOpened.2 (.inr (.inr rfl))
    · exact heffect ▸ hlife

end Registry

namespace Workload

variable {σ : Type} {d : Draws σ} (around : Surroundings) {w : Stage σ}

section Phases

/-- Make a batch and open its connections; the number is that of those that were opened. -/
def openBatch (around : Surroundings) (plan : Workload) (w : Stage σ) :
    (Array ConnectionId × Nat) × Stage σ :=
  let (batch, w) := createBatch around (List.range plan.connections) w
  let (established, w) := w.countEach (establishOne around) batch.toList
  ((batch, established), w)

/-- Let the connections of a batch talk, if there are any. -/
def talkAll (d : Draws σ) (around : Surroundings) (plan : Workload) (batch : Array ConnectionId)
    (w : Stage σ) : (Nat × Nat) × Stage σ :=
  if batch.isEmpty then ((0, 0), w)
  else talk d around batch (plan.connections * plan.messagesPerConnection) 0 0 w

/-- Close a random half of a batch, and count it. -/
def closeHalf (d : Draws σ) (around : Surroundings) (batch : Array ConnectionId) (w : Stage σ) :
    Nat × Stage σ :=
  let (chosen, w) := w.draw (d.sample batch.size (batch.size / 2))
  w.countEach (closeOne around batch) chosen

/-- Reclaim idle connections if the number of the round says so, and count them. -/
def reclaimIdle (around : Surroundings) (idleTimeout number : Nat) (w : Stage σ) :
    Nat × Stage σ :=
  if number % reclaimEvery = 0 then w.act around fun r now => r.reclaim idleTimeout now
  else (0, w)

/-- Send a burst if the number of the round says so and something is established, and count its
frames. -/
def burstAll (d : Draws σ) (around : Surroundings) (number : Nat) (w : Stage σ) :
    Nat × Stage σ :=
  let targets := (establishedIds w.registry).toArray
  if number % burstEvery = 0 && !targets.isEmpty then
    w.countEach (fun _ w => burstOne d around targets w) (List.range burstSize)
  else (0, w)

/-- Collect from every connection, and count the frames. -/
def collectAll (around : Surroundings) (w : Stage σ) : Nat × Stage σ :=
  w.countEach (collectOne around) w.registry.ids

/-- A round is one phase after the other. -/
theorem round_eq (d : Draws σ) (plan : Workload) (idleTimeout number : Nat) (w : Stage σ) :
    let opened := openBatch around plan w
    let talked := talkAll d around plan opened.1.1 opened.2
    let closed := closeHalf d around opened.1.1 talked.2
    let reclaimed := reclaimIdle around idleTimeout number closed.2
    let burst := burstAll d around number reclaimed.2
    let collected := collectAll around burst.2
    round d around plan idleTimeout number w =
      ({ created := opened.1.1.size
         established := opened.1.2
         sent := talked.1.1
         received := talked.1.2
         closed := closed.1
         burst := burst.1
         reclaimed := reclaimed.1
         drained := collected.1
         elapsed := around.instant collected.2.operations - around.instant w.operations },
        collected.2) := by
  rfl

/-- The stage of a round in which it is decided whether there is a burst: the batch has talked and is
half closed, and idle connections have been reclaimed. -/
def beforeBurst (d : Draws σ) (around : Surroundings) (plan : Workload) (idleTimeout number : Nat)
    (w : Stage σ) : Stage σ :=
  let opened := openBatch around plan w
  let talked := talkAll d around plan opened.1.1 opened.2
  let closed := closeHalf d around opened.1.1 talked.2
  (reclaimIdle around idleTimeout number closed.2).2

/-- Nothing is drawn where none of the deeds draws. -/
theorem source_countEach {α : Type} {deed : α → Stage σ → Nat × Stage σ}
    (hdeed : ∀ element w, (deed element w).2.source = w.source) (elements : List α) (w : Stage σ) :
    (w.countEach deed elements).2.source = w.source := by
  induction elements generalizing w with
  | nil => rfl
  | cons element rest ih =>
    rw [Stage.countEach_cons]
    exact (ih _).trans (hdeed element w)

/-- Nothing is drawn to make a batch and to open it. -/
theorem source_openBatch (plan : Workload) (w : Stage σ) :
    (openBatch around plan w).2.source = w.source := by
  have hcreated : ∀ numbers, (createBatch around numbers w).2.source = w.source := by
    intro numbers
    induction numbers using List.reverseRecOn with
    | nil => rfl
    | append_singleton numbers i ih =>
      rw [createBatch_append_singleton]
      exact ih
  have hopened : ∀ id (w : Stage σ), (establishOne around id w).2.source = w.source :=
    fun _ _ => rfl
  exact (source_countEach hopened _ _).trans (hcreated _)

/-- A batch of the planned size is made and opened, and nothing else happens. -/
theorem openBatch_spec (plan : Workload) (h : w.registry.IsSound) :
    let outcome := openBatch around plan w
    let batch := outcome.1.1
    batch.size = plan.connections ∧ batch.toList.Nodup ∧ outcome.1.2 = plan.connections ∧
      w.registry.Worked { created := plan.connections, opened := plan.connections }
        outcome.2.registry ∧
      (∀ id ∈ batch.toList, ∃ c, outcome.2.registry.get? id = some c ∧ c.Ready) ∧
      ∀ id, id ∉ batch.toList → outcome.2.registry.get? id = w.registry.get? id := by
  obtain ⟨hsize, hnodup, hcreated, hmade, hother⟩ :=
    createBatch_spec around h (List.range plan.connections)
  obtain ⟨hopened, hvisited, hunvisited, hcount⟩ := Stage.countEach_visits id
    (fun n => { opened := n }) rfl (fun _ _ => rfl)
    (fun id _ => visits_establishOne around id) (by rwa [List.map_id]) hcreated.isSound hmade
  rw [List.length_range] at hsize hcreated
  have hcount := hcount fun _ hone => hone
  rw [Array.length_toList, hsize] at hcount
  refine ⟨hsize, hnodup, hcount, ?_, ?_, ?_⟩
  · have hboth := hcreated.trans hopened
    rw [hcount] at hboth
    simp only [Work.add_eq, Nat.zero_add, Nat.add_zero] at hboth
    exact hboth
  · intro id hid
    obtain ⟨-, c, -, hget, hready⟩ := hvisited id hid
    exact ⟨c, hget, hready⟩
  · intro id hid
    refine (hunvisited id ?_).trans (hother id hid)
    rwa [List.map_id]

/-- In a batch of the planned size that is ready, all the planned lines are sent, and the answers to
them heard. -/
theorem talkAll_spec (hfair : d.Fair) (plan : Workload) {batch : Array ConnectionId}
    (hsize : batch.size = plan.connections) (h : w.registry.IsSound)
    (hready : ∀ id ∈ batch.toList, ∃ c, w.registry.get? id = some c ∧ c.Ready) :
    let times := plan.connections * plan.messagesPerConnection
    let outcome := talkAll d around plan batch w
    outcome.1 = (times, answered (drawnLines d plan.connections times w.source)) ∧
      w.registry.Worked { sent := outcome.1.1, received := outcome.1.2 } outcome.2.registry ∧
      w.registry.Alike outcome.2.registry ∧
      ∀ id ∈ batch.toList, ∃ c, outcome.2.registry.get? id = some c ∧ c.Ready := by
  rw [talkAll]
  split
  · next hempty =>
    have hnone : plan.connections = 0 := by
      rw [← hsize, Array.size_eq_zero_iff]
      exact Array.isEmpty_iff.1 hempty
    refine ⟨?_, .refl h, fun _ => rfl, hready⟩
    rw [hnone, Nat.zero_mul]
    rfl
  · next hsome =>
    have hbatch : 0 < batch.size := Array.size_pos_iff.2 fun hempty =>
      hsome (Array.isEmpty_iff.2 hempty)
    obtain ⟨hcount, hworked, halike, hready'⟩ := talk_spec around hfair hbatch
      (plan.connections * plan.messagesPerConnection) 0 0 h hready
    rw [Nat.zero_add, Nat.zero_add, hsize] at hcount
    rw [hsize] at hworked
    refine ⟨hcount, ?_, halike, hready'⟩
    rw [hcount]
    exact hworked

/-- Half of a batch that is ready is closed, and nothing else happens. -/
theorem closeHalf_spec (hfair : d.Fair) {batch : Array ConnectionId} (hnodup : batch.toList.Nodup)
    (h : w.registry.IsSound)
    (hready : ∀ id ∈ batch.toList, ∃ c, w.registry.get? id = some c ∧ c.Ready) :
    let outcome := closeHalf d around batch w
    outcome.1 = batch.size / 2 ∧ w.registry.Worked { closed := outcome.1 } outcome.2.registry ∧
      ∀ id, outcome.2.registry.get? id = w.registry.get? id ∨
        ∃ c, outcome.2.registry.get? id = some c ∧ c.life = Life.takenDown := by
  have hhalf : batch.size / 2 ≤ batch.size := Nat.div_le_self _ _
  have hlength := hfair.sample_length batch.size (batch.size / 2) w.source hhalf
  have hdifferent := hfair.sample_nodup batch.size (batch.size / 2) w.source hhalf
  have hbound := hfair.sample_lt batch.size (batch.size / 2) w.source hhalf
  let chosen := (d.sample batch.size (batch.size / 2) w.source).1
  let place (i : Nat) : ConnectionId := batch[i]?.getD ⟨0⟩
  have hplace : ∀ i ∈ chosen, batch[i]? = some (place i) := by
    intro i hi
    simp only [place, Array.getElem?_eq_getElem (hbound i hi), Option.getD_some]
  have hmember : ∀ i ∈ chosen, place i ∈ batch.toList := fun i hi =>
    Array.mem_toList_iff.2 (Array.mem_of_getElem? (hplace i hi))
  have hplaces : (chosen.map place).Nodup := by
    refine hdifferent.map_on fun i hi j hj hij => ?_
    have hsame : batch.toList[i]? = batch.toList[j]? := by
      rw [Array.getElem?_toList, Array.getElem?_toList, hplace i hi, hplace j hj, hij]
    exact (List.getElem?_inj (by simpa using hbound i hi) hnodup).1 hsame
  obtain ⟨hworked, hvisited, hunvisited, hcount⟩ := Stage.countEach_visits place
    (fun n => { closed := n }) (w := (w.draw (d.sample batch.size (batch.size / 2))).2)
    rfl (fun _ _ => rfl)
    (fun i hi => visits_closeOne around (hplace i hi)) hplaces h
    fun i hi => hready (place i) (hmember i hi)
  refine ⟨(hcount fun _ hone => hone).trans hlength, hworked, fun id => ?_⟩
  by_cases hid : id ∈ chosen.map place
  · obtain ⟨i, hi, rfl⟩ := List.mem_map.1 hid
    obtain ⟨-, c, -, hget, hlife⟩ := hvisited i hi
    exact .inr ⟨c, hget, hlife⟩
  · exact .inl (hunvisited id hid)

/-- Reclaiming forces closed as many connections as it counts. -/
theorem reclaimIdle_spec (idleTimeout number : Nat) (h : w.registry.IsSound) :
    let outcome := reclaimIdle around idleTimeout number w
    (∃ lost, w.registry.Worked { forced := outcome.1, lost := lost } outcome.2.registry ∧
        (outcome.1 = 0 → lost = 0)) ∧
      (number % reclaimEvery ≠ 0 → outcome.1 = 0) ∧
      (w.registry.AllOpened → outcome.2.registry.AllOpened) := by
  rw [reclaimIdle]
  split
  · next hnumber =>
    exact ⟨Registry.worked_reclaim h _ _ _, fun hother => absurd hnumber hother,
      fun hopened => hopened.of_reclaim h _ _ _⟩
  · exact ⟨⟨0, .refl h, fun _ => rfl⟩, fun _ => rfl, id⟩

/-- The connections at which bursts are directed are established. -/
theorem mem_establishedIds {r : Registry} (h : r.IsSound) {id : ConnectionId} :
    id ∈ establishedIds r ↔ ∃ c, r.get? id = some c ∧ c.state = .established := by
  rw [establishedIds, List.mem_filter, Registry.mem_ids h]
  constructor
  · rintro ⟨⟨c, hget⟩, hstate⟩
    rw [Registry.state_of_get? hget] at hstate
    exact ⟨c, hget, of_decide_eq_true hstate⟩
  · rintro ⟨c, hget, hstate⟩
    rw [Registry.state_of_get? hget]
    exact ⟨⟨c, hget⟩, decide_eq_true hstate⟩

/-- A burst is sent completely, in every third round that has something to send it over. -/
theorem burstAll_spec (hfair : d.Fair) (number : Nat) (h : w.registry.IsSound) :
    let outcome := burstAll d around number w
    outcome.1 =
        (if number % burstEvery = 0 ∧ establishedIds w.registry ≠ [] then burstSize else 0) ∧
      w.registry.Worked { sent := outcome.1 } outcome.2.registry ∧
      w.registry.Alike outcome.2.registry := by
  have hcondition : (number % burstEvery = 0 && !(establishedIds w.registry).toArray.isEmpty) =
      decide (number % burstEvery = 0 ∧ establishedIds w.registry ≠ []) := by
    cases establishedIds w.registry <;> simp
  rw [burstAll]
  simp only [hcondition, decide_eq_true_eq]
  split
  · next hburst =>
    have htargets : 0 < (establishedIds w.registry).toArray.size :=
      List.length_pos_iff.2 hburst.2
    obtain ⟨hcount, hworked, halike⟩ := burst_spec around hfair htargets (List.range burstSize) h
      fun id hid => (mem_establishedIds h).1 hid
    rw [List.length_range] at hcount hworked
    refine ⟨hcount, ?_, halike⟩
    rw [hcount]
    exact hworked
  · exact ⟨rfl, .refl h, fun _ => rfl⟩

/-- Everything is collected. -/
theorem collectAll_spec (h : w.registry.IsSound) :
    let outcome := collectAll around w
    w.registry.Worked { collected := outcome.1 } outcome.2.registry ∧
      w.registry.Alike outcome.2.registry ∧ outcome.2.registry.AllCollected := by
  obtain ⟨hworked, hvisited, hunvisited, -⟩ := Stage.countEach_visits id
    (fun n => { collected := n }) rfl (fun _ _ => rfl)
    (fun id _ => visits_collectOne around id) (by rw [List.map_id]; exact Registry.nodup_ids h) h
    fun id hid => by
      obtain ⟨c, hget⟩ := (Registry.mem_ids h).1 hid
      exact ⟨c, hget, trivial⟩
  rw [List.map_id] at hunvisited
  have hother : ∀ key, key ∉ w.registry.ids →
      w.registry.get? key = none ∧ (collectAll around w).2.registry.get? key = none := by
    intro key hkey
    have hmissing : w.registry.get? key = none := Option.eq_none_iff_forall_ne_some.2
      fun c hget => hkey ((Registry.mem_ids h).2 ⟨c, hget⟩)
    exact ⟨hmissing, (hunvisited key hkey).trans hmissing⟩
  refine ⟨hworked, fun key => ?_, fun key c hget => ?_⟩
  · by_cases hkey : key ∈ w.registry.ids
    · obtain ⟨c, c', hbefore, hafter, hlife, -⟩ := hvisited key hkey
      change (w.registry.get? key) = _ at hbefore
      rw [hbefore]
      exact (congrArg (Option.map Connection.life) hafter).trans (congrArg some hlife)
    · rw [(hother key hkey).1, (hother key hkey).2]
  · by_cases hkey : key ∈ w.registry.ids
    · obtain ⟨c₀, c', -, hafter, -, hqueues⟩ := hvisited key hkey
      obtain rfl : c' = c := Option.some.inj (hafter.symm.trans hget)
      exact hqueues
    · rw [(hother key hkey).2] at hget
      cases hget

end Phases

end Workload

namespace Round

/-- The work that a round reports, if so many frames have been thrown away. -/
def work (report : Round) (lost : Nat) : Work where
  created := report.created
  opened := report.established
  closed := report.closed
  forced := report.reclaimed
  sent := report.sent + report.burst
  received := report.received
  collected := report.drained
  lost := lost

/-- The report of the round of this number tells what has been done from one registry by way of
another, in which it was decided about the burst, to a third one, if these lines have been drawn. -/
structure Reports (report : Round) (plan : Workload) (number : Nat) (drawn : List String)
    (before decided after : Registry) : Prop where
  created_eq : report.created = plan.connections
  established_eq : report.established = plan.connections
  sent_eq : report.sent = plan.connections * plan.messagesPerConnection
  received_eq : report.received = Workload.answered drawn
  closed_eq : report.closed = plan.connections / 2
  reclaimed_eq : number % Workload.reclaimEvery ≠ 0 → report.reclaimed = 0
  burst_eq : report.burst =
    if number % Workload.burstEvery = 0 ∧ Workload.establishedIds decided ≠ []
      then Workload.burstSize else 0
  isSound_decided : decided.IsSound
  alike : decided.Alike after
  worked : ∃ lost, before.Worked (report.work lost) after ∧ (report.reclaimed = 0 → lost = 0)
  allOpened : before.AllOpened → after.AllOpened
  allCollected : after.AllCollected

end Round

namespace Workload

variable {σ : Type} {d : Draws σ}

/-- A round on a sound registry reports what it does, whatever is drawn. -/
theorem round_spec (hfair : d.Fair) (around : Surroundings) (plan : Workload)
    (idleTimeout number : Nat) {w : Stage σ} (h : w.registry.IsSound) :
    let drawn := drawnLines d plan.connections (plan.connections * plan.messagesPerConnection)
      w.source
    let decided := beforeBurst d around plan idleTimeout number w
    let outcome := round d around plan idleTimeout number w
    outcome.1.Reports plan number drawn w.registry decided.registry outcome.2.registry := by
  obtain ⟨hsize, hnodup, hestablished, hopened, hready, hother⟩ := openBatch_spec around plan h
  have hsource := source_openBatch around plan w
  rw [round_eq, beforeBurst]
  -- Each phase starts from the stage that the one before it has left, whatever that is.
  generalize openBatch around plan w = first at *
  obtain ⟨⟨batch, established⟩, w₁⟩ := first
  obtain ⟨htold, htalked, halike₂, hready₂⟩ :=
    talkAll_spec around hfair plan hsize hopened.isSound hready
  rw [show w₁.source = w.source from hsource] at htold
  generalize talkAll d around plan batch w₁ = second at *
  obtain ⟨⟨sent, received⟩, w₂⟩ := second
  obtain ⟨hclosed, hhalved, hlives⟩ := closeHalf_spec around hfair hnodup htalked.isSound hready₂
  generalize closeHalf d around batch w₂ = third at *
  obtain ⟨closed, w₃⟩ := third
  obtain ⟨⟨lost, hforced, hlost⟩, hquiet, hreclaimed⟩ :=
    reclaimIdle_spec around idleTimeout number hhalved.isSound
  generalize reclaimIdle around idleTimeout number w₃ = fourth at *
  obtain ⟨reclaimed, w₄⟩ := fourth
  obtain ⟨hbursts, hburst, halike₅⟩ := burstAll_spec around hfair number hforced.isSound
  generalize burstAll d around number w₄ = fifth at *
  obtain ⟨burst, w₅⟩ := fifth
  obtain ⟨hcollected, halike₆, hqueues⟩ := collectAll_spec around hburst.isSound
  generalize collectAll around w₅ = sixth at *
  obtain ⟨drained, w₆⟩ := sixth
  refine ⟨hsize, hestablished, congrArg Prod.fst htold, congrArg Prod.snd htold,
    hclosed.trans (congrArg (· / 2) hsize), hquiet, hbursts, hforced.isSound,
    halike₅.trans halike₆, ⟨lost, ?_, hlost⟩, ?_, hqueues⟩
  · have hall := ((((hopened.trans htalked).trans hhalved).trans hforced).trans hburst).trans
      hcollected
    simp only [Work.add_eq, Nat.zero_add, Nat.add_zero] at hall
    rw [Round.work, hsize, hestablished]
    exact hall
  · -- Connections of the batch are opened, and closed by this round at most; older ones are as before.
    intro hbefore
    have hopened₁ : w₁.registry.AllOpened := by
      intro id c hget
      by_cases hid : id ∈ batch.toList
      · obtain ⟨c', hget', hc'⟩ := hready id hid
        obtain rfl : c' = c := Option.some.inj (hget'.symm.trans hget)
        exact Life.mem_sinceOpened.2 (.inl hc'.life_eq)
      · exact hbefore id c ((hother id hid).symm.trans hget)
    have hopened₃ : w₃.registry.AllOpened := by
      intro id c hget
      rcases hlives id with hsame | ⟨c', hget', hlife⟩
      · exact hopened₁.of_alike halike₂ id c (hsame.symm.trans hget)
      · obtain rfl : c' = c := Option.some.inj (hget'.symm.trans hget)
        exact Life.mem_sinceOpened.2 (.inr (.inl hlife))
    exact ((hreclaimed hopened₃).of_alike halike₅).of_alike halike₆

end Workload

end Switchboard
