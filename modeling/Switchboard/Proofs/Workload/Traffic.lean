import Switchboard.Proofs.Workload.Phases

/-!
# The traffic of a round

The clients of a batch send lines, and their peers' answers are heard in silence, whatever the limit:
an answer that is too long is dropped, but never answered. So what a round counts as sent and received
is what the blocks count. A burst sends to any established connection.
-/

namespace Switchboard

namespace Workload

/-- A peer answers a line with an answer. -/
theorem isAnswer_of_peerReply? {line reply : String} (hline : '\n' ∉ line.toList)
    (h : peerReply? line = some reply) : IsAnswer (encodeLine reply) := by
  have hargument : '\n' ∉ (splitVerb line).2.toList := fun hmem => hline (mem_of_mem_argument hmem)
  rw [peerReply?] at h
  simp only at h
  split at h
  · obtain rfl := Option.some.inj h
    have hverb : "PONG" ∈ Message.replyVerbs := by decide
    exact isAnswer_encodeLine hverb hargument
  split at h
  · obtain rfl := Option.some.inj h
    have hverb : "ECHO_REPLY" ∈ Message.replyVerbs := by decide
    exact isAnswer_encodeLine hverb hargument
  · cases h

/-- None of the lines from which clients choose has an end in it. -/
theorem newline_not_mem_lines : ∀ line ∈ lines, '\n' ∉ line.toList := by decide

/-- The number of lines that a peer answers. -/
def answered (drawn : List String) : Nat :=
  drawn.countP fun line => (peerReply? line).isSome

/-- Each line adds its own answer, if there is one. -/
theorem answered_cons (line : String) (rest : List String) :
    answered (line :: rest) = answered [line] + answered rest := by
  rw [answered, answered, answered, ← List.countP_append, List.singleton_append]

/-- The lines that clients draw, so many times. Before each line a position of the batch is drawn. -/
def drawnLines {σ : Type} (d : Draws σ) (size : Nat) : (times : Nat) → σ → List String
  | 0, _ => []
  | times + 1, source =>
    let (j, source) := d.choose lines.length (d.choose size source).2
    lines[j]?.toList ++ drawnLines d size times source

end Workload

/-- From one registry to another the same connections are held, and they have come no farther. -/
def Registry.Alike (r after : Registry) : Prop :=
  ∀ id, (after.get? id).map Connection.life = (r.get? id).map Connection.life

namespace Registry.Alike

variable {r middle after : Registry} {id : ConnectionId} {c c' : Connection}

/-- Likeness is handed on. -/
theorem trans (h : r.Alike middle) (hlater : middle.Alike after) : r.Alike after := fun id =>
  (hlater id).trans (h id)

/-- A registry is like another if a connection is changed that comes no farther. -/
theorem of_changed (hget : r.get? id = some c) (hlife : c'.life = c.life)
    (hfound : ∀ key, after.get? key = if key = id then some c' else r.get? key) :
    r.Alike after := by
  intro key
  rw [hfound]
  split
  · next hkey => rw [hkey, hget, Option.map_some, Option.map_some, hlife]
  · rfl

/-- What is held afterwards was held before, and had come as far. -/
theorem exists_of_get? (h : r.Alike after) (hget : after.get? id = some c') :
    ∃ c, r.get? id = some c ∧ c.life = c'.life := by
  have hlife := h id
  rw [hget, Option.map_some] at hlife
  exact Option.map_eq_some_iff.1 hlife.symm

/-- What is held before is held afterwards, and has come as far. -/
theorem exists_after (h : r.Alike after) (hget : r.get? id = some c) :
    ∃ c', after.get? id = some c' ∧ c'.life = c.life := by
  have hlife := h id
  rw [hget, Option.map_some] at hlife
  exact Option.map_eq_some_iff.1 hlife

end Registry.Alike

namespace Workload

variable {σ : Type} {d : Draws σ} (around : Surroundings) {w : Stage σ} {id : ConnectionId}
  {c : Connection}

/-- Over an established connection a line is sent. -/
theorem send_spec (h : w.registry.IsSound) (hget : w.registry.get? id = some c)
    (hopen : c.state = .established) (line : String) (now : Instant) :
    let outcome := w.registry.send id line now
    let sent := c.transmit [encodeLine line] now
    outcome.1 = .ok true ∧ w.registry.Worked { sent := 1 } outcome.2 ∧
      ∀ key, outcome.2.get? key = if key = id then some sent else w.registry.get? key := by
  have hdata : c.block.carriesData = true := decide_eq_true hopen
  have happly : (Operation.send id line).apply w.registry.profile now c =
      c.transmit [encodeLine line] now := if_pos hdata
  refine ⟨?_, ?_, fun key => ?_⟩
  · rw [Registry.send, Registry.act, hget]
    change Except.ok _ = _
    simp [Connection.send, hdata]
  · exact Registry.worked_perform h now (.send id line) rfl hget
      (happly ▸ Connection.did_transmit now _)
  · exact happly ▸ Registry.get?_performed h now (.send id line) rfl hget key

/-- A line is sent over a connection that is ready, and the answer of its peer is heard. The
connection is ready again, and has said nothing more. Nothing is drawn. -/
theorem exchange_spec (h : w.registry.IsSound) (hget : w.registry.get? id = some c)
    (hready : c.Ready) {line : String} (hline : '\n' ∉ line.toList) :
    let outcome := exchange around id line w
    outcome.1 = (1, answered [line]) ∧ outcome.2.source = w.source ∧
      w.registry.Worked { sent := 1, received := answered [line] } outcome.2.registry ∧
      ∃ c', c'.Ready ∧ ∀ key, outcome.2.registry.get? key =
        if key = id then some c' else w.registry.get? key := by
  let now := around.instant w.operations
  let later := around.instant (w.operations + 1)
  obtain ⟨hsent, hworked, hfound⟩ := send_spec h hget hready.state_eq line now
  let spoken := c.transmit [encodeLine line] now
  let middle := (w.act around fun r now => r.send id line now).2
  have hspoken : spoken.Ready :=
    ⟨(Connection.life_of_carried (Connection.carried_transmit c _ now)).trans hready.life_eq,
      hready.isClean⟩
  have hmiddle : middle.registry.get? id = some spoken := (hfound id).trans (if_pos rfl)
  have hgranted : granted (w.act around fun r now => r.send id line now).1 = true := by
    rw [Stage.act, hsent]
    rfl
  cases hreply : peerReply? line with
  | none =>
    have hexchange : exchange around id line w = ((1, 0), middle) := by
      simp only [exchange, hgranted, hreply, if_true, middle]
    have hnone : answered [line] = 0 := by simp [answered, hreply]
    rw [hexchange, hnone]
    exact ⟨rfl, rfl, hworked, spoken, hspoken, hfound⟩
  | some reply =>
    have hexchange : exchange around id line w =
        ((1, 1), (middle.act around fun r now => r.deliver id (encodeLine reply) now).2) := by
      simp only [exchange, hgranted, hreply, if_true, middle]
    have hanswer := isAnswer_of_peerReply? hline hreply
    have hinformed := Connection.informed_receive hspoken.state_eq hspoken.isClean hanswer
      middle.registry.profile later
    have hheard := Registry.worked_perform hworked.isSound later
      (.deliver id (encodeLine reply)) rfl hmiddle hinformed.did
    have hone : answered [line] = 1 := by simp [answered, hreply]
    rw [hexchange, hone]
    refine ⟨rfl, rfl, hworked.trans hheard, _, ⟨?_, hinformed.isClean⟩, fun key => ?_⟩
    · exact (Connection.life_of_carried hinformed.carried).trans hspoken.life_eq
    · have hlast := Registry.get?_performed hworked.isSound later
        (.deliver id (encodeLine reply)) rfl hmiddle key
      refine hlast.trans ?_
      split
      · rfl
      · next hkey => exact (hfound key).trans (if_neg hkey)

/-- A fair source draws a connection of the batch and a line, and they are exchanged. -/
theorem talk_succ (hfair : d.Fair) {batch : Array ConnectionId} (hbatch : 0 < batch.size)
    (times sent received : Nat) (w : Stage σ) :
    ∃ id line source, id ∈ batch.toList ∧ line ∈ lines ∧
      drawnLines d batch.size (times + 1) w.source =
        line :: drawnLines d batch.size times source ∧
      let outcome := exchange around id line { w with source := source }
      talk d around batch (times + 1) sent received w =
        talk d around batch times (sent + outcome.1.1) (received + outcome.1.2) outcome.2 := by
  let first := d.choose batch.size w.source
  let second := d.choose lines.length first.2
  have hfirst : first.1 < batch.size := hfair.choose_lt _ _ hbatch
  have hsecond : second.1 < lines.length := hfair.choose_lt _ _ (by decide)
  have hid : batch[(d.choose batch.size w.source).1]? = some batch[first.1] :=
    Array.getElem?_eq_getElem hfirst
  have hline : lines[(d.choose lines.length (d.choose batch.size w.source).2).1]? =
      some lines[second.1] := List.getElem?_eq_getElem hsecond
  refine ⟨batch[first.1], lines[second.1], second.2, ?_, List.getElem_mem hsecond, ?_, ?_⟩
  · exact Array.getElem_mem_toList hfirst
  · simp only [drawnLines, hline]
    rfl
  · simp only [talk, Stage.draw, hid, hline]
    rfl

/-- In a batch that is ready, every line that is drawn is sent and, if the peer has an answer to it, the
answer is heard. The batch stays ready. -/
theorem talk_spec (hfair : d.Fair) {batch : Array ConnectionId} (hbatch : 0 < batch.size)
    (times sent received : Nat) (h : w.registry.IsSound)
    (hready : ∀ id ∈ batch.toList, ∃ c, w.registry.get? id = some c ∧ c.Ready) :
    let heard := answered (drawnLines d batch.size times w.source)
    let outcome := talk d around batch times sent received w
    outcome.1 = (sent + times, received + heard) ∧
      w.registry.Worked { sent := times, received := heard } outcome.2.registry ∧
      w.registry.Alike outcome.2.registry ∧
      ∀ id ∈ batch.toList, ∃ c, outcome.2.registry.get? id = some c ∧ c.Ready := by
  induction times generalizing sent received w with
  | zero => exact ⟨rfl, .refl h, fun _ => rfl, hready⟩
  | succ times ih =>
    obtain ⟨id, line, source, hid, hline, hdrawn, htalk⟩ :=
      talk_succ around hfair hbatch times sent received w
    obtain ⟨c, hget, hc⟩ := hready id hid
    obtain ⟨hsent, hsource, hworked, c', hc', hfound⟩ :=
      exchange_spec around (w := { w with source := source }) h hget hc
        (newline_not_mem_lines line hline)
    rw [hdrawn, answered_cons]
    generalize exchange around id line { w with source := source } = outcome
      at htalk hsent hsource hworked hfound
    obtain ⟨counts, w₁⟩ := outcome
    obtain rfl : counts = (1, answered [line]) := hsent
    obtain rfl : w₁.source = source := hsource
    have hready' : ∀ key ∈ batch.toList, ∃ c, w₁.registry.get? key = some c ∧ c.Ready := by
      intro key hkey
      rw [hfound]
      split
      · exact ⟨c', rfl, hc'⟩
      · exact hready key hkey
    obtain ⟨hcount, hlater, halike, hlast⟩ :=
      ih (sent + 1) (received + answered [line]) hworked.isSound hready'
    rw [htalk]
    refine ⟨?_, ?_, ?_, hlast⟩
    · rw [hcount, Nat.add_assoc, Nat.add_assoc, Nat.add_comm 1]
    · rw [Nat.add_comm times]
      exact hworked.trans hlater
    · exact (Registry.Alike.of_changed hget (hc'.life_eq.trans hc.life_eq.symm) hfound).trans halike

/-- A fair source draws one of the targets, and a frame is sent to it. -/
theorem burstOne_eq (hfair : d.Fair) {targets : Array ConnectionId} (htargets : 0 < targets.size)
    (w : Stage σ) :
    ∃ id text source, id ∈ targets.toList ∧
      let outcome := w.registry.send id text (around.instant w.operations)
      burstOne d around targets w =
        ((granted outcome.1).toNat, ⟨outcome.2, source, w.operations + 1⟩) := by
  let drawn := d.choose targets.size w.source
  have hdrawn : drawn.1 < targets.size := hfair.choose_lt _ _ htargets
  have hid : targets[(d.choose targets.size w.source).1]? = some targets[drawn.1] :=
    Array.getElem?_eq_getElem hdrawn
  let number := d.between 1 burstNumbers drawn.2
  refine ⟨targets[drawn.1], "BURST_DATA_" ++ toString number.1, number.2,
    Array.getElem_mem_toList hdrawn, ?_⟩
  simp only [burstOne, Stage.draw, hid]
  rfl

/-- A burst over established connections is sent completely. -/
theorem burst_spec (hfair : d.Fair) {targets : Array ConnectionId} (htargets : 0 < targets.size)
    (numbers : List Nat) (h : w.registry.IsSound)
    (hopen : ∀ id ∈ targets.toList, ∃ c, w.registry.get? id = some c ∧ c.state = .established) :
    let outcome := w.countEach (fun _ w => burstOne d around targets w) numbers
    outcome.1 = numbers.length ∧ w.registry.Worked { sent := numbers.length } outcome.2.registry ∧
      w.registry.Alike outcome.2.registry := by
  induction numbers generalizing w with
  | nil => exact ⟨rfl, .refl h, fun _ => rfl⟩
  | cons number rest ih =>
    obtain ⟨id, text, source, hid, hburst⟩ := burstOne_eq around hfair htargets w
    obtain ⟨c, hget, hc⟩ := hopen id hid
    obtain ⟨hsent, hworked, hfound⟩ :=
      send_spec h hget hc text (around.instant w.operations)
    have hlife := Connection.life_of_carried
      (Connection.carried_transmit c [encodeLine text] (around.instant w.operations))
    have halike := Registry.Alike.of_changed hget hlife hfound
    have hopen' : ∀ key ∈ targets.toList, ∃ c,
        (w.registry.send id text (around.instant w.operations)).2.get? key = some c ∧
          c.state = .established := by
      intro key hkey
      obtain ⟨before, hbefore, hstate⟩ := hopen key hkey
      obtain ⟨c', hafter, hsame⟩ := halike.exists_after hbefore
      exact ⟨c', hafter, (congrArg Life.state hsame).trans hstate⟩
    obtain ⟨hcount, hlater, halike'⟩ := ih
      (w := ⟨(w.registry.send id text (around.instant w.operations)).2, source, w.operations + 1⟩)
      hworked.isSound hopen'
    rw [Stage.countEach_cons, hburst, hsent]
    refine ⟨?_, ?_, halike.trans halike'⟩
    · rw [List.length_cons, Nat.add_comm rest.length, hcount]
      rfl
    · rw [List.length_cons, Nat.add_comm rest.length]
      exact hworked.trans hlater

end Workload

end Switchboard
