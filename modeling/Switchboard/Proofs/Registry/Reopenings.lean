import Mathlib.Order.Interval.Finset.Nat
import Switchboard.Proofs.Registry.Accounts
import Switchboard.Proofs.Registry.Outcomes
import Switchboard.Proofs.Registry.Totals

/-!
# Reopenings

A census counts connections as active, as closed and as timed out. Being active is read off the
state; being closed or timed out is remembered for good, also by a connection that is opened again
under its old id. So a connection may be counted more than once, and the three figures may add up to
more than there are connections.

Main statement: a connection is counted more than once only if it has been reopened, that is, has
left the closed state after it had been closed in order or forced closed. Without reopenings the
three figures count disjoint sets of connections (`counted_once_unless_reopened`).
-/

namespace Switchboard

/-- Whether the connection counts as closed or as timed out. -/
def Block.isMarked (b : Block) : Bool :=
  b.gracefullyClosed || b.timedOut

namespace Moment

/-- The connections that are reopened: they count as closed or as timed out, and leave the closed
state. -/
def reopened (m : Moment) : List ConnectionId :=
  (m.before.entries.filter fun e =>
    e.2.state = .closed && e.2.block.isMarked &&
      (m.after.get? e.1).any fun after => after.state ≠ .closed).map Prod.fst

variable {m : Moment} {id : ConnectionId} {o : Outcome}

/-- A reopened connection is held before and afterwards. -/
theorem mem_reopened (h : m.before.IsSound) : id ∈ m.reopened ↔
    ∃ c after, m.before.get? id = some c ∧ m.after.get? id = some after ∧
      c.state = .closed ∧ c.block.isMarked = true ∧ after.state ≠ .closed := by
  simp only [reopened, List.mem_map, List.mem_filter, Bool.and_eq_true, decide_eq_true_eq,
    Option.any_eq_true]
  constructor
  · rintro ⟨⟨key, c⟩, ⟨hentry, ⟨hclosed, hmarked⟩, after, hafter, hopen⟩, rfl⟩
    exact ⟨c, after, (Registry.mem_entries h).1 hentry, hafter, hclosed, hmarked, hopen⟩
  · rintro ⟨c, after, hget, hafter, hclosed, hmarked, hopen⟩
    exact ⟨(id, c), ⟨(Registry.mem_entries h).2 hget, ⟨hclosed, hmarked⟩, after, hafter, hopen⟩,
      rfl⟩

/-- Where closing in order is not refused, an established connection becomes a closed one. -/
theorem closes_of_closing (h : m.before.IsSound) {c : Connection} (path : List State)
    (hop : m.operation.target? = some id) (hget : m.before.get? id = some c)
    (hwalk : State.established.walkable path = path)
    (harrival : State.established.arrival path = .closed)
    (hheld : m.operation.answerHeld? m.before.profile m.now c =
      some (.decided (.ok (c.closeAlong path m.now).1)))
    (happly : m.operation.apply m.before.profile m.now c = (c.closeAlong path m.now).2)
    (hanswer : m.answer = .decided (.ok true)) :
    ∃ after, m.after.get? id = some after ∧ c.state ≠ .closed ∧ after.state = .closed := by
  have hdone := (answer_held _ hop hget hheld).symm.trans hanswer
  rw [Connection.closeAlong_of_walkable m.now c hwalk] at hdone happly
  by_cases hopen : c.state = .established
  · rw [if_pos hopen] at happly
    refine ⟨_, get?_after h hop hget, hopen ▸ by decide, ?_⟩
    rw [happly, Connection.state, Connection.block_closedAlong]
    exact (congrArg (fun s => s.arrival path) hopen).trans harrival
  · rw [if_neg hopen] at hdone
    cases hdone

/-- An outcome comes about for a connection that is not closed, and closes it. -/
theorem closes_of_mem_ofMoment (h : m.before.IsSound) (hmem : id ∈ o.ofMoment m) :
    ∃ c after, m.before.get? id = some c ∧ m.after.get? id = some after ∧
      c.state ≠ .closed ∧ after.state = .closed := by
  obtain ⟨c, hget⟩ := held_of_mem_ofMoment h hmem
  refine ⟨c, ?_⟩
  cases o with
  | closed =>
    rw [Outcome.ofMoment, closed] at hmem
    split at hmem
    · next heq hanswer =>
      obtain rfl := List.mem_singleton.1 hmem
      obtain ⟨after, hafter, hcloses⟩ := closes_of_closing h State.teardown (by rw [heq]; rfl)
        hget rfl rfl (by rw [heq]; rfl) (by rw [heq]; rfl) hanswer
      exact ⟨after, hget, hafter, hcloses⟩
    · next heq hanswer =>
      obtain rfl := List.mem_singleton.1 hmem
      obtain ⟨after, hafter, hcloses⟩ := closes_of_closing h State.passiveClose (by rw [heq]; rfl)
        hget rfl rfl (by rw [heq]; rfl) (by rw [heq]; rfl) hanswer
      exact ⟨after, hget, hafter, hcloses⟩
    · cases hmem
  | timedOut =>
    obtain ⟨instant, threshold, hop⟩ := reclaim_of_mem_forced hmem
    have hstale := (mem_forced h hop hget).1 hmem
    have hafter : m.after.get? id = some (c.forced m.now) := by
      rw [get?_after_iff h, hop]
      exact .inr ⟨c, hget, rfl, if_pos hstale⟩
    exact ⟨_, hget, hafter, Connection.open_of_isStale hstale, rfl⟩

end Moment

namespace Registry

/-- The ids that have been given out. -/
def given (r : Registry) : Finset ConnectionId :=
  (Finset.Icc 1 r.lastId).image ConnectionId.mk

/-- An id has been given out if its number lies between the first and the last one. -/
theorem mem_given {r : Registry} {id : ConnectionId} :
    id ∈ r.given ↔ 0 < id.raw ∧ id.raw ≤ r.lastId := by
  rw [given, Finset.mem_image]
  constructor
  · rintro ⟨raw, hraw, rfl⟩
    exact Finset.mem_Icc.1 hraw
  · intro h
    exact ⟨id.raw, Finset.mem_Icc.2 h, rfl⟩

/-- These connections count as closed, these as timed out, and of those that are counted more than
once all are among these reopened ones. Every connection has been given an id of its own. -/
structure Tracked (r : Registry) (closed timedOut reopened : Finset ConnectionId) : Prop where
  closed_marked : r.Marked .closed closed
  timedOut_marked : r.Marked .timedOut timedOut
  reopened_subset : reopened ⊆ closed ∪ timedOut
  inter_subset : closed ∩ timedOut ⊆ reopened
  open_subset : ∀ id c, r.get? id = some c → c.state ≠ .closed → id ∈ closed ∪ timedOut →
    id ∈ reopened
  given_subset : r.keys ∪ (closed ∪ timedOut) ⊆ r.given
  total_eq : r.total .connections = r.lastId

variable {r : Registry} {closed timedOut reopened : Finset ConnectionId} {id : ConnectionId}
  {c : Connection}

/-- The block of a connection says whether it counts as closed or as timed out. -/
theorem Tracked.isMarked_iff (h : r.Tracked closed timedOut reopened) (hget : r.get? id = some c) :
    c.block.isMarked = true ↔ id ∈ closed ∪ timedOut := by
  have hclosed := h.closed_marked.held id c hget
  have htimed := h.timedOut_marked.held id c hget
  rw [Block.isMarked, Bool.or_eq_true, Finset.mem_union]
  exact or_congr hclosed htimed

/-- In a registry that has never held a connection none is counted. -/
theorem tracked_empty (profile : Profile) (latency : Latency) :
    (empty profile latency).Tracked ∅ ∅ ∅ where
  closed_marked := marked_empty profile latency .closed
  timedOut_marked := marked_empty profile latency .timedOut
  reopened_subset := Finset.empty_subset _
  inter_subset := Finset.empty_subset _
  open_subset := by
    intro id c hget
    rw [get?_empty] at hget
    cases hget
  given_subset := by
    intro id hmem
    have hheld : id ∈ (empty profile latency).keys := by simpa using hmem
    obtain ⟨c, hget⟩ := (mem_keys (isSound_empty profile latency)).1 hheld
    rw [get?_empty] at hget
    cases hget
  total_eq := by
    rw [total, entries_empty]
    rfl

end Registry

section Steps

variable {m : Moment} {closed timedOut reopened : Finset ConnectionId} {id : ConnectionId}
  {c : Connection}

/-- What is counted after a moment was counted before, or is counted from now on. -/
theorem mem_marks_after :
    id ∈ (closed ∪ m.closed.toFinset) ∪ (timedOut ∪ m.forced.toFinset) ↔
      id ∈ closed ∪ timedOut ∨ id ∈ m.closed ∨ id ∈ m.forced := by
  simp only [Finset.mem_union, List.mem_toFinset]
  tauto

/-- A connection that is not closed after a moment and counts as closed or as timed out has been
reopened, before or just now. -/
theorem reopened_of_open (h : m.before.IsSound)
    (htracked : m.before.Tracked closed timedOut reopened) (hafter : m.after.get? id = some c)
    (hopen : c.state ≠ .closed)
    (hmark : id ∈ (closed ∪ m.closed.toFinset) ∪ (timedOut ∪ m.forced.toFinset)) :
    id ∈ reopened ∪ m.reopened.toFinset := by
  -- The outcome has not come about just now, because that would have closed the connection.
  have hbefore : id ∈ closed ∪ timedOut := by
    have hnever : ∀ o : Outcome, id ∉ o.ofMoment m := by
      intro o hmem
      obtain ⟨-, after, -, hget, -, hclosed⟩ := Moment.closes_of_mem_ofMoment h hmem
      rw [hafter] at hget
      exact hopen (Option.some.inj hget ▸ hclosed)
    exact (mem_marks_after.1 hmark).resolve_right
      (not_or.2 ⟨hnever .closed, hnever .timedOut⟩)
  rw [Finset.mem_union, List.mem_toFinset]
  rcases (Moment.get?_after_iff h).1 hafter with hborn | ⟨c₀, hget, -, -⟩
  · have hgiven := Registry.mem_given.1 (htracked.given_subset (Finset.mem_union_right _ hbefore))
    exact absurd hborn (Registry.not_mem_born hgiven.2)
  · by_cases hshut : c₀.state = .closed
    · exact .inr ((Moment.mem_reopened h).2
        ⟨c₀, c, hget, hafter, hshut, (htracked.isMarked_iff hget).2 hbefore, hopen⟩)
    · exact .inl (htracked.open_subset id c₀ hget hshut hbefore)

/-- A connection that gets one outcome and had the other one has been reopened. -/
theorem reopened_of_mem_ofMoment (h : m.before.IsSound)
    (htracked : m.before.Tracked closed timedOut reopened) {o : Outcome}
    (hmem : id ∈ o.ofMoment m) (hmark : id ∈ closed ∪ timedOut) : id ∈ reopened := by
  obtain ⟨c, -, hget, -, hopen, -⟩ := Moment.closes_of_mem_ofMoment h hmem
  exact htracked.open_subset id c hget hopen hmark

/-- No operation closes in order and forces closed at once. -/
theorem not_mem_forced_of_mem_closed (hmem : id ∈ m.closed) : id ∉ m.forced := by
  intro hforced
  obtain ⟨instant, threshold, hop⟩ := Moment.reclaim_of_mem_forced hforced
  rw [Moment.closed, hop] at hmem
  cases hmem

/-- What is held or counted after a moment has been given an id. -/
theorem given_after (h : m.before.IsSound) (htracked : m.before.Tracked closed timedOut reopened) :
    m.after.keys ∪ ((closed ∪ m.closed.toFinset) ∪ (timedOut ∪ m.forced.toFinset)) ⊆
      m.after.given := by
  have hkept : ∀ id ∈ m.before.given, id ∈ m.after.given := by
    intro id hmem
    obtain ⟨hpos, hle⟩ := Registry.mem_given.1 hmem
    exact Registry.mem_given.2 ⟨hpos, hle.trans (Registry.lastId_le_perform h m.now m.operation)⟩
  have hheld : ∀ id c, m.before.get? id = some c → id ∈ m.before.given := fun id c hget =>
    htracked.given_subset (Finset.mem_union_left _ ((Registry.mem_keys h).2 ⟨c, hget⟩))
  have hmark : ∀ o : Outcome, ∀ id ∈ o.ofMoment m, id ∈ m.before.given := by
    intro o id hmem
    obtain ⟨c, hget⟩ := held_of_mem_ofMoment h hmem
    exact hheld id c hget
  intro id hmem
  rw [Finset.mem_union, Registry.mem_keys (Moment.isSound_after h), mem_marks_after] at hmem
  rcases hmem with ⟨c, hafter⟩ | hold | hcloses | hforced
  · rcases (Moment.get?_after_iff h).1 hafter with hborn | ⟨c₀, hget, -, -⟩
    · have hraw := (Registry.raw_of_mem_born hborn).1
      have hknown := (Moment.isSound_after h).known id c hafter
      exact Registry.mem_given.2 ⟨by omega, hknown⟩
    · exact hkept id (hheld id c₀ hget)
  · exact hkept id (htracked.given_subset (Finset.mem_union_right _ hold))
  · exact hkept id (hmark .closed id hcloses)
  · exact hkept id (hmark .timedOut id hforced)

/-- Every connection that is made gets the next id. -/
theorem lastId_after (h : m.before.IsSound) : m.after.lastId = m.before.lastId + m.created := by
  rw [Moment.after, (Registry.effected_perform h m.now m.operation).lastId_eq]
  obtain ⟨r, now, op⟩ := m
  cases op <;> rfl

/-- What is counted, and what has been reopened, after a moment. -/
theorem tracked_after (h : m.before.IsSound)
    (htracked : m.before.Tracked closed timedOut reopened) :
    m.after.Tracked (closed ∪ m.closed.toFinset) (timedOut ∪ m.forced.toFinset)
      (reopened ∪ m.reopened.toFinset) where
  closed_marked := marked_after h htracked.closed_marked
  timedOut_marked := marked_after h htracked.timedOut_marked
  reopened_subset := by
    intro id hmem
    rw [mem_marks_after]
    left
    rcases Finset.mem_union.1 hmem with hold | hnew
    · exact htracked.reopened_subset hold
    · obtain ⟨c, -, hget, -, -, hmarked, -⟩ :=
        (Moment.mem_reopened h).1 (List.mem_toFinset.1 hnew)
      exact (htracked.isMarked_iff hget).1 hmarked
  inter_subset := by
    intro id hmem
    rw [Finset.mem_inter, Finset.mem_union, Finset.mem_union, List.mem_toFinset,
      List.mem_toFinset] at hmem
    apply Finset.mem_union_left
    obtain ⟨hclosed | hcloses, htimed | hforced⟩ := hmem
    · exact htracked.inter_subset (Finset.mem_inter.2 ⟨hclosed, htimed⟩)
    · exact reopened_of_mem_ofMoment h htracked (o := .timedOut) hforced
        (Finset.mem_union_left _ hclosed)
    · exact reopened_of_mem_ofMoment h htracked (o := .closed) hcloses
        (Finset.mem_union_right _ htimed)
    · exact absurd hforced (not_mem_forced_of_mem_closed hcloses)
  open_subset := fun _ _ hafter hopen hmark => reopened_of_open h htracked hafter hopen hmark
  given_subset := given_after h htracked
  total_eq := by
    rw [total_after h .connections, htracked.total_eq, lastId_after h]
    rfl

end Steps

namespace Registry

/-- What is counted, and what has been reopened, after a history. -/
theorem tracked_run (profile : Profile) (latency : Latency)
    (history : List (Instant × Operation)) :
    ((empty profile latency).run history).2.Tracked
      (((empty profile latency).moments history).flatMap Moment.closed).toFinset
      (((empty profile latency).moments history).flatMap Moment.forced).toFinset
      (((empty profile latency).moments history).flatMap Moment.reopened).toFinset := by
  refine (history_induction (isSound_empty profile latency) (motive := fun past r =>
    r.Tracked (past.flatMap Moment.closed).toFinset (past.flatMap Moment.forced).toFinset
      (past.flatMap Moment.reopened).toFinset) (tracked_empty profile latency) ?_ history).2
  intro past m hsound hpast
  simp only [List.flatMap_append, List.flatMap_singleton, List.toFinset_append]
  exact tracked_after hsound hpast

variable {r : Registry} {closed timedOut reopened : Finset ConnectionId}

/-- Three sets two of which overlap only in a fourth one are together no larger than their union and
twice the fourth one. -/
theorem Tracked.sum_le (htracked : r.Tracked closed timedOut reopened)
    {active : Finset ConnectionId} (hheld : active ⊆ r.keys)
    (hopen : active ∩ (closed ∪ timedOut) ⊆ reopened) :
    active.card + closed.card + timedOut.card ≤ r.census.total + 2 * reopened.card := by
  have hunion := Finset.card_union_add_card_inter active (closed ∪ timedOut)
  have hmarks := Finset.card_union_add_card_inter closed timedOut
  have hfirst := Finset.card_le_card hopen
  have hsecond := Finset.card_le_card htracked.inter_subset
  have htotal : (active ∪ (closed ∪ timedOut)).card ≤ r.census.total := by
    calc (active ∪ (closed ∪ timedOut)).card ≤ r.given.card :=
          Finset.card_le_card ((Finset.union_subset_union_left hheld).trans htracked.given_subset)
      _ ≤ (Finset.Icc 1 r.lastId).card := Finset.card_image_le
      _ = r.total .connections := by rw [Nat.card_Icc, htracked.total_eq, Nat.add_sub_cancel]
      _ = r.census.total := (ofCensus_census r .connections).symm
  omega

end Registry

/-- After every history the census counts as active the connections that are held and established,
as closed those that have been closed in order, and as timed out those that have been forced closed.
An active one counts as closed or as timed out exactly if it has been reopened, and no connection
counts as both unless it has been reopened. So the three figures exceed the number of connections by
no more than two for each reopened one; if none has been reopened, they count disjoint sets of
connections. -/
theorem counted_once_unless_reopened (profile : Profile) (latency : Latency)
    (history : List (Instant × Operation)) :
    let moments := (Registry.empty profile latency).moments history
    let r := ((Registry.empty profile latency).run history).2
    let active := r.keysWhere fun c => c.state = .established
    let closed := (moments.flatMap Moment.closed).toFinset
    let timedOut := (moments.flatMap Moment.forced).toFinset
    let reopened := (moments.flatMap Moment.reopened).toFinset
    (r.census.active = active.card ∧ r.census.closed = closed.card ∧
        r.census.timedOut = timedOut.card) ∧
      (∀ id c, r.get? id = some c →
        (id ∈ active ↔ c.state = .established) ∧
          (id ∈ closed ↔ c.block.gracefullyClosed = true) ∧
          (id ∈ timedOut ↔ c.block.timedOut = true)) ∧
      (∀ id ∈ active, id ∈ closed ∪ timedOut ↔ id ∈ reopened) ∧
      closed ∩ timedOut ⊆ reopened ∧
      r.census.active + r.census.closed + r.census.timedOut ≤
        r.census.total + 2 * reopened.card ∧
      (reopened = ∅ → Disjoint active (closed ∪ timedOut) ∧ Disjoint closed timedOut ∧
        r.census.active + r.census.closed + r.census.timedOut ≤ r.census.total) := by
  intro moments r active closed timedOut reopened
  have hsound : r.IsSound := Registry.isSound_run (Registry.isSound_empty profile latency) history
  have htracked : r.Tracked closed timedOut reopened :=
    Registry.tracked_run profile latency history
  have hactive : r.census.active = active.card := (Registry.card_keysWhere hsound _).symm
  have hclosed : r.census.closed = closed.card :=
    Registry.card_of_marked hsound htracked.closed_marked
  have htimed : r.census.timedOut = timedOut.card :=
    Registry.card_of_marked hsound htracked.timedOut_marked
  have hmem : ∀ id, id ∈ active ↔ ∃ c, r.get? id = some c ∧ c.state = .established := by
    intro id
    simp only [active, Registry.mem_keysWhere hsound, decide_eq_true_eq]
  have hopen : ∀ id ∈ active, id ∈ closed ∪ timedOut ↔ id ∈ reopened := by
    intro id hid
    obtain ⟨c, hget, hstate⟩ := (hmem id).1 hid
    have hunclosed : c.state ≠ .closed := hstate ▸ by decide
    exact ⟨htracked.open_subset id c hget hunclosed, fun h => htracked.reopened_subset h⟩
  have hsum : active.card + closed.card + timedOut.card ≤ r.census.total + 2 * reopened.card := by
    refine htracked.sum_le ?_ ?_
    · intro id hid
      obtain ⟨c, hget, -⟩ := (hmem id).1 hid
      exact (Registry.mem_keys hsound).2 ⟨c, hget⟩
    · intro id hid
      obtain ⟨hid, hmark⟩ := Finset.mem_inter.1 hid
      exact (hopen id hid).1 hmark
  refine ⟨⟨hactive, hclosed, htimed⟩, ?_, hopen, htracked.inter_subset, ?_, ?_⟩
  · intro id c hget
    refine ⟨?_, (htracked.closed_marked.held id c hget).symm,
      (htracked.timedOut_marked.held id c hget).symm⟩
    simp [hmem, hget]
  · rw [hactive, hclosed, htimed]
    exact hsum
  · intro hnone
    rw [hnone, Finset.card_empty] at hsum
    refine ⟨Finset.disjoint_left.2 fun id hid hmark => ?_, ?_, ?_⟩
    · exact Finset.notMem_empty id (hnone ▸ (hopen id hid).1 hmark)
    · rw [Finset.disjoint_iff_inter_eq_empty, ← Finset.subset_empty, ← hnone]
      exact htracked.inter_subset
    · rw [hactive, hclosed, htimed]
      exact hsum

/-- One connection is closed in order, one is forced closed, one stays established; none is
reopened. -/
theorem counted_once_unless_reopened_three_connections :
    let history : List (Instant × Operation) :=
      [(0, .create ⟨"10.0.0.1", 1⟩ ⟨"10.0.0.2", 2⟩ 5), (1, .create ⟨"10.0.0.1", 3⟩ ⟨"10.0.0.2", 2⟩ 6),
        (2, .create ⟨"10.0.0.1", 4⟩ ⟨"10.0.0.2", 2⟩ 7), (3, .establish ⟨1⟩), (4, .establish ⟨2⟩),
        (9, .establish ⟨3⟩), (10, .close ⟨1⟩), (11, .reclaim 11 5), (12, .purge)]
    let moments := (Registry.empty {} .none).moments history
    let census := ((Registry.empty {} .none).run history).2.census
    (moments.flatMap Moment.reopened).toFinset = ∅ ∧
      Disjoint (moments.flatMap Moment.closed).toFinset (moments.flatMap Moment.forced).toFinset ∧
      census.active + census.closed + census.timedOut ≤ census.total ∧
      (census.active, census.closed, census.timedOut, census.total) = (1, 1, 1, 3) := by
  intro history moments census
  have hlist : moments.flatMap Moment.reopened = [] := by decide +kernel
  have hnone : (moments.flatMap Moment.reopened).toFinset = ∅ := by rw [hlist, List.toFinset_nil]
  obtain ⟨-, -, -, -, -, hdisjoint⟩ := counted_once_unless_reopened {} .none history
  obtain ⟨-, hmarks, hsum⟩ := hdisjoint hnone
  exact ⟨hnone, hmarks, hsum, by decide +kernel⟩

/-- A connection that is reopened after it was closed in order, and again after it was forced
closed, counts as active, as closed and as timed out. -/
theorem reopened_counts_three_times :
    let history : List (Instant × Operation) :=
      [(0, .create ⟨"127.0.0.1", 8000⟩ ⟨"10.0.0.1", 80⟩ 1000), (1, .establish ⟨1⟩), (2, .close ⟨1⟩),
        (3, .establish ⟨1⟩), (4, .reclaim 4 0), (5, .establish ⟨1⟩)]
    let r := ((Registry.empty {} .none).run history).2
    (∃ c, r.get? ⟨1⟩ = some c ∧ c.state = .established ∧ c.block.gracefullyClosed = true ∧
        c.block.timedOut = true) ∧
      ¬ r.census.active + r.census.closed + r.census.timedOut ≤ r.census.total := by
  intro history r
  constructor
  · have hall : (r.get? ⟨1⟩).any (fun c => c.state = .established ∧
        c.block.gracefullyClosed = true ∧ c.block.timedOut = true) = true := by decide +kernel
    obtain ⟨c, hget, hc⟩ := (Option.any_eq_true ..).1 hall
    exact ⟨c, hget, of_decide_eq_true hc⟩
  · decide +kernel

end Switchboard
