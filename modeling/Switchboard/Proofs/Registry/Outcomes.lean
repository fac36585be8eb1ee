import Mathlib.Data.Finset.Card
import Switchboard.Proofs.Registry.Contributions

/-!
# Outcomes

That a connection has been closed in order, or that it has been forced closed, is remembered in its
block and never forgotten. A census counts the connections that are held and remember it, and adds
those that have been removed. So it reports the number of connections that have the outcome, however
often and whenever it has come about (`marked_after`, `card_of_marked`).
-/

namespace Switchboard

/-- An outcome that a connection has once and for all. -/
inductive Outcome
  | closed
  | timedOut
  deriving Repr, DecidableEq

namespace Outcome

/-- Whether a block remembers the outcome. -/
def ofBlock (b : Block) : Outcome → Bool
  | closed => b.gracefullyClosed
  | timedOut => b.timedOut

/-- How many of the connections that have been removed had the outcome. -/
def ofTally (t : Tally) : Outcome → Nat
  | closed => t.closed
  | timedOut => t.timedOut

/-- What a census reports. -/
def ofCensus (c : Census) : Outcome → Nat
  | closed => c.closed
  | timedOut => c.timedOut

/-- The connections for which the outcome comes about in a moment. -/
def ofMoment (m : Moment) : Outcome → List ConnectionId
  | closed => m.closed
  | timedOut => m.forced

/-- Absorbing connections counts those that remember the outcome. -/
theorem ofTally_foldl_absorb (o : Outcome) (connections : List Connection) (t : Tally) :
    o.ofTally (connections.foldl (fun tally c => tally.absorb c.block) t) =
      o.ofTally t + connections.countP fun c => o.ofBlock c.block := by
  induction connections generalizing t with
  | nil => rfl
  | cons c rest ih =>
    have habsorb : o.ofTally (t.absorb c.block) = o.ofTally t + (o.ofBlock c.block).toNat := by
      cases o <;> rfl
    rw [List.foldl_cons, ih, habsorb, List.countP_cons, Nat.add_assoc, Nat.add_comm (Bool.toNat _)]
    cases o.ofBlock c.block <;> rfl

/-- Traffic brings about no outcome. -/
theorem ofBlock_of_carried {received sent : List Bytes} {b after : Block}
    (h : b.Carried received sent after) (o : Outcome) : o.ofBlock after = o.ofBlock b := by
  cases o
  · exact h.gracefullyClosed_eq
  · exact h.timedOut_eq

/-- Entering states brings about no outcome. -/
theorem ofBlock_enterAll (b : Block) (now : Instant) (path : List State) (o : Outcome) :
    o.ofBlock (b.enterAll now path) = o.ofBlock b := by
  rw [Block.enterAll_eq]
  cases o <;> rfl

/-- What is entered or not brings about no outcome. -/
theorem ofBlock_of_decided {p : Prop} [Decidable p] {c : Connection} {outcome : Bool × Connection}
    {now : Instant} {path : List State}
    (houtcome : outcome = if p then (true, c.enterAll now path) else (false, c)) (o : Outcome) :
    o.ofBlock outcome.2.block = o.ofBlock c.block :=
  Connection.keeps_of_decided houtcome (fun c => o.ofBlock c.block)
    (ofBlock_enterAll c.block now path o)

/-- Only closing in order and forced closing bring about an outcome. -/
theorem ofBlock_apply {op : Operation} {id : ConnectionId} (hop : op.target? = some id)
    (hclose : op ≠ .close id) (hpeer : op ≠ .peerClose id) (profile : Profile) (now : Instant)
    (c : Connection) (o : Outcome) :
    o.ofBlock (op.apply profile now c).block = o.ofBlock c.block := by
  cases op with
  | create | reclaim | purge | ids | size | census => cases hop
  | close =>
    cases hop
    exact absurd rfl hclose
  | peerClose =>
    cases hop
    exact absurd rfl hpeer
  | establish => exact ofBlock_of_decided (Connection.drive_handshake now c) o
  | accept => exact ofBlock_of_decided (Connection.drive_passiveOpen now c) o
  | listen => exact ofBlock_of_decided (Connection.advance_eq now c .listen) o
  | transition _ target => exact ofBlock_of_decided (Connection.advance_eq now c target) o
  | send _ text =>
    rw [Operation.apply]
    split
    · exact ofBlock_of_carried (Connection.carried_transmit c _ now) o
    · rfl
  | deliver _ chunk =>
    rw [Operation.apply]
    cases hdata : c.block.carriesData with
    | true =>
      obtain ⟨block, hreceive, hcarried⟩ :=
        Connection.receive_of_carriesData profile chunk now hdata
      rw [hreceive]
      exact ofBlock_of_carried hcarried o
    | false => rw [Connection.receive_of_not_carriesData profile chunk now hdata]
  | drainOutbound | drainInbound | state | block | contains => rfl

end Outcome

namespace Registry

variable {r : Registry} {id : ConnectionId} {c : Connection}

/-- The ids of the connections that pass a test. -/
def keysWhere (r : Registry) (test : Connection → Bool) : Finset ConnectionId :=
  ((r.entries.filter fun e => test e.2).map Prod.fst).toFinset

/-- The ids that are held. -/
def keys (r : Registry) : Finset ConnectionId :=
  r.keysWhere fun _ => true

/-- An id is listed if a connection is found under it that passes the test. -/
theorem mem_keysWhere (h : r.IsSound) {test : Connection → Bool} :
    id ∈ r.keysWhere test ↔ ∃ c, r.get? id = some c ∧ test c = true := by
  rw [keysWhere, List.mem_toFinset, List.mem_map]
  constructor
  · rintro ⟨⟨key, c⟩, he, rfl⟩
    obtain ⟨hmem, htest⟩ := List.mem_filter.1 he
    exact ⟨c, (mem_entries h).1 hmem, htest⟩
  · rintro ⟨c, hget, htest⟩
    exact ⟨(id, c), List.mem_filter.2 ⟨(mem_entries h).2 hget, htest⟩, rfl⟩

/-- An id is held if something is found under it. -/
theorem mem_keys (h : r.IsSound) : id ∈ r.keys ↔ ∃ c, r.get? id = some c := by
  simp [keys, mem_keysWhere h]

/-- As many ids are listed as connections pass the test. -/
theorem card_keysWhere (h : r.IsSound) (test : Connection → Bool) :
    (r.keysWhere test).card = r.connections.countP test := by
  have hnodup : ((r.entries.filter fun e => test e.2).map Prod.fst).Nodup :=
    (nodup_entries h).sublist (List.filter_sublist.map Prod.fst)
  rw [keysWhere, List.toFinset_card_of_nodup hnodup, List.length_map, connections_eq,
    List.countP_map, List.countP_eq_length_filter]
  rfl

/-- The connections that have an outcome are exactly these: held ones remember it, and the others
are counted in the tally. -/
structure Marked (r : Registry) (o : Outcome) (ids : Finset ConnectionId) : Prop where
  held : ∀ id c, r.get? id = some c → (o.ofBlock c.block = true ↔ id ∈ ids)
  known : ∀ id ∈ ids, id.raw ≤ r.lastId
  retired : o.ofTally r.retired = (ids \ r.keys).card

variable {o : Outcome} {marked : Finset ConnectionId}

/-- The ids that are held and have an outcome are those of the connections that remember it. -/
theorem Marked.inter_keysWhere (h : r.IsSound) (hmarked : r.Marked o marked)
    (test : Connection → Bool) :
    marked ∩ r.keysWhere test = r.keysWhere fun c => test c && o.ofBlock c.block := by
  ext id
  rw [Finset.mem_inter, mem_keysWhere h, mem_keysWhere h]
  constructor
  · rintro ⟨hmem, c, hget, htest⟩
    exact ⟨c, hget, by rw [htest, (hmarked.held id c hget).2 hmem]; rfl⟩
  · rintro ⟨c, hget, hboth⟩
    rw [Bool.and_eq_true] at hboth
    exact ⟨(hmarked.held id c hget).1 hboth.2, c, hget, hboth.1⟩

/-- The census reports the number of the connections that have an outcome. -/
theorem card_of_marked (h : r.IsSound) (hmarked : r.Marked o marked) :
    o.ofCensus r.census = marked.card := by
  have hcensus : o.ofCensus r.census =
      o.ofTally r.retired + r.connections.countP fun c => o.ofBlock c.block := by
    cases o <;> rfl
  have hinter := hmarked.inter_keysWhere h fun _ => true
  have hcard := Finset.card_sdiff_add_card_inter marked r.keys
  rw [keys, hinter, card_keysWhere h] at hcard
  rw [hcensus, hmarked.retired, ← hcard]
  rfl

end Registry

section Steps

variable {m : Moment} {id : ConnectionId} {c : Connection} {o : Outcome}
  {marked : Finset ConnectionId}

/-- An operation that neither closes in order nor passes over the connections brings about no
outcome. -/
theorem ofMoment_eq_nil (hclose : ∀ id, m.operation ≠ .close id)
    (hpeer : ∀ id, m.operation ≠ .peerClose id)
    (hreclaim : ∀ instant threshold, m.operation ≠ .reclaim instant threshold) (o : Outcome) :
    o.ofMoment m = [] := by
  obtain ⟨r, now, op⟩ := m
  cases op with
  | close id => exact absurd rfl (hclose id)
  | peerClose id => exact absurd rfl (hpeer id)
  | reclaim instant threshold => exact absurd rfl (hreclaim instant threshold)
  | _ => cases o <;> rfl

/-- Closing in order brings about its outcome for an established connection. -/
theorem ofBlock_of_closeAlong {path : List State} {outcome : Bool × Connection}
    (houtcome : outcome =
      if c.state = .established then (true, c.closedAlong m.now path) else (false, c))
    (hmoment : m.closed = if outcome.1 = true then [id] else []) (hforced : m.forced = []) :
    o.ofBlock outcome.2.block = true ↔ o.ofBlock c.block = true ∨ id ∈ o.ofMoment m := by
  have hkept := Outcome.ofBlock_enterAll c.block m.now path .timedOut
  rw [houtcome] at hmoment ⊢
  by_cases hopen : c.state = .established
  · rw [if_pos hopen] at hmoment ⊢
    cases o with
    | closed => simp [Outcome.ofMoment, hmoment, Outcome.ofBlock, Connection.closedAlong,
        Connection.release, Block.markGracefullyClosed]
    | timedOut =>
      rw [Outcome.ofMoment, hforced, ← hkept]
      simp [Outcome.ofBlock, Connection.closedAlong, Connection.release,
        Block.markGracefullyClosed]
  · rw [if_neg hopen] at hmoment ⊢
    cases o <;> simp [Outcome.ofMoment, hmoment, hforced]

/-- An outcome comes about only for the connection that an operation names, if it names one. -/
theorem eq_of_mem_ofMoment {named : ConnectionId} (hop : m.operation.target? = some named)
    (hmem : id ∈ o.ofMoment m) : id = named := by
  cases o with
  | closed =>
    rw [Outcome.ofMoment, Moment.closed] at hmem
    split at hmem
    · next heq _ =>
      rw [heq] at hop
      exact (List.mem_singleton.1 hmem).trans (Option.some.inj hop)
    · next heq _ =>
      rw [heq] at hop
      exact (List.mem_singleton.1 hmem).trans (Option.some.inj hop)
    · cases hmem
  | timedOut =>
    rw [Outcome.ofMoment, Moment.forced] at hmem
    split at hmem
    · next heq =>
      rw [heq] at hop
      cases hop
    · cases hmem

/-- An outcome comes about only for connections that are held. -/
theorem held_of_mem_ofMoment (h : m.before.IsSound) (hmem : id ∈ o.ofMoment m) :
    ∃ c, m.before.get? id = some c := by
  rw [← Option.isSome_iff_exists, ← Option.ne_none_iff_isSome]
  intro hmissing
  cases o with
  | closed =>
    rw [Outcome.ofMoment, Moment.closed] at hmem
    split at hmem
    · next heq hanswer =>
      obtain rfl := List.mem_singleton.1 hmem
      have hrefused := Moment.answer_missing (.decided (.error (.notFound id))) (by rw [heq]; rfl)
        hmissing (by rw [heq]; rfl)
      rw [hrefused] at hanswer
      cases hanswer
    · next heq hanswer =>
      obtain rfl := List.mem_singleton.1 hmem
      have hrefused := Moment.answer_missing (.decided (.error (.notFound id))) (by rw [heq]; rfl)
        hmissing (by rw [heq]; rfl)
      rw [hrefused] at hanswer
      cases hanswer
    · cases hmem
  | timedOut =>
    rw [Outcome.ofMoment, Moment.forced] at hmem
    split at hmem
    · obtain ⟨c, hget⟩ := (Registry.mem_ids h).1 (List.mem_filter.1 hmem).1
      rw [hmissing] at hget
      cases hget
    · cases hmem

/-- An operation that does not bring about an outcome lets every connection remember what it did. -/
theorem ofBlock_effect_of_quiet {op : Operation} (hclose : ∀ id, op ≠ .close id)
    (hpeer : ∀ id, op ≠ .peerClose id)
    (hreclaim : ∀ instant threshold, op ≠ .reclaim instant threshold) (profile : Profile)
    (now : Instant) (id : ConnectionId) (c : Connection) (o : Outcome) :
    o.ofBlock (op.effect profile now id c).block = o.ofBlock c.block := by
  rcases Registry.effect_cases op profile now id c with
    ⟨hop, heffect⟩ | ⟨instant, threshold, hop, -⟩ | ⟨-, -, heffect⟩
  · rw [heffect]
    exact Outcome.ofBlock_apply hop (hclose id) (hpeer id) profile now c o
  · exact absurd hop (hreclaim instant threshold)
  · rw [heffect]

/-- After an operation a connection remembers the outcome if it did before, or if it has just come
about. -/
theorem ofBlock_effect (h : m.before.IsSound) (hget : m.before.get? id = some c) (o : Outcome) :
    o.ofBlock (m.operation.effect m.before.profile m.now id c).block = true ↔
      o.ofBlock c.block = true ∨ id ∈ o.ofMoment m := by
  obtain ⟨r, now, op⟩ := m
  cases op with
  | reclaim instant threshold =>
    have hforced := Moment.mem_forced h rfl hget
    rw [Registry.effect_of_untargeted rfl, Operation.apply]
    cases o with
    | closed =>
      have hnone : Outcome.ofMoment ⟨r, now, .reclaim instant threshold⟩ .closed = [] := rfl
      rw [hnone]
      cases c.isStale instant threshold <;> simp [Outcome.ofBlock, Connection.forced,
        Connection.abort, Connection.release, Block.enterAll_eq]
    | timedOut =>
      rw [Outcome.ofMoment, hforced]
      cases c.isStale instant threshold <;> simp [Outcome.ofBlock, Connection.forced,
        Connection.abort, Connection.release]
  | close named =>
    by_cases hid : id = named
    · subst hid
      have hanswer := Moment.answer_held _ rfl hget rfl
      rw [Registry.effect_of_target rfl]
      refine ofBlock_of_closeAlong (Connection.closeAlong_teardown now c) ?_ rfl
      simp only [Moment.closed, hanswer]
      cases (c.closeAlong State.teardown now).1 <;> rfl
    · rw [Registry.effect_of_other rfl hid]
      exact (or_iff_left fun hmem => hid (eq_of_mem_ofMoment rfl hmem)).symm
  | peerClose named =>
    by_cases hid : id = named
    · subst hid
      have hanswer := Moment.answer_held _ rfl hget rfl
      rw [Registry.effect_of_target rfl]
      refine ofBlock_of_closeAlong (Connection.closeAlong_passiveClose now c) ?_ rfl
      simp only [Moment.closed, hanswer]
      cases (c.closeAlong State.passiveClose now).1 <;> rfl
    · rw [Registry.effect_of_other rfl hid]
      exact (or_iff_left fun hmem => hid (eq_of_mem_ofMoment rfl hmem)).symm
  | _ =>
    rw [ofBlock_effect_of_quiet (by simp) (by simp) (by simp),
      ofMoment_eq_nil (by simp) (by simp) (by simp)]
    simp

/-- The tally of an outcome after an operation. -/
theorem ofTally_after (h : m.before.IsSound) (o : Outcome) :
    o.ofTally m.after.retired = o.ofTally m.before.retired +
      m.before.connections.countP fun c => m.operation.removes c && o.ofBlock c.block := by
  rw [Moment.after, (Registry.effected_perform h m.now m.operation).retired_eq,
    Outcome.ofTally_foldl_absorb, List.countP_filter]
  simp only [Bool.and_comm]

/-- What is removed is removed by a purge, which brings about no outcome. -/
theorem ofMoment_of_removes (hremoves : m.operation.removes c = true) (o : Outcome) :
    o.ofMoment m = [] := by
  have hop : m.operation = .purge := by
    by_contra hne
    rw [Registry.removes_eq_false hne] at hremoves
    cases hremoves
  exact ofMoment_eq_nil (by simp [hop]) (by simp [hop]) (by simp [hop]) o

/-- A connection that is held and not removed is held after an operation. -/
theorem not_mem_keys_after_iff (h : m.before.IsSound) (hget : m.before.get? id = some c) :
    id ∉ m.after.keys ↔ m.operation.removes c = true := by
  rw [Registry.mem_keys (Moment.isSound_after h)]
  constructor
  · intro hgone
    by_contra hkept
    exact hgone ⟨_, (Moment.get?_after_iff h).2
      (.inr ⟨c, hget, eq_false_of_ne_true hkept, rfl⟩)⟩
  · rintro hremoves ⟨c', hafter⟩
    rcases (Moment.get?_after_iff h).1 hafter with hborn | ⟨c₀, hc₀, hkept, -⟩
    · exact Registry.not_mem_born (h.known id c hget) hborn
    · rw [hget] at hc₀
      obtain rfl := Option.some.inj hc₀
      rw [hremoves] at hkept
      cases hkept

/-- The connections that have an outcome and are not held after an operation are those that were not
held before, and those that have been removed. -/
theorem sdiff_keys_after (h : m.before.IsSound) (hmarked : m.before.Marked o marked) :
    (marked ∪ (o.ofMoment m).toFinset) \ m.after.keys =
      (marked \ m.before.keys) ∪ m.before.keysWhere fun c =>
        m.operation.removes c && o.ofBlock c.block := by
  ext id
  rw [Finset.mem_sdiff, Finset.mem_union, Finset.mem_union, Finset.mem_sdiff, List.mem_toFinset,
    Registry.mem_keysWhere h, Registry.mem_keys h]
  cases hget : m.before.get? id with
  | none =>
    have hnever : id ∉ o.ofMoment m := by
      intro hmem
      obtain ⟨c, hheld⟩ := held_of_mem_ofMoment h hmem
      rw [hget] at hheld
      cases hheld
    have hgone : id ∈ marked → id ∉ m.after.keys := by
      rw [Registry.mem_keys (Moment.isSound_after h)]
      rintro hmem ⟨c, hafter⟩
      rcases (Moment.get?_after_iff h).1 hafter with hborn | ⟨c₀, hc₀, -⟩
      · exact Registry.not_mem_born (hmarked.known id hmem) hborn
      · rw [hget] at hc₀
        cases hc₀
    simpa [hnever] using hgone
  | some c =>
    rw [not_mem_keys_after_iff h hget]
    have hheld := hmarked.held id c hget
    constructor
    · rintro ⟨hmem, hremoves⟩
      have hbefore : id ∈ marked := by
        simpa [ofMoment_of_removes hremoves] using hmem
      exact .inr ⟨c, rfl, by rw [hremoves, hheld.2 hbefore]; rfl⟩
    · rintro (⟨-, hmissing⟩ | ⟨c₀, hc₀, hboth⟩)
      · exact absurd ⟨c, rfl⟩ hmissing
      · obtain rfl := Option.some.inj hc₀
        rw [Bool.and_eq_true] at hboth
        exact ⟨.inl (hheld.1 hboth.2), hboth.1⟩

/-- The connections that have an outcome after an operation are those that had it, and those for
which it has come about. -/
theorem marked_after (h : m.before.IsSound) (hmarked : m.before.Marked o marked) :
    m.after.Marked o (marked ∪ (o.ofMoment m).toFinset) where
  held := by
    intro id c hafter
    rw [Finset.mem_union, List.mem_toFinset]
    rcases (Moment.get?_after_iff h).1 hafter with hborn | ⟨c₀, hget, -, rfl⟩
    · obtain ⟨localEnd, remoteEnd, isn, rfl⟩ := Registry.fresh_of_mem_born hborn
      have hraw := (Registry.raw_of_mem_born hborn).1
      have hunmarked : id ∉ marked := by
        intro hmem
        have hknown := hmarked.known id hmem
        omega
      have hnever : id ∉ o.ofMoment m := by
        intro hmem
        obtain ⟨c, hget⟩ := held_of_mem_ofMoment h hmem
        have hknown := h.known id c hget
        omega
      simp only [hunmarked, hnever, or_self, iff_false]
      cases o <;> exact Bool.false_ne_true
    · rw [ofBlock_effect h hget, hmarked.held id c₀ hget]
  known := by
    intro id hmem
    have hbefore : id.raw ≤ m.before.lastId := by
      rcases Finset.mem_union.1 hmem with hold | hnew
      · exact hmarked.known id hold
      · obtain ⟨c, hget⟩ := held_of_mem_ofMoment h (List.mem_toFinset.1 hnew)
        exact h.known id c hget
    exact hbefore.trans (Registry.lastId_le_perform h m.now m.operation)
  retired := by
    have hdisjoint : Disjoint (marked \ m.before.keys) (m.before.keysWhere fun c =>
        m.operation.removes c && o.ofBlock c.block) := by
      rw [Finset.disjoint_left]
      intro id hmem hwhere
      obtain ⟨c, hget, -⟩ := (Registry.mem_keysWhere h).1 hwhere
      exact (Finset.mem_sdiff.1 hmem).2 ((Registry.mem_keys h).2 ⟨c, hget⟩)
    rw [sdiff_keys_after h hmarked, Finset.card_union_of_disjoint hdisjoint, ofTally_after h,
      hmarked.retired, Registry.card_keysWhere h]

/-- In a registry that has never held a connection none has an outcome. -/
theorem marked_empty (profile : Profile) (latency : Latency) (o : Outcome) :
    (Registry.empty profile latency).Marked o ∅ where
  held := by
    intro id c hget
    rw [Registry.get?_empty] at hget
    cases hget
  known := by simp
  retired := by
    rw [Finset.empty_sdiff, Finset.card_empty]
    cases o <;> rfl

/-- After every history the connections that have an outcome are those for which it has come about
in some moment. -/
theorem marked_run (profile : Profile) (latency : Latency) (history : List (Instant × Operation))
    (o : Outcome) :
    o.ofCensus ((Registry.empty profile latency).run history).2.census =
      (((Registry.empty profile latency).moments history).flatMap o.ofMoment).toFinset.card := by
  have hempty := Registry.isSound_empty profile latency
  have hstep : ∀ (past : List Moment) (m : Moment), m.before.IsSound →
      m.before.Marked o (past.flatMap o.ofMoment).toFinset →
      m.after.Marked o ((past ++ [m]).flatMap o.ofMoment).toFinset := by
    intro past m hsound hpast
    rw [List.flatMap_append, List.toFinset_append, List.flatMap_singleton]
    exact marked_after hsound hpast
  obtain ⟨hsound, hmarked⟩ := Registry.history_induction hempty
    (motive := fun past r => r.Marked o (past.flatMap o.ofMoment).toFinset)
    (marked_empty profile latency o) hstep history
  exact Registry.card_of_marked hsound hmarked

end Steps

end Switchboard
