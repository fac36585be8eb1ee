import Mathlib.Data.List.DropRight
import Switchboard.Proofs.Registry.Accounts

/-!
# Queues of a connection

What has been put into the outbox or the inbox of a connection is collected once and in order, and
what has not been collected yet is still there; except for what is thrown away with a queue as a
whole. Only a forced closing throws frames away, and closing in order throws away messages as well.
Both queues obey the same law, moment by moment (`Flow.Moves`), and from it the main statement
follows for every history (`queues_exactly_once`).
-/

namespace Switchboard

namespace Flow

variable {α : Type} {flows : List (Flow α)} {flow : Flow α} {queue after : List α}

/-- What has been put into a queue, without what has been thrown away with it. What is thrown away
has come last. -/
def kept (flows : List (Flow α)) : List α :=
  flows.foldl (fun kept flow => kept.rdrop flow.lost.length ++ flow.added) []

/-- One more moment takes off what is thrown away in it, and adds what is put into the queue. -/
theorem kept_append_singleton (flows : List (Flow α)) (flow : Flow α) :
    kept (flows ++ [flow]) = (kept flows).rdrop flow.lost.length ++ flow.added := by
  rw [kept, List.foldl_append]
  rfl

/-- Where nothing is thrown away, everything is kept. -/
theorem kept_of_lossless (h : ∀ flow ∈ flows, flow.lost = []) :
    kept flows = flows.flatMap Flow.added := by
  induction flows using List.reverseRecOn with
  | nil => rfl
  | append_singleton flows flow ih =>
    rw [kept_append_singleton, h flow (by simp), ih fun flow hmem => h flow (by simp [hmem]),
      List.flatMap_append, List.flatMap_singleton, List.length_nil, List.rdrop_zero]

/-- What happens to a queue in a moment leads from what waits in it before to what waits after:
nothing else comes or goes, and it comes last and goes first. What is thrown away is the whole
queue. -/
structure Moves (flow : Flow α) (queue after : List α) : Prop where
  conserved : queue ++ flow.added = flow.lost ++ flow.collected ++ after
  whole : flow.lost = [] ∨ flow.lost = queue

/-- Nothing happens to the queue. -/
theorem moves_still (queue : List α) : Moves {} queue queue := ⟨by simp, .inl rfl⟩

/-- Elements are put behind those that wait. -/
theorem moves_added (queue added : List α) : Moves { added := added } queue (queue ++ added) :=
  ⟨rfl, .inl rfl⟩

/-- The queue is collected. -/
theorem moves_collected (queue : List α) : Moves { collected := queue } queue [] :=
  ⟨by simp, .inl rfl⟩

/-- The queue is thrown away. -/
theorem moves_lost (queue : List α) : Moves { lost := queue } queue [] := ⟨by simp, .inr rfl⟩

/-- What is kept has been collected or waits in the queue, after every moment. -/
theorem Moves.kept_eq (h : flow.Moves queue after)
    (hkept : flows.flatMap Flow.collected ++ queue = kept flows) :
    (flows ++ [flow]).flatMap Flow.collected ++ after = kept (flows ++ [flow]) := by
  have hconserved := h.conserved
  rw [kept_append_singleton, ← hkept, List.flatMap_append, List.flatMap_singleton]
  rcases h.whole with hnone | hall
  · rw [hnone, List.nil_append] at hconserved
    rw [hnone, List.length_nil, List.rdrop_zero, List.append_assoc, List.append_assoc, hconserved]
  · rw [hall, List.append_assoc, List.append_cancel_left_eq] at hconserved
    rw [hall, List.rdrop_append_length, List.append_assoc, hconserved]

end Flow

section Passages

variable {m : Moment} {id : ConnectionId} {c c' : Connection}

/-- Every passage moves the queues as its account says. -/
theorem moves_of_passage (h : m.Passage id c c') :
    (m.account id).outgoing.Moves c.outbox.toList c'.outbox.toList ∧
      (m.account id).incoming.Moves c.inbox.toList c'.inbox.toList := by
  cases h with
  | still h | entered _ _ h =>
    rw [h]
    exact ⟨Flow.moves_still _, Flow.moves_still _⟩
  | closed path hopen hwalk h =>
    rw [h]
    exact ⟨Flow.moves_still _, Flow.moves_lost _⟩
  | forced hopen hpass h =>
    rw [h]
    exact ⟨Flow.moves_lost _, Flow.moves_lost _⟩
  | sent text hopen h =>
    rw [h, Connection.outbox_transmit]
    exact ⟨Flow.moves_added _ _, Flow.moves_still _⟩
  | received chunk messages hopen hheard h =>
    have hdata : c.block.carriesData = true := decide_eq_true hopen
    obtain ⟨block, hreceive, -⟩ :=
      Connection.receive_of_carriesData m.before.profile chunk m.now hdata
    rw [h, hreceive, hheard, Queue.toList_append, Queue.toList_append]
    exact ⟨Flow.moves_added _ _, Flow.moves_added _ _⟩
  | framesCollected h =>
    rw [h]
    exact ⟨Flow.moves_collected _, Flow.moves_still _⟩
  | messagesCollected h =>
    rw [h]
    exact ⟨Flow.moves_still _, Flow.moves_collected _⟩

/-- Every passage counts the frames that are put into the outbox as sent. -/
theorem sent_of_passage (h : m.Passage id c c') :
    c'.block.bytesSent = c.block.bytesSent + (m.account id).outgoing.added.flatten.length ∧
      c'.block.packetsSent = c.block.packetsSent + (m.account id).outgoing.added.length := by
  cases h with
  | still h | framesCollected h | messagesCollected h =>
    rw [h]
    exact ⟨rfl, rfl⟩
  | entered path hwalk h =>
    have hblock : (c.enterAll m.now path).block = _ := Block.enterAll_eq c.block m.now path
    rw [h, hblock]
    exact ⟨rfl, rfl⟩
  | closed path hopen hwalk h =>
    rw [h, Connection.block_closedAlong]
    exact ⟨rfl, rfl⟩
  | forced hopen hpass h =>
    rw [h]
    exact ⟨rfl, rfl⟩
  | sent text hopen h =>
    have hcarried := Connection.carried_transmit c [encodeLine text] m.now
    rw [h]
    exact ⟨hcarried.bytesSent_eq, hcarried.packetsSent_eq⟩
  | received chunk messages hopen hheard h =>
    have hdata : c.block.carriesData = true := decide_eq_true hopen
    obtain ⟨block, hreceive, hcarried⟩ :=
      Connection.receive_of_carriesData m.before.profile chunk m.now hdata
    rw [hheard] at hcarried
    rw [h, hreceive]
    exact ⟨hcarried.bytesSent_eq, hcarried.packetsSent_eq⟩

end Passages

/-- What has become of everything that was put into the queues of a connection, and how much of it
the block has counted. -/
structure Connection.Conserved (accounts : List Account) (c : Connection) : Prop where
  outgoing : (accounts.map Account.outgoing).flatMap Flow.collected ++ c.outbox.toList =
    Flow.kept (accounts.map Account.outgoing)
  incoming : (accounts.map Account.incoming).flatMap Flow.collected ++ c.inbox.toList =
    Flow.kept (accounts.map Account.incoming)
  bytesSent_eq : c.block.bytesSent =
    ((accounts.map Account.outgoing).flatMap Flow.added).flatten.length
  packetsSent_eq : c.block.packetsSent =
    ((accounts.map Account.outgoing).flatMap Flow.added).length

namespace Flow

/-- Where nothing happens nothing is kept, and nothing has been put in or collected. -/
theorem kept_of_blank {α : Type} {accounts : List Account} (flow : Account → Flow α)
    (hflow : flow {} = {}) (hblank : ∀ a ∈ accounts, a = {}) :
    kept (accounts.map flow) = [] ∧ (accounts.map flow).flatMap Flow.added = [] ∧
      (accounts.map flow).flatMap Flow.collected = [] := by
  have hall : ∀ f ∈ accounts.map flow, f = {} := by
    intro f hf
    obtain ⟨a, ha, rfl⟩ := List.mem_map.1 hf
    rw [hblank a ha, hflow]
  have hadded : (accounts.map flow).flatMap Flow.added = [] :=
    List.flatMap_eq_nil_iff.2 fun f hf => by rw [hall f hf]
  refine ⟨?_, hadded, List.flatMap_eq_nil_iff.2 fun f hf => by rw [hall f hf]⟩
  rw [kept_of_lossless fun f hf => by rw [hall f hf], hadded]

end Flow

namespace Connection

/-- Nothing has been put into the queues of a new connection. -/
theorem conserved_fresh (profile : Profile) (id : ConnectionId) (localEnd remoteEnd : Endpoint)
    (isn : UInt32) (now : Instant) {blank : List Account} (hblank : ∀ a ∈ blank, a = {}) :
    Conserved blank (fresh profile id localEnd remoteEnd isn now) := by
  obtain ⟨hkept, hadded, hcollected⟩ := Flow.kept_of_blank Account.outgoing rfl hblank
  obtain ⟨hkept', -, hcollected'⟩ := Flow.kept_of_blank Account.incoming rfl hblank
  refine ⟨?_, ?_, ?_, ?_⟩
  · rw [hkept, hcollected]
    rfl
  · rw [hkept', hcollected']
    rfl
  · rw [hadded]
    rfl
  · rw [hadded]
    rfl

/-- Every passage conserves what is in the queues. -/
theorem Conserved.append {past : List Account} {m : Moment} {id : ConnectionId}
    {c after : Connection} (h : c.Conserved past) (hpassage : m.Passage id c after) :
    after.Conserved (past ++ [m.account id]) := by
  obtain ⟨hout, hin⟩ := moves_of_passage hpassage
  obtain ⟨hbytes, hpackets⟩ := sent_of_passage hpassage
  refine ⟨?_, ?_, ?_, ?_⟩
  · rw [List.map_append, List.map_singleton]
    exact hout.kept_eq h.outgoing
  · rw [List.map_append, List.map_singleton]
    exact hin.kept_eq h.incoming
  · rw [hbytes, h.bytesSent_eq, List.map_append, List.flatMap_append, List.map_singleton,
      List.flatMap_singleton, List.flatten_append, List.length_append]
  · rw [hpackets, h.packetsSent_eq, List.map_append, List.flatMap_append, List.map_singleton,
      List.flatMap_singleton, List.length_append]

end Connection

/-- Every history conserves what is in the queues of the connections that it leaves. -/
theorem Registry.conserved_run {profile : Profile} {latency : Latency}
    {history : List (Instant × Operation)} {id : ConnectionId} {c : Connection}
    (hget : ((Registry.empty profile latency).run history).2.get? id = some c) :
    c.Conserved (((Registry.empty profile latency).moments history).map fun m => m.account id) := by
  refine life_induction ?_ ?_ history hget
  · intro blank localEnd remoteEnd isn now hblank
    exact Connection.conserved_fresh profile id localEnd remoteEnd isn now hblank
  · intro past m c c' _ hpassage hconserved
    exact hconserved.append hpassage

/-- What waits in the queues of a connection, at any time, has come last of what has been kept. -/
theorem Registry.suffix_kept (profile : Profile) (latency : Latency)
    (history : List (Instant × Operation)) (id : ConnectionId) :
    let current := ((empty profile latency).run history).2
    let accounts := ((empty profile latency).moments history).map fun m => m.account id
    current.pending id <:+ Flow.kept (accounts.map Account.outgoing) ∧
      current.waiting id <:+ Flow.kept (accounts.map Account.incoming) := by
  intro current accounts
  cases hget : current.get? id with
  | none =>
    rw [pending, waiting, hget]
    exact ⟨List.nil_suffix, List.nil_suffix⟩
  | some c =>
    have hconserved := conserved_run hget
    rw [pending_of_get? hget, waiting_of_get? hget]
    exact ⟨⟨_, hconserved.outgoing⟩, ⟨_, hconserved.incoming⟩⟩

/-- The queues of every connection, after any history of a new registry. What has been collected,
followed by what waits, is what has been put in, less what was thrown away; that is each time what
waited at the end of it: in the outbox when the connection was forced closed, in the inbox when it was
closed in whatever way. A delivery puts into the inbox as many messages as it answers. The block
counts every frame that was put into the outbox, and if the connection has never been forced closed,
every one of them has been collected or waits. -/
theorem queues_exactly_once (profile : Profile) (latency : Latency)
    (history : List (Instant × Operation)) {id : ConnectionId} {c : Connection}
    (hget : ((Registry.empty profile latency).run history).2.get? id = some c) :
    let past := (Registry.empty profile latency).moments history
    let outgoing (ms : List Moment) := (ms.map fun m => m.account id).map Account.outgoing
    let incoming (ms : List Moment) := (ms.map fun m => m.account id).map Account.incoming
    let accepted := (outgoing past).flatMap Flow.added
    (outgoing past).flatMap Flow.collected ++ c.outbox.toList = Flow.kept (outgoing past) ∧
      (incoming past).flatMap Flow.collected ++ c.inbox.toList = Flow.kept (incoming past) ∧
      (∀ earlier m later, past = earlier ++ m :: later →
        (m.account id).outgoing.lost = (if id ∈ m.forced then m.before.pending id else []) ∧
          (m.account id).outgoing.lost <:+ Flow.kept (outgoing earlier) ∧
          (m.account id).incoming.lost =
            (if id ∈ m.forced ∨ (m.account id).closed = true then m.before.waiting id else []) ∧
          (m.account id).incoming.lost <:+ Flow.kept (incoming earlier) ∧
          ∀ chunk, m.operation = .deliver id chunk →
            m.answer = .counted (m.account id).incoming.added.length) ∧
      c.block.bytesSent = accepted.flatten.length ∧ c.block.packetsSent = accepted.length ∧
      ((∀ m ∈ past, id ∉ m.forced) →
        (outgoing past).flatMap Flow.collected ++ c.outbox.toList = accepted) := by
  intro past outgoing incoming accepted
  have hconserved := Registry.conserved_run hget
  refine ⟨hconserved.outgoing, hconserved.incoming, ?_, hconserved.bytesSent_eq,
    hconserved.packetsSent_eq, ?_⟩
  · intro earlier m later hsplit
    obtain ⟨history', hpast, hbefore⟩ := Registry.exists_of_moments_eq hsplit
    obtain ⟨hpending, hwaiting⟩ := Registry.suffix_kept profile latency history' id
    rw [← hbefore, ← hpast] at hpending hwaiting
    have hlost : (m.account id).outgoing.lost = _ := Moment.lost_account.1
    have hlost' : (m.account id).incoming.lost = _ := Moment.lost_account.2
    refine ⟨hlost, ?_, hlost', ?_, fun chunk hop => Moment.answer_deliver hop⟩
    · rw [hlost]
      split
      · exact hpending
      · exact List.nil_suffix
    · rw [hlost']
      split
      · exact hwaiting
      · exact List.nil_suffix
  · intro hkept
    refine hconserved.outgoing.trans (Flow.kept_of_lossless ?_)
    intro flow hflow
    rw [List.map_map] at hflow
    obtain ⟨m, hm, rfl⟩ := List.mem_map.1 hflow
    exact Moment.lost_account.1.trans (if_neg (hkept m hm))

/-- Of three connections under one id, the first is closed in order, with a frame and two messages
waiting, and the second is reclaimed. What the first has said goes down with the second. -/
theorem queues_exactly_once_reopened :
    let history : List (Instant × Operation) :=
      [(0, .create ⟨"10.0.0.1", 1⟩ ⟨"10.0.0.2", 2⟩ 5), (1, .establish ⟨1⟩),
        (2, .deliver ⟨1⟩ (Utf8.encode "PING a\nEC")), (3, .drainOutbound ⟨1⟩),
        (4, .deliver ⟨1⟩ (Utf8.encode "HO b\n")), (5, .close ⟨1⟩), (6, .establish ⟨1⟩),
        (7, .send ⟨1⟩ "x"), (8, .deliver ⟨1⟩ (Utf8.encode "PONG c\n")), (9, .drainInbound ⟨1⟩),
        (10, .reclaim 20 5), (11, .establish ⟨1⟩), (12, .deliver ⟨1⟩ (Utf8.encode "PING d\n"))]
    let accounts := ((Registry.empty {} .none).moments history).map fun m => m.account ⟨1⟩
    let collected := (accounts.map Account.outgoing).flatMap Flow.collected
    let heard := (accounts.map Account.incoming).flatMap Flow.collected
    ∃ c, ((Registry.empty {} .none).run history).2.get? ⟨1⟩ = some c ∧
      collected ++ c.outbox.toList = [Utf8.encode "PONG a\n", Utf8.encode "PONG d\n"] ∧
      heard ++ c.inbox.toList = [.other "PONG c", .ping "d"] ∧
      c.block.bytesSent = 29 ∧ c.block.packetsSent = 4 := by
  intro history accounts collected heard
  have hheld : (((Registry.empty {} .none).run history).2.get? ⟨1⟩).isSome = true := by
    decide +kernel
  obtain ⟨c, hget⟩ := Option.isSome_iff_exists.1 hheld
  obtain ⟨hout, hin, -, hbytes, hpackets, -⟩ := queues_exactly_once {} .none history hget
  exact ⟨c, hget, hout.trans (by decide +kernel), hin.trans (by decide +kernel),
    hbytes.trans (by decide +kernel), hpackets.trans (by decide +kernel)⟩

end Switchboard
