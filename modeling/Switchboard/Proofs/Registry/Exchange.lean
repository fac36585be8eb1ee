import Switchboard.Proofs.Connection.Answering
import Switchboard.Proofs.Registry.Moments

/-!
# Exchanges between two connections

Two connections of one registry are joined by carrying the frames that one of them has transmitted to
the other, and back. Main statement: after one round trip nothing is left to be carried
(`relay_quiescent`). Whatever the first connection had to say, what comes back to it are answers, one
line each; it dispatches them or drops them, and says nothing. So two peers never keep each other
talking, under no policy and no limit.

The first connection must be at the beginning of a line when the answers come back; otherwise the
first answer would only end the line that is open. In what state the receiver of the second one is
does not matter.
-/

namespace Switchboard

namespace Registry

/-- Hand frames to a connection, one after the other, at the instants that a clock shows. -/
def deliverEach (r : Registry) (target : ConnectionId) (clock : Nat → Instant) :
    List Bytes → Registry
  | [] => r
  | frame :: later =>
    (r.deliver target frame (clock 0)).2.deliverEach target (fun n => clock (n + 1)) later

/-- Collect the frames that a connection has transmitted, and hand them to another one. -/
def relay (r : Registry) (source target : ConnectionId) (clock : Nat → Instant) :
    Except Fault (List Bytes) × Registry :=
  match r.drainOutbound source with
  | (.ok frames, drained) => (.ok frames, drained.deliverEach target clock frames)
  | (.error fault, same) => (.error fault, same)

/-- Between two connections nothing is left to be carried: a relay, in whatever direction, finds no
frame and changes no connection. -/
def Quiescent (r : Registry) (a b : ConnectionId) : Prop :=
  ∀ clock key, (r.relay a b clock).1 = .ok [] ∧ (r.relay b a clock).1 = .ok [] ∧
    (r.relay a b clock).2.get? key = r.get? key ∧ (r.relay b a clock).2.get? key = r.get? key

section Carrying

variable {r : Registry} {id target : ConnectionId} {c : Connection} {clock : Nat → Instant}

/-- What is found after a delivery. -/
theorem get?_deliver (r : Registry) (target key : ConnectionId) (chunk : Bytes) (now : Instant) :
    (r.deliver target chunk now).2.get? key =
      if key = target then (r.get? target).map fun c => (c.receive r.profile chunk now).2
      else r.get? key := by
  rw [deliver_eq_act, get?_act]

/-- Deliveries to one connection leave the others alone. -/
theorem get?_deliverEach_other (hne : id ≠ target) (frames : List Bytes) :
    (r.deliverEach target clock frames).get? id = r.get? id := by
  induction frames generalizing r clock with
  | nil => rfl
  | cons frame later ih => rw [deliverEach, ih, get?_deliver, if_neg hne]

/-- Whatever is delivered to an established connection, it stays established and adds answers to its
outbox. -/
theorem answers_deliverEach (clock : Nat → Instant) (hget : r.get? id = some c)
    (hopen : c.state = .established) (frames : List Bytes) :
    ∃ last answers, (r.deliverEach id clock frames).get? id = some last ∧
      last.state = .established ∧ last.outbox.toList = c.outbox.toList ++ answers ∧
      ∀ frame ∈ answers, IsAnswer frame := by
  induction frames generalizing r clock c with
  | nil => exact ⟨c, [], hget, hopen, (List.append_nil _).symm, by simp⟩
  | cons frame later ih =>
    have hdata : c.block.carriesData = true := decide_eq_true hopen
    obtain ⟨block, hreceive, hcarried⟩ :=
      Connection.receive_of_carriesData r.profile frame (clock 0) hdata
    have hafter : (r.deliver id frame (clock 0)).2.get? id =
        some (c.receive r.profile frame (clock 0)).2 := by
      rw [get?_deliver, if_pos rfl, hget, Option.map_some]
    rw [hreceive] at hafter
    obtain ⟨last, answers, hlast, hstate, houtbox, hanswers⟩ :=
      ih _ hafter (hcarried.state_eq.trans hopen)
    refine ⟨last, Message.answers r.profile.policy
      (c.receiver.feed r.profile.frameLimit frame).1 ++ answers, hlast, hstate, ?_, ?_⟩
    · rw [houtbox, Queue.toList_append, List.append_assoc]
    · intro answer hmem
      rcases List.mem_append.1 hmem with hfirst | hlater
      · exact Message.isAnswer_of_mem_answers
          (fun m hm => Receiver.exists_line_of_mem_feed _ _ _ hm) hfirst
      · exact hanswers answer hlater

/-- A clean connection that is established hears any number of answers without saying anything. -/
theorem informed_deliverEach (clock : Nat → Instant) (hget : r.get? id = some c)
    (hopen : c.state = .established) (hclean : c.receiver.IsClean) {frames : List Bytes}
    (hframes : ∀ frame ∈ frames, IsAnswer frame) :
    ∃ last, (r.deliverEach id clock frames).get? id = some last ∧
      Connection.Informed frames c last := by
  induction frames generalizing r clock c with
  | nil => exact ⟨c, hget, Connection.Informed.refl hclean⟩
  | cons frame later ih =>
    have hfirst := Connection.informed_receive hopen hclean (hframes frame (by simp)) r.profile
      (clock 0)
    have hafter : (r.deliver id frame (clock 0)).2.get? id =
        some (c.receive r.profile frame (clock 0)).2 := by
      rw [get?_deliver, if_pos rfl, hget, Option.map_some]
    obtain ⟨last, hlast, hlater⟩ := ih _ hafter (hfirst.carried.state_eq.trans hopen) hfirst.isClean
      fun frame hmem => hframes frame (by simp [hmem])
    exact ⟨last, hlast, hfirst.trans hlater⟩

/-- What is collected from a connection that is held is handed over. -/
theorem relay_of_get? (hget : r.get? id = some c) (target : ConnectionId) (clock : Nat → Instant) :
    r.relay id target clock = (.ok c.outbox.toList,
      (r.drainOutbound id).2.deliverEach target clock c.outbox.toList) := by
  have hfirst : (r.drainOutbound id).1 = .ok c.outbox.toList := by
    rw [drainOutbound, act, hget]
    rfl
  rw [relay]
  generalize r.drainOutbound id = outcome at hfirst ⊢
  obtain ⟨collected, drained⟩ := outcome
  obtain rfl : collected = .ok c.outbox.toList := hfirst
  rfl

/-- Where nothing has been transmitted, carrying it changes nothing. -/
theorem relay_of_empty (hget : r.get? id = some c) (hempty : c.outbox.toList = [])
    (target : ConnectionId) (clock : Nat → Instant) :
    (r.relay id target clock).1 = .ok [] ∧
      ∀ key, (r.relay id target clock).2.get? key = r.get? key := by
  rw [relay_of_get? hget, hempty]
  refine ⟨rfl, fun key => ?_⟩
  have hsame : { c with outbox := Queue.empty } = c := by
    obtain ⟨block, receiver, inbox, ⟨latestFirst⟩⟩ := c
    obtain rfl : latestFirst = [] := List.reverse_eq_nil_iff.1 hempty
    rfl
  rw [deliverEach, drainOutbound, get?_act]
  split
  · next hkey =>
    rw [hget, Option.map_some, hkey, hget]
    exact congrArg some hsame
  · rfl

/-- What is found after a relay: the source without its outbox, unless it is the target too. -/
theorem get?_relay_source (hget : r.get? id = some c) (hne : id ≠ target) :
    (r.relay id target clock).2.get? id = some { c with outbox := Queue.empty } := by
  rw [relay_of_get? hget, get?_deliverEach_other hne, drainOutbound, get?_act, if_pos rfl, hget]
  rfl

end Carrying

end Registry

/-- After one round trip between two established connections nothing is left to be carried: what comes
back are answers, and they are heard in silence. -/
theorem relay_quiescent (r : Registry) {a b : ConnectionId} {ca cb : Connection}
    (there back : Nat → Instant) (hne : a ≠ b) (ha : r.get? a = some ca) (hb : r.get? b = some cb)
    (haopen : ca.state = .established) (hbopen : cb.state = .established)
    (hclean : ca.receiver.IsClean) (hempty : cb.outbox.toList = []) :
    let first := r.relay a b there
    let second := first.2.relay b a back
    ∃ returned before after other,
      first.1 = .ok ca.outbox.toList ∧ second.1 = .ok returned ∧
      first.2.get? a = some before ∧ second.2.get? a = some after ∧
      second.2.get? b = some other ∧
      after.outbox.toList = [] ∧ other.outbox.toList = [] ∧
      after.receiver.buffer = [] ∧ after.receiver.discarding = false ∧
      after.block.packetsSent = before.block.packetsSent ∧
      (∃ messages dropped, after.inbox.toList = before.inbox.toList ++ messages ∧
        (∀ m ∈ messages, m.isReply = true) ∧
        after.receiver.dropped = before.receiver.dropped + dropped ∧
        returned.length = messages.length + dropped) ∧
      second.2.Quiescent a b := by
  intro first second
  have hdrained : (r.drainOutbound a).2.get? b = some cb := by
    rw [Registry.drainOutbound, Registry.get?_act, if_neg hne.symm, hb]
  obtain ⟨heard, answers, hheard, hheardOpen, houtbox, hanswers⟩ :=
    Registry.answers_deliverEach there hdrained hbopen ca.outbox.toList
  rw [hempty, List.nil_append] at houtbox
  have hfirst : first = (.ok ca.outbox.toList,
      (r.drainOutbound a).2.deliverEach b there ca.outbox.toList) := Registry.relay_of_get? ha b there
  have hbefore : first.2.get? a = some { ca with outbox := Queue.empty } :=
    Registry.get?_relay_source ha hne
  have hreturning : first.2.get? b = some heard := by rw [hfirst]; exact hheard
  -- The second relay carries answers, to a connection that was clean all the time.
  have hsecond : second = (.ok answers,
      (first.2.drainOutbound b).2.deliverEach a back answers) := by
    rw [← houtbox]
    exact Registry.relay_of_get? hreturning a back
  have hsilent : (first.2.drainOutbound b).2.get? a = some { ca with outbox := Queue.empty } := by
    rw [Registry.drainOutbound, Registry.get?_act, if_neg hne, hbefore]
  obtain ⟨after, hafter, hinformed⟩ :=
    Registry.informed_deliverEach back hsilent haopen hclean hanswers
  have hafter' : second.2.get? a = some after := by rw [hsecond]; exact hafter
  have hother : second.2.get? b = some { heard with outbox := Queue.empty } :=
    Registry.get?_relay_source hreturning hne.symm
  have hquiet : after.outbox.toList = [] := hinformed.outbox_eq
  refine ⟨answers, { ca with outbox := Queue.empty }, after, { heard with outbox := Queue.empty },
    congrArg Prod.fst hfirst, congrArg Prod.fst hsecond, hbefore, hafter', hother, hquiet, rfl,
    hinformed.isClean.buffer_eq, hinformed.isClean.discarding_eq, hinformed.carried.packetsSent_eq,
    hinformed.dispatched, ?_⟩
  intro clock key
  have hthere := Registry.relay_of_empty hafter' hquiet b clock
  have hback := Registry.relay_of_empty hother rfl a clock
  exact ⟨hthere.1, hback.1, hthere.2 key, hback.2 key⟩

/-- The second connection has half a line, and the first one sends the other half of it with another
line behind it, and then a third one. Three answers come back. One of them is longer than the line
that it answers, and exceeds the limit. -/
theorem relay_quiescent_small_limit :
    let opened : List (Instant × Operation) :=
      [(0, .create ⟨"10.0.0.1", 1⟩ ⟨"10.0.0.2", 2⟩ 5), (0, .create ⟨"10.0.0.3", 3⟩ ⟨"10.0.0.4", 4⟩ 6),
        (1, .establish ⟨1⟩), (1, .establish ⟨2⟩), (2, .deliver ⟨2⟩ (Utf8.encode "PIN")),
        (3, .send ⟨1⟩ "G\nECHO 1234"), (3, .send ⟨1⟩ "DATA x")]
    let r := ((Registry.empty { frameLimit := 12 } .none).run opened).2
    let first := r.relay ⟨1⟩ ⟨2⟩ id
    let second := first.2.relay ⟨2⟩ ⟨1⟩ id
    ∃ ca cb, (r.get? ⟨1⟩ = some ca ∧ r.get? ⟨2⟩ = some cb ∧ ca.state = .established ∧
      cb.state = .established ∧ ca.receiver.IsClean ∧ cb.outbox.toList = []) ∧
      first.1 = .ok [Utf8.encode "G\nECHO 1234\n", Utf8.encode "DATA x\n"] ∧
      second.1 = .ok [Utf8.encode "PONG \n", Utf8.encode "ECHO_REPLY 1234\n",
        Utf8.encode "ACK 6\n"] ∧
      second.2.waiting ⟨1⟩ = [.other "PONG ", .other "ACK 6"] ∧ second.2.Quiescent ⟨1⟩ ⟨2⟩ := by
  intro opened r first second
  have hheld : (r.get? ⟨1⟩).isSome = true ∧ (r.get? ⟨2⟩).isSome = true := by decide +kernel
  obtain ⟨ca, ha⟩ := Option.isSome_iff_exists.1 hheld.1
  obtain ⟨cb, hb⟩ := Option.isSome_iff_exists.1 hheld.2
  have hca : ∀ c ∈ r.get? ⟨1⟩, c.state = .established ∧ c.receiver.IsClean := by decide +kernel
  have hcb : ∀ c ∈ r.get? ⟨2⟩, c.state = .established ∧ c.outbox.toList = [] := by decide +kernel
  obtain ⟨haopen, hclean⟩ := hca ca ha
  obtain ⟨hbopen, hempty⟩ := hcb cb hb
  obtain ⟨-, -, -, -, -, -, -, -, -, -, -, -, -, -, -, hquiet⟩ :=
    relay_quiescent r id id (by decide) ha hb haopen hbopen hclean hempty
  exact ⟨ca, cb, ⟨ha, hb, haopen, hbopen, hclean, hempty⟩, by decide +kernel, by decide +kernel,
    by decide +kernel, hquiet⟩

end Switchboard
