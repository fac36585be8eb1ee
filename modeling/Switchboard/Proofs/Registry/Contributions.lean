import Switchboard.Proofs.Connection.Transfer
import Switchboard.Proofs.Registry.Moments

/-!
# What moments contribute

An operation that names a connection changes the counters of its block by what can be seen of the
moment: the bytes received, the frames placed in an outbox, and the steps taken (`advanced_apply`).
If the connection is not held, nothing is seen either (`nothing_of_missing`).
-/

namespace Switchboard

namespace Block

/-- From one block to another, deliveries have been received, frames have been sent, and steps of
the lifecycle have been taken. -/
structure Advanced (received sent : List Bytes) (steps : Nat) (b after : Block) : Prop where
  bytesReceived_eq : after.bytesReceived = b.bytesReceived + received.flatten.length
  packetsReceived_eq : after.packetsReceived = b.packetsReceived + received.length
  bytesSent_eq : after.bytesSent = b.bytesSent + sent.flatten.length
  packetsSent_eq : after.packetsSent = b.packetsSent + sent.length
  transitions_eq : after.transitions = b.transitions + steps

/-- Where nothing happens, nothing is counted. -/
theorem Advanced.refl (b : Block) : Advanced [] [] 0 b b := by
  constructor <;> rfl

/-- Traffic is no step. -/
theorem Carried.advanced {received sent : List Bytes} {b after : Block}
    (h : Carried received sent b after) : Advanced received sent 0 b after :=
  ⟨h.bytesReceived_eq, h.packetsReceived_eq, h.bytesSent_eq, h.packetsSent_eq, h.transitions_eq⟩

/-- Entering states is no traffic. -/
theorem advanced_enterAll (b : Block) (now : Instant) (path : List State) :
    Advanced [] [] path.length b (b.enterAll now path) := by
  rw [enterAll_eq]
  constructor <;> rfl

/-- Closing in order takes the steps of the path. -/
theorem advanced_closedAlong (c : Connection) (now : Instant) (path : List State) :
    Advanced [] [] path.length c.block (c.closedAlong now path).block := by
  have h := advanced_enterAll c.block now path
  exact ⟨h.bytesReceived_eq, h.packetsReceived_eq, h.bytesSent_eq, h.packetsSent_eq,
    h.transitions_eq⟩

end Block

namespace Moment

variable {m : Moment} {id : ConnectionId} {c : Connection}

/-- An operation that is decided counts its steps if the decision is `true`. -/
theorem advanced_of_decided {p : Prop} [Decidable p] {outcome : Bool × Connection}
    {done : Connection} {count : Nat} (houtcome : outcome = if p then (true, done) else (false, c))
    (hdone : Block.Advanced [] [] count c.block done.block)
    (hreceived : m.received = []) (hplaced : m.placed = [])
    (hsteps : m.steps = if outcome.1 = true then count else 0)
    (happly : m.operation.apply m.before.profile m.now c = outcome.2) :
    Block.Advanced m.received m.placed m.steps c.block
      (m.operation.apply m.before.profile m.now c).block := by
  rw [hreceived, hplaced, hsteps, happly, houtcome]
  by_cases h : p
  · rw [if_pos h, if_pos rfl]
    exact hdone
  · rw [if_neg h, if_neg Bool.false_ne_true]
    exact Block.Advanced.refl c.block

/-- A delivery to an established connection is received, and answers are placed. -/
theorem advanced_deliver (h : m.before.IsSound) {chunk : Bytes}
    (hop : m.operation = .deliver id chunk) (hget : m.before.get? id = some c) :
    Block.Advanced m.received m.placed 0 c.block
      (c.receive m.before.profile chunk m.now).2.block := by
  have hafter := get?_after h (hop ▸ rfl) hget
  rw [hop, Operation.apply] at hafter
  have hreceived : m.received = if c.state = .established then [chunk] else [] := by
    simp [received, hop, Registry.state_of_get? hget]
  have hplaced : m.placed = Message.answers m.before.profile.policy (m.dispatched id) := by
    simp only [placed, hop]
  rw [hreceived, hplaced, dispatched, Registry.waiting_of_get? hafter,
    Registry.waiting_of_get? hget]
  by_cases hopen : c.state = .established
  · have hdata : c.block.carriesData = true := decide_eq_true hopen
    obtain ⟨block, hreceive, hcarried⟩ :=
      Connection.receive_of_carriesData m.before.profile chunk m.now hdata
    rw [if_pos hopen, hreceive]
    simpa using hcarried.advanced
  · have hdata : c.block.carriesData = false := decide_eq_false hopen
    rw [if_neg hopen, Connection.receive_of_not_carriesData _ _ _ hdata]
    simpa [Message.answers] using Block.Advanced.refl c.block

/-- An operation counts for the connection that it names what it receives, places and steps. -/
theorem advanced_apply (h : m.before.IsSound) (hop : m.operation.target? = some id)
    (hget : m.before.get? id = some c) :
    Block.Advanced m.received m.placed m.steps c.block
      (m.operation.apply m.before.profile m.now c).block := by
  obtain ⟨r, now, op⟩ := m
  have hheld := fun answer => answer_held answer hop hget
  cases op with
  | create | reclaim | purge | ids | size | census => cases hop
  | establish =>
    refine advanced_of_decided (Connection.drive_handshake now c)
      (Block.advanced_enterAll _ _ _) rfl rfl ?_ rfl
    simp only [steps, hheld _ rfl]
    cases (c.drive State.handshake now).1 <;> rfl
  | accept =>
    refine advanced_of_decided (Connection.drive_passiveOpen now c)
      (Block.advanced_enterAll _ _ _) rfl rfl ?_ rfl
    simp only [steps, hheld _ rfl]
    cases (c.drive State.passiveOpen now).1 <;> rfl
  | listen =>
    refine advanced_of_decided (Connection.advance_eq now c .listen)
      (Block.advanced_enterAll _ _ _) rfl rfl ?_ rfl
    simp only [steps, hheld _ rfl]
    cases (c.advance .listen now).1 <;> rfl
  | transition _ target =>
    refine advanced_of_decided (Connection.advance_eq now c target)
      (Block.advanced_enterAll _ _ _) rfl rfl ?_ rfl
    simp only [steps, hheld _ rfl]
    cases (c.advance target now).1 <;> rfl
  | close =>
    refine advanced_of_decided (Connection.closeAlong_teardown now c)
      (Block.advanced_closedAlong c now _) rfl rfl ?_ rfl
    simp only [steps, hheld _ rfl]
    cases (c.closeAlong State.teardown now).1 <;> rfl
  | peerClose =>
    refine advanced_of_decided (Connection.closeAlong_passiveClose now c)
      (Block.advanced_closedAlong c now _) rfl rfl ?_ rfl
    simp only [steps, hheld _ rfl]
    cases (c.closeAlong State.passiveClose now).1 <;> rfl
  | send _ text =>
    have hanswer := hheld _ rfl
    simp only [received, placed, steps, hanswer, Operation.apply]
    by_cases hdata : c.block.carriesData = true
    · simpa [hdata] using (Connection.carried_transmit c [encodeLine text] now).advanced
    · simpa [hdata] using Block.Advanced.refl c.block
  | deliver _ chunk =>
    cases hop
    exact advanced_deliver h rfl hget
  | drainOutbound | drainInbound | state | block | contains =>
    exact Block.Advanced.refl c.block

/-- An operation counts nothing if the connection that it names is not held. -/
theorem nothing_of_missing (h : m.before.IsSound) (hop : m.operation.target? = some id)
    (hget : m.before.get? id = none) : m.received = [] ∧ m.placed = [] ∧ m.steps = 0 := by
  have hafter : m.after.waiting id = [] := by
    rw [Registry.waiting, after, Registry.get?_target h m.now hop, hget, Option.map_none]
  have hdispatched : m.dispatched id = [] := by rw [dispatched, hafter, List.drop_nil]
  have hstate : m.before.state id = .error (.notFound id) := by
    rw [Registry.state, Registry.look, hget]
  obtain ⟨r, now, op⟩ := m
  have hmissing := fun answer => answer_missing answer hop hget
  cases op with
  | create | reclaim | purge | ids | size | census => cases hop
  | deliver _ chunk =>
    cases hop
    refine ⟨?_, ?_, rfl⟩
    · simp only [received, hstate, reduceCtorEq, if_false]
    · simp only [placed, hdispatched, Message.answers, List.filterMap_nil]
  | send | establish | accept | listen | transition | close | peerClose =>
    cases hop
    simp [received, placed, steps, hmissing _ rfl]
  | drainOutbound | drainInbound | state | block | contains => exact ⟨rfl, rfl, rfl⟩

end Moment

end Switchboard
