import Switchboard.Proofs.Registry.Accounts

/-!
# Origins

What the block of a connection says about how it was made is never changed: its id, its ends, what
it was given by the profile, its initial sequence number, and the instant of its creation. So every
connection that is held can be led back to the creation that has made it (`Registry.made_run`).
-/

namespace Switchboard

namespace Block

/-- The block as it was when it was made. -/
def original (b : Block) : Block :=
  { b with
    state := .initial
    lastActivity := b.createdAt
    bytesSent := 0
    bytesReceived := 0
    packetsSent := 0
    packetsReceived := 0
    sequence := b.initialSequence
    transitions := 0
    timedOut := false
    gracefullyClosed := false }

/-- A block was made when its original was. -/
theorem createdAt_original (b : Block) : b.original.createdAt = b.createdAt := rfl

/-- A block counts from where its original did. -/
theorem initialSequence_original (b : Block) : b.original.initialSequence = b.initialSequence := rfl

/-- Entering states leaves the origin as it is. -/
theorem original_enterAll (b : Block) (now : Instant) (path : List State) :
    (b.enterAll now path).original = b.original := by
  rw [enterAll_eq]
  rfl

/-- Counting frames as sent leaves the origin as it is. -/
theorem original_foldl_noteSent (frames : List Bytes) (b : Block) (now : Instant) :
    (frames.foldl (fun b frame => b.noteSent frame.length now) b).original = b.original := by
  induction frames generalizing b with
  | nil => rfl
  | cons frame rest ih => exact ih _

end Block

namespace Connection

/-- Receiving leaves the origin as it is. -/
theorem original_receive (profile : Profile) (c : Connection) (chunk : Bytes) (now : Instant) :
    (c.receive profile chunk now).2.block.original = c.block.original := by
  cases hdata : c.block.carriesData with
  | false => rw [receive_of_not_carriesData profile chunk now hdata]
  | true =>
    rw [receive_eq profile chunk now hdata]
    exact Block.original_foldl_noteSent _ (c.block.noteReceived chunk.length now) now

end Connection

namespace Moment

variable {m : Moment} {id : ConnectionId} {c c' : Connection}

/-- No passage changes what a block says about how it was made. -/
theorem original_of_passage (h : m.Passage id c c') : c'.block.original = c.block.original := by
  cases h with
  | still | framesCollected | messagesCollected => rfl
  | entered path => exact Block.original_enterAll c.block m.now path
  | closed path => exact Block.original_enterAll c.block m.now path
  | forced => exact Block.original_enterAll c.block m.now [.closed]
  | sent text => exact Block.original_foldl_noteSent [encodeLine text] c.block m.now
  | received chunk => exact Connection.original_receive m.before.profile c chunk m.now

/-- The moment has made a connection under this id, and what its block says about that. -/
def Makes (m : Moment) (profile : Profile) (id : ConnectionId) (b : Block) : Prop :=
  ∃ localEnd remoteEnd isn, m.operation = .create localEnd remoteEnd isn ∧
    m.answer = .created id ∧ b.original = Block.fresh profile id localEnd remoteEnd isn m.now

/-- What a moment adds it has made. -/
theorem makes_of_mem_born (h : (id, c) ∈ m.operation.born m.before m.now) :
    m.Makes m.before.profile id c.block := by
  obtain ⟨r, now, op⟩ := m
  cases op with
  | create localEnd remoteEnd isn =>
    obtain ⟨rfl, rfl⟩ := Prod.mk.inj (List.mem_singleton.1 h)
    exact ⟨localEnd, remoteEnd, isn, rfl, rfl, rfl⟩
  | _ => cases h

end Moment

namespace Registry

/-- Every connection that a history leaves has been made in one of its moments. -/
theorem made_run {profile : Profile} {latency : Latency} {history : List (Instant × Operation)}
    {id : ConnectionId} {c : Connection}
    (hget : ((empty profile latency).run history).2.get? id = some c) :
    ∃ m ∈ (empty profile latency).moments history, m.Makes profile id c.block := by
  refine (history_induction (isSound_empty profile latency)
    (motive := fun past current => current.profile = profile ∧
      ∀ c, current.get? id = some c → ∃ m ∈ past, m.Makes profile id c.block) ?_ ?_ history).2.2 c
    hget
  · refine ⟨rfl, fun c hget => ?_⟩
    rw [get?_empty] at hget
    cases hget
  · rintro past m hsound ⟨hprofile, hheld⟩
    refine ⟨(profile_perform hsound m.now m.operation).trans hprofile, fun c hafter => ?_⟩
    rcases (Moment.get?_after_iff hsound).1 hafter with hborn | ⟨c₀, hget, -, -⟩
    · exact ⟨m, by simp, hprofile ▸ Moment.makes_of_mem_born hborn⟩
    · obtain ⟨maker, hmem, localEnd, remoteEnd, isn, hop, hanswer, horiginal⟩ := hheld c₀ hget
      have hkept := Moment.original_of_passage (Moment.passage hsound hget hafter)
      exact ⟨maker, List.mem_append_left _ hmem, localEnd, remoteEnd, isn, hop, hanswer,
        hkept.trans horiginal⟩

end Registry

end Switchboard
