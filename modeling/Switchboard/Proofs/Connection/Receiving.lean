import Switchboard.Proofs.Connection.Listening
import Switchboard.Proofs.Stream.Extraction

/-!
# Receiving

Two things that a connection can rely on when it receives, whatever comes in. Receiving comes to an end
and never advances a buffer beyond its end (`receive_ends`). And what waits between two operations on a
connection is no more than the beginning of a line within the limit, so the memory that a peer can take
is bounded, and no complete frame is left waiting (`handled_contained`).
-/

namespace Switchboard

/-- What can be done to a connection between two looks at what it holds. -/
inductive Handling
  | send (frame : Bytes) (now : Instant)
  | receive (chunk : Bytes) (now : Instant)
  | collectFrames
  | collectMessages
  | release
  | abort
  /-- The control block becomes any other one, by a step of the lifecycle, a forced closing or
  otherwise. -/
  | record (block : Block)
  deriving Repr, DecidableEq

namespace Connection

/-- The connection after it has been handled. What is refused leaves it as it is. -/
def handle (profile : Profile) (c : Connection) : Handling → Connection
  | .send frame now =>
    match c.send frame now with
    | .ok sent => sent
    | .error _ => c
  | .receive chunk now => (c.receive profile chunk now).2
  | .collectFrames => c.drainOutbound.2
  | .collectMessages => c.drainInbound.2
  | .release => c.release
  | .abort => c.abort
  | .record block => { c with block := block }

/-- The connection after it has been handled several times. -/
def handleAll (profile : Profile) (c : Connection) (handlings : List Handling) : Connection :=
  handlings.foldl (handle profile) c

section Contained

variable {profile : Profile} {c : Connection}

/-- Receiving leaves no more than there may be, if anything is received at all. -/
theorem contained_receive (h : c.receiver.Contained profile.frameLimit) (chunk : Bytes)
    (now : Instant) : (c.receive profile chunk now).2.receiver.Contained profile.frameLimit := by
  cases hdata : c.block.carriesData with
  | false =>
    rw [receive_of_not_carriesData profile chunk now hdata]
    exact h
  | true =>
    obtain ⟨block, hreceive, -⟩ := receive_of_carriesData profile chunk now hdata
    rw [hreceive]
    exact (Receiver.feed_spec profile.frameLimit c.receiver chunk).1

/-- However a connection is handled, it holds no more than it may. -/
theorem contained_handle (h : c.receiver.Contained profile.frameLimit) (handling : Handling) :
    (c.handle profile handling).receiver.Contained profile.frameLimit := by
  cases handling with
  | send frame now =>
    unfold handle send
    cases c.block.carriesData <;> exact h
  | receive chunk now => exact contained_receive h chunk now
  | release | abort => exact Receiver.contained_of_empty rfl profile.frameLimit
  | collectFrames | collectMessages | record => exact h

/-- However often a connection is handled, it holds no more than it may. -/
theorem contained_handleAll (h : c.receiver.Contained profile.frameLimit)
    (handlings : List Handling) :
    (c.handleAll profile handlings).receiver.Contained profile.frameLimit := by
  induction handlings generalizing c with
  | nil => exact h
  | cons handling later ih => exact ih (contained_handle h handling)

end Contained

/-- A connection that begins with nothing, and is then handled in any way, holds no delimiter and no
more bytes than the limit; while it skips an oversize frame it holds nothing. So there is no message to
be had of what it holds. -/
theorem handled_contained (profile : Profile) (block : Block) (handlings : List Handling) :
    let r := ((untouched block).handleAll profile handlings).receiver
    delimiter ∉ r.buffer ∧
      r.buffered ≤ profile.frameLimit ∧
      (r.discarding = true → r.buffer = []) ∧
      (r.extract profile.frameLimit).1 = [] := by
  intro r
  have hfresh : (untouched block).receiver.Contained profile.frameLimit :=
    Receiver.contained_of_empty rfl profile.frameLimit
  have hcontained : r.Contained profile.frameLimit := contained_handleAll hfresh handlings
  refine ⟨hcontained.delimiter_not_mem, ?_, hcontained.buffer_of_discarding,
    hcontained.extract_eq_nil⟩
  rw [Receiver.buffered_eq]
  exact hcontained.length_le

/-- A line that gets too long across two deliveries, with a step of the lifecycle in between. -/
theorem handled_contained_skipping :
    let profile : Profile := { frameLimit := 3 }
    let block : Block :=
      { Block.fresh profile ⟨1⟩ ⟨"127.0.0.1", 8000⟩ ⟨"10.0.0.1", 80⟩ 1000 0 with
        state := .established }
    let handlings : List Handling :=
      [.receive (Utf8.encode "a\nb") 1, .record { block with state := .finWait1 },
        .receive (Utf8.encode "\n") 2, .record block, .receive (Utf8.encode "cdefgh") 3]
    let r := ((untouched block).handleAll profile handlings).receiver
    r.discarding = true ∧ r.buffer = [] ∧ r.dropped = 1 := by
  intro profile block handlings r
  have hskip : r.discarding = true := by decide +kernel
  exact ⟨hskip, (handled_contained profile block handlings).2.2.1 hskip, by decide +kernel⟩

/-- Receiving comes to an end. Each advance is within the bytes held: where a skipped frame is left,
where a message is taken, and where an oversize frame is cut off. A look that is followed by another one
leaves fewer bytes, and so does a message that is taken out. So a loop that checks its advances, and may
look once more often than there are bytes, does not break down and takes out what is taken out without
checking; this is what a delivery dispatches, and what it leaves in the receiver. What is let go of is
nothing, a front that ends in a delimiter, or everything, and no more messages are dispatched than
there are delimiters. -/
theorem receive_ends (profile : Profile) (c : Connection) (chunk : Bytes) (now : Instant) :
    let limit := profile.frameLimit
    let r := c.receiver
    let heard := c.receive profile chunk now
    (∀ skipped, r.backlog.delimiterAt? = some skipped → skipped + 1 ≤ r.buffered) ∧
      (∀ m consumed, r.backlog.read limit = .complete m consumed → consumed ≤ r.buffered) ∧
      (∀ fault, r.backlog.read limit = .oversize fault → fault.terminated = true →
        fault.size + 1 ≤ r.buffered) ∧
      (∀ rest, r.look limit = .again rest → rest.buffered < r.buffered) ∧
      (∀ m rest, r.next limit = (some m, rest) → rest.buffered < r.buffered) ∧
      (∀ looks, r.buffered < looks → r.nextWithin limit looks = .ok (r.next limit)) ∧
      LetGo r.buffer (r.next limit).2.buffer ∧
      (∀ calls, (r.buffer ++ chunk).length < calls →
        r.feedWithin limit calls chunk = .ok (r.feed limit chunk)) ∧
      (c.state = .established → heard.1 = (r.feed limit chunk).1.length ∧
        heard.2.inbox.toList = c.inbox.toList ++ (r.feed limit chunk).1 ∧
        heard.2.receiver = (r.feed limit chunk).2) ∧
      heard.1 ≤ (r.buffer ++ chunk).count delimiter ∧
      (c.state = .established → LetGo (r.buffer ++ chunk) heard.2.receiver.buffer) := by
  intro limit r heard
  obtain ⟨-, hleft, hfew⟩ := Receiver.feed_spec limit r chunk
  have hfeeds : c.state = .established → heard.1 = (r.feed limit chunk).1.length ∧
      heard.2.inbox.toList = c.inbox.toList ++ (r.feed limit chunk).1 ∧
      heard.2.receiver = (r.feed limit chunk).2 := by
    intro hopen
    obtain ⟨block, hreceive, -⟩ :=
      receive_of_carriesData profile chunk now (decide_eq_true hopen)
    rw [show heard = _ from hreceive]
    exact ⟨rfl, Queue.toList_append _ _, rfl⟩
  refine ⟨fun _ => Receiver.skipped_lt_buffered, fun _ _ => Receiver.consumed_le_buffered,
    fun _ => Receiver.size_lt_buffered, fun _ => Receiver.look_again_buffered,
    fun _ _ => Receiver.next_some_buffered, fun _ => Receiver.nextWithin_eq,
    Receiver.letGo_next limit r, fun _ => Receiver.feedWithin_eq, hfeeds, ?_, ?_⟩
  · by_cases hopen : c.state = .established
    · rw [(hfeeds hopen).1]
      exact hfew
    · have hheard : heard = (0, c) :=
        receive_of_not_carriesData profile chunk now (decide_eq_false hopen)
      rw [hheard]
      exact Nat.zero_le _
  · intro hopen
    rw [(hfeeds hopen).2.2]
    exact hleft

/-- A receiver that skips a line and then finds a message, and one that finds a message behind an
oversize line; both with the beginning of another line, which the chunk ends. -/
theorem receive_ends_between_lines :
    let profile : Profile := { frameLimit := 6 }
    let block : Block :=
      { Block.fresh profile ⟨1⟩ ⟨"127.0.0.1", 8000⟩ ⟨"10.0.0.1", 80⟩ 1000 0 with
        state := .established }
    let skipping : Receiver := ⟨Backlog.ofBytes (Utf8.encode "xx\nPING a\nEC"), true, 0⟩
    let overlong : Receiver := ⟨Backlog.ofBytes (Utf8.encode "ECHO abc\nPING b\nEC"), false, 0⟩
    let behind : Receiver := ⟨Backlog.ofBytes (Utf8.encode "PING b\nEC"), false, 1⟩
    let last : Receiver := ⟨Backlog.ofBytes (Utf8.encode "EC"), false, 0⟩
    let chunk := Utf8.encode "HO\n"
    let heard := ({ untouched block with receiver := skipping } : Connection).receive profile chunk 1
    block.state = .established ∧
      (skipping.backlog.delimiterAt? = some 2 ∧ 2 + 1 ≤ skipping.buffered) ∧
      (skipping.backlog.read 6 = .complete (.other "xx") 3 ∧ 3 ≤ skipping.buffered) ∧
      (overlong.backlog.read 6 = .oversize ⟨8, 6, true⟩ ∧ 8 + 1 ≤ overlong.buffered) ∧
      (overlong.look 6 = .again behind ∧ behind.buffered < overlong.buffered) ∧
      (skipping.next 6 = (some (.ping "a"), last) ∧ last.buffered < skipping.buffered) ∧
      (skipping.buffered < 13 ∧ skipping.nextWithin 6 13 = .ok (some (.ping "a"), last)) ∧
      ((skipping.buffer ++ chunk).length < 16 ∧
        skipping.feedWithin 6 16 chunk = .ok (skipping.feed 6 chunk)) ∧
      heard.2.receiver = (skipping.feed 6 chunk).2 ∧
      (heard.1 = 2 ∧ 2 ≤ (skipping.buffer ++ chunk).count delimiter) ∧
      LetGo (skipping.buffer ++ chunk) heard.2.receiver.buffer := by
  intro profile block skipping overlong behind last chunk heard
  have hskipped : skipping.backlog.delimiterAt? = some 2 := by decide
  have hread : skipping.backlog.read 6 = .complete (.other "xx") 3 := by decide
  have hlong : overlong.backlog.read 6 = .oversize ⟨8, 6, true⟩ := by decide
  have hlook : overlong.look 6 = .again behind := rfl
  have hnext : skipping.next 6 = (some (.ping "a"), last) := by decide +kernel
  have hlooks : skipping.buffered < 13 := by decide
  have hcalls : (skipping.buffer ++ chunk).length < 16 := by decide
  have hcount : heard.1 = 2 := by decide +kernel
  obtain ⟨hskip, hcomplete, -, -, hfound, hwithin, -, hfed, hfeeds, hfew, hleft⟩ :=
    receive_ends profile { untouched block with receiver := skipping } chunk 1
  obtain ⟨-, -, hoversize, hagain, -⟩ :=
    receive_ends profile { untouched block with receiver := overlong } chunk 1
  exact ⟨rfl, ⟨hskipped, hskip 2 hskipped⟩, ⟨hread, hcomplete _ 3 hread⟩,
    ⟨hlong, hoversize _ hlong rfl⟩, ⟨hlook, hagain _ hlook⟩, ⟨hnext, hfound _ _ hnext⟩,
    ⟨hlooks, (hwithin 13 hlooks).trans (congrArg Except.ok hnext)⟩, ⟨hcalls, hfed 16 hcalls⟩,
    (hfeeds rfl).2.2, ⟨hcount, hcount ▸ hfew⟩, hleft rfl⟩

end Connection

end Switchboard
