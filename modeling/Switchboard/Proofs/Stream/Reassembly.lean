import Switchboard.Connection.Receiver
import Switchboard.Proofs.Stream.Lines

/-!
# Reassembly

A receiver is fed a stream in chunks and keeps a buffer and a flag between them. Here its state is
tied to the stream itself: a receiver *follows* a stream if its buffer, its flag and its count of
dropped frames are what the lines of the stream say. Feeding a chunk continues the stream, and the
messages that come out are those that the longer stream has in addition (`follows_feed`), wherever
the stream has been cut. Here the messages are taken out all at once (`feed`); a connection answers
each of them before it takes out the next.

An oversize line can be noticed before or after its delimiter has come in. Both ways count it once
and skip it up to the same place; this is what `extractOnto_ready` and `extractOnto_resuming` say.
-/

namespace Switchboard

namespace Frame

/-- The first delimiter stands behind the bytes that hold none. -/
theorem delimiterAt?_line {line : Bytes} (h : delimiter ∉ line) (rest : Bytes) :
    delimiterAt? (line ++ delimiter :: rest) = some line.length := by
  have none_in_front : line.findIdx? (· == delimiter) = none := by
    rw [List.findIdx?_eq_none_iff]
    intro byte hbyte
    have hne : byte ≠ delimiter := fun hb => h (hb ▸ hbyte)
    simpa using hne
  simp [delimiterAt?, List.findIdx?_append, none_in_front, List.findIdx?_cons]

/-- There is no first delimiter where there is none. -/
theorem delimiterAt?_of_not_mem {bytes : Bytes} (h : delimiter ∉ bytes) :
    delimiterAt? bytes = none := by
  rw [delimiterAt?, List.findIdx?_eq_none_iff]
  intro byte hbyte
  have hne : byte ≠ delimiter := fun hb => h (hb ▸ hbyte)
  simpa using hne

/-- A buffer that begins with a line is read as that line. -/
theorem read_line {line : Bytes} (h : delimiter ∉ line) (limit : Nat) (rest : Bytes) :
    read limit (line ++ delimiter :: rest) = .terminated limit line := by
  simp [read, delimiterAt?_line h]

/-- A buffer without a delimiter is read as the beginning of a line. -/
theorem read_of_not_mem {bytes : Bytes} (h : delimiter ∉ bytes) (limit : Nat) :
    read limit bytes = .unterminated limit bytes.length := by
  simp [read, delimiterAt?_of_not_mem h]

end Frame

namespace Receiver

/-- A receiver is where a stream leaves it, if it had dropped `before` frames when the stream
began and nothing was left of what came earlier. -/
structure Follows (limit before : Nat) (stream : Bytes) (r : Receiver) : Prop where
  buffer_eq : r.buffer = (Lines.ofStream stream).waiting limit
  discarding_eq : r.discarding = decide (limit < (Lines.ofStream stream).tail.length)
  dropped_eq : r.dropped = before + (Lines.ofStream stream).oversize limit

/-- Nothing waits, and nothing is being skipped. -/
structure IsClean (r : Receiver) : Prop where
  buffer_eq : r.buffer = []
  discarding_eq : r.discarding = false

/-- Being clean is decided by looking at the receiver. -/
instance (r : Receiver) : Decidable r.IsClean :=
  decidable_of_iff (r.buffer = [] ∧ r.discarding = false)
    ⟨fun h => ⟨h.1, h.2⟩, fun h => ⟨h.buffer_eq, h.discarding_eq⟩⟩

/-- A clean receiver stands at the beginning of a stream. -/
theorem IsClean.follows {r : Receiver} (h : r.IsClean) (limit : Nat) :
    r.Follows limit r.dropped [] where
  buffer_eq := by simp [h.buffer_eq, Lines.ofStream, Lines.waiting]
  discarding_eq := by simp [h.discarding_eq, Lines.ofStream]
  dropped_eq := by simp [Lines.ofStream, Lines.oversize]

/-- A receiver that follows a stream is clean exactly after a delimiter, and at the beginning. -/
theorem Follows.isClean_iff {limit before : Nat} {stream : Bytes} {r : Receiver}
    (h : r.Follows limit before stream) : r.IsClean ↔ (Lines.ofStream stream).tail = [] := by
  constructor
  · intro hclean
    have hfits : ¬ limit < (Lines.ofStream stream).tail.length := by
      simpa [hclean.discarding_eq] using h.discarding_eq
    simpa [hclean.buffer_eq, Lines.waiting, hfits] using h.buffer_eq
  · intro htail
    refine ⟨?_, ?_⟩
    · simp [h.buffer_eq, Lines.waiting, htail]
    · simp [h.discarding_eq, htail]

/-- A receiver that has received nothing is clean. -/
theorem isClean_fresh : fresh.IsClean := ⟨rfl, rfl⟩

/-- A receiver that has been released is clean. -/
theorem isClean_release (r : Receiver) : r.release.IsClean := ⟨rfl, rfl⟩

/-- The number of bytes that wait is that of the buffer. -/
theorem buffered_eq (r : Receiver) : r.buffered = r.buffer.length :=
  r.backlog.length_eq

section Look

variable {limit : Nat} {r : Receiver}

/-- The backlog is read as the bytes of the buffer. -/
theorem read_backlog : r.backlog.read limit = Frame.read limit r.buffer :=
  r.backlog.read_eq limit

/-- Behind the first line and its delimiter is the rest. -/
theorem drop_line {line rest : Bytes} (h : r.buffer = line ++ delimiter :: rest) :
    r.backlog.drop (line.length + 1) = Backlog.ofBytes rest := by
  have hbytes : r.backlog.bytes = line ++ delimiter :: rest := h
  rw [Backlog.drop, hbytes, List.drop_length_add_append, List.drop_one, List.tail_cons]

/-- Without anything to skip, a look is an inspection of the front. -/
theorem look_of_ready (h : r.discarding = false) : r.look limit = r.inspect limit := by
  simp [look, resume?, h]

/-- An accepted line at the front becomes a message. -/
theorem look_line_accepted (hready : r.discarding = false) {line rest : Bytes}
    (hbuffer : r.buffer = line ++ delimiter :: rest) (hline : delimiter ∉ line)
    (hfits : line.length ≤ limit) :
    r.look limit = .found (Message.ofFrame line) { r with backlog := Backlog.ofBytes rest } := by
  have hread : r.backlog.read limit = .complete (Message.ofFrame line) (line.length + 1) := by
    rw [read_backlog, hbuffer, Frame.read_line hline,
      Frame.Reading.terminated, if_neg (Nat.not_lt.2 hfits)]
  rw [look_of_ready hready, inspect, hread]
  simp only [drop_line hbuffer]

/-- An oversize line at the front that has ended is cut off and counted. -/
theorem look_line_oversize (hready : r.discarding = false) {line rest : Bytes}
    (hbuffer : r.buffer = line ++ delimiter :: rest) (hline : delimiter ∉ line)
    (hlong : limit < line.length) :
    r.look limit =
      .again { r with backlog := Backlog.ofBytes rest, dropped := r.dropped + 1 } := by
  have hread : r.backlog.read limit = .oversize ⟨line.length, limit, true⟩ := by
    rw [read_backlog, hbuffer, Frame.read_line hline,
      Frame.Reading.terminated, if_pos hlong]
  rw [look_of_ready hready, inspect, hread]
  simp only [drop_line hbuffer, if_true]

/-- The beginning of a line is kept while it is within the limit. -/
theorem look_tail_accepted (hready : r.discarding = false) (htail : delimiter ∉ r.buffer)
    (hfits : r.buffer.length ≤ limit) :
    r.look limit = .exhausted { r with backlog := r.backlog.settle } := by
  have hread : r.backlog.read limit = .incomplete := by
    rw [read_backlog, Frame.read_of_not_mem htail, Frame.Reading.unterminated,
      if_neg (Nat.not_lt.2 hfits)]
  rw [look_of_ready hready, inspect, hread]

/-- The beginning of an oversize line is let go of, and the rest of it will be skipped. -/
theorem look_tail_oversize (hready : r.discarding = false) (htail : delimiter ∉ r.buffer)
    (hlong : limit < r.buffer.length) :
    r.look limit = .exhausted ⟨Backlog.empty, true, r.dropped + 1⟩ := by
  have hread : r.backlog.read limit = .oversize ⟨r.buffer.length, limit, false⟩ := by
    rw [read_backlog, Frame.read_of_not_mem htail, Frame.Reading.unterminated, if_pos hlong]
  rw [look_of_ready hready, inspect, hread]
  simp

/-- While a line is being skipped, bytes without a delimiter are let go of. -/
theorem look_skipping (hskip : r.discarding = true) (htail : delimiter ∉ r.buffer) :
    r.look limit = .exhausted { r with backlog := Backlog.empty } := by
  have hnone : r.backlog.delimiterAt? = none := by
    rw [Backlog.delimiterAt?_eq]
    exact Frame.delimiterAt?_of_not_mem htail
  simp [look, resume?, hskip, hnone]

/-- The delimiter of the line that is being skipped ends the skipping. -/
theorem look_resuming (hskip : r.discarding = true) {skipped rest : Bytes}
    (hbuffer : r.buffer = skipped ++ delimiter :: rest) (hskipped : delimiter ∉ skipped) :
    r.look limit =
      look limit { r with backlog := Backlog.ofBytes rest, discarding := false } := by
  have hsome : r.backlog.delimiterAt? = some skipped.length := by
    have hbytes : r.backlog.bytes = skipped ++ delimiter :: rest := hbuffer
    rw [Backlog.delimiterAt?_eq, hbytes, Frame.delimiterAt?_line hskipped]
  simp [look, resume?, hskip, hsome, drop_line hbuffer]

end Look

/-- Every message that the buffer holds, in order, put after those already `taken` (in reverse). -/
def extractOnto (limit : Nat) (taken : List Message) (r : Receiver) : List Message × Receiver :=
  match _taken : r.next limit with
  | (some message, rest) => rest.extractOnto limit (message :: taken)
  | (none, rest) => (taken.reverse, rest)
termination_by r.buffer.length
decreasing_by exact next_some_length _taken

/-- Every message that the buffer holds, in order, and the receiver without them. -/
def extract (limit : Nat) (r : Receiver) : List Message × Receiver :=
  r.extractOnto limit []

/-- Take in a chunk of bytes: the messages that it completes, and the receiver afterwards. -/
def feed (limit : Nat) (r : Receiver) (chunk : Bytes) : List Message × Receiver :=
  { r with backlog := r.backlog.append chunk }.extract limit

section Extract

variable {limit : Nat} {r rest : Receiver} (taken : List Message)

/-- Taking messages out depends on a receiver only through what a look shows. -/
theorem extractOnto_congr (h : r.look limit = rest.look limit) :
    r.extractOnto limit taken = rest.extractOnto limit taken := by
  have hnext : r.next limit = rest.next limit := by
    rw [next, next, h]
  rw [extractOnto, extractOnto, hnext]

/-- A message that is found is the next one. -/
theorem next_of_found {m : Message} (h : r.look limit = .found m rest) :
    r.next limit = (some m, rest) := by
  rw [next]
  split <;> simp_all

/-- When there is nothing more to be had, there is no next message. -/
theorem next_of_exhausted (h : r.look limit = .exhausted rest) : r.next limit = (none, rest) := by
  rw [next]
  split <;> simp_all

/-- Behind an oversize line the next message is the next one of the rest. -/
theorem next_of_again (h : r.look limit = .again rest) : r.next limit = rest.next limit := by
  rw [next]
  split <;> simp_all

/-- The next message comes after those already taken. -/
theorem extractOnto_of_some {m : Message} (h : r.next limit = (some m, rest)) :
    r.extractOnto limit taken = rest.extractOnto limit (m :: taken) := by
  rw [extractOnto]
  split <;> simp_all

/-- Without a next message everything has been taken. -/
theorem extractOnto_of_none (h : r.next limit = (none, rest)) :
    r.extractOnto limit taken = (taken.reverse, rest) := by
  rw [extractOnto]
  split <;> simp_all

/-- A message that is found comes after those already taken. -/
theorem extractOnto_found {m : Message} (h : r.look limit = .found m rest) :
    r.extractOnto limit taken = rest.extractOnto limit (m :: taken) :=
  extractOnto_of_some taken (next_of_found h)

/-- An oversize line on the way changes nothing of what is taken. -/
theorem extractOnto_again (h : r.look limit = .again rest) :
    r.extractOnto limit taken = rest.extractOnto limit taken := by
  rw [extractOnto, extractOnto, next_of_again h]

/-- When there is nothing more to be had, everything has been taken. -/
theorem extractOnto_exhausted (h : r.look limit = .exhausted rest) :
    r.extractOnto limit taken = (taken.reverse, rest) :=
  extractOnto_of_none taken (next_of_exhausted h)

/-- A receiver that skips nothing takes the lines of its buffer for what they are. -/
theorem extractOnto_ready (limit : Nat) (bytes : Bytes) :
    ∀ (r : Receiver) (taken : List Message), r.discarding = false → r.buffer = bytes →
      (r.extractOnto limit taken).1 =
          taken.reverse ++ (Lines.ofStream bytes).messages limit ∧
        (r.extractOnto limit taken).2.Follows limit r.dropped bytes := by
  induction bytes using Lines.stream_induction with
  | tail bytes htail =>
    intro r taken hready hbuffer
    have hcut := Lines.ofStream_of_not_mem htail
    by_cases hlong : limit < bytes.length
    · rw [extractOnto_exhausted taken
        (look_tail_oversize hready (hbuffer ▸ htail) (hbuffer ▸ hlong)), hcut]
      refine ⟨by simp [Lines.messages], ?_, ?_, ?_⟩
      · simp [hcut, Lines.waiting, hlong, buffer]
      · simp [hcut, hlong]
      · simp [hcut, Lines.oversize, hlong]
    · rw [extractOnto_exhausted taken
        (look_tail_accepted hready (hbuffer ▸ htail) (hbuffer ▸ Nat.not_lt.1 hlong)), hcut]
      refine ⟨by simp [Lines.messages], ?_, ?_, ?_⟩
      · simpa [hcut, Lines.waiting, hlong, buffer] using hbuffer
      · simpa [hcut, hlong] using hready
      · simp [hcut, Lines.oversize, hlong]
  | line line rest hline ih =>
    intro r taken hready hbuffer
    by_cases hlong : limit < line.length
    · obtain ⟨hmessages, hbuf, hdisc, hdrop⟩ :=
        ih { r with backlog := Backlog.ofBytes rest, dropped := r.dropped + 1 } taken hready rfl
      rw [extractOnto_again taken (look_line_oversize hready hbuffer hline hlong)]
      rw [Lines.ofStream_line hline, Lines.messages_cons, if_neg (Nat.not_le.2 hlong)]
      refine ⟨hmessages, ?_, ?_, ?_⟩
      · rw [hbuf, Lines.ofStream_line hline]
        rfl
      · rw [hdisc, Lines.ofStream_line hline]
      · rw [hdrop, Lines.ofStream_line hline, Lines.oversize_cons, if_pos hlong, Nat.add_assoc]
    · have hfits : line.length ≤ limit := Nat.not_lt.1 hlong
      obtain ⟨hmessages, hbuf, hdisc, hdrop⟩ :=
        ih { r with backlog := Backlog.ofBytes rest } (Message.ofFrame line :: taken) hready rfl
      rw [extractOnto_found taken (look_line_accepted hready hbuffer hline hfits)]
      rw [Lines.ofStream_line hline, Lines.messages_cons, if_pos hfits]
      refine ⟨by simpa using hmessages, ?_, ?_, ?_⟩
      · rw [hbuf, Lines.ofStream_line hline]
        rfl
      · rw [hdisc, Lines.ofStream_line hline]
      · rw [hdrop, Lines.ofStream_line hline, Lines.oversize_cons, if_neg hlong, Nat.zero_add]

/-- A receiver that skips a line and sees no delimiter goes on skipping. -/
theorem extractOnto_skipping (limit : Nat) (hskip : r.discarding = true)
    (htail : delimiter ∉ r.buffer) :
    r.extractOnto limit taken = (taken.reverse, { r with backlog := Backlog.empty }) :=
  extractOnto_exhausted taken (look_skipping hskip htail)

/-- A receiver that skips a line takes what stands behind its delimiter. -/
theorem extractOnto_resuming (limit : Nat) (hskip : r.discarding = true) {skipped behind : Bytes}
    (hbuffer : r.buffer = skipped ++ delimiter :: behind) (hskipped : delimiter ∉ skipped) :
    (r.extractOnto limit taken).1 =
        taken.reverse ++ (Lines.ofStream behind).messages limit ∧
      (r.extractOnto limit taken).2.Follows limit r.dropped behind := by
  rw [extractOnto_congr taken (look_resuming hskip hbuffer hskipped)]
  exact extractOnto_ready limit behind _ taken rfl rfl

end Extract

section Feed

variable {limit before : Nat} {stream : Bytes} {r : Receiver}

/-- Feeding a receiver that keeps the tail of its stream. -/
theorem follows_feed_ready (h : r.Follows limit before stream)
    (hfits : ¬ limit < (Lines.ofStream stream).tail.length) (chunk : Bytes) :
    (Lines.ofStream (stream ++ chunk)).messages limit =
        (Lines.ofStream stream).messages limit ++ (r.feed limit chunk).1 ∧
      (r.feed limit chunk).2.Follows limit before (stream ++ chunk) := by
  have hready : r.discarding = false := by simp [h.discarding_eq, hfits]
  have hbuffer : buffer { r with backlog := r.backlog.append chunk } =
      (Lines.ofStream stream).tail ++ chunk := by
    have hkept := h.buffer_eq
    rw [Lines.waiting, if_neg hfits] at hkept
    simp [buffer, ← hkept]
  obtain ⟨hmessages, hbuf, hdisc, hdrop⟩ := extractOnto_ready limit _
    { r with backlog := r.backlog.append chunk } [] hready hbuffer
  have hcut := Lines.ofStream_append stream chunk
  refine ⟨?_, ?_, ?_, ?_⟩
  · rw [hcut, Lines.messages_append, feed, extract, hmessages]
    rfl
  · rw [feed, extract, hbuf, hcut]
    rfl
  · rw [feed, extract, hdisc, hcut]
  · rw [feed, extract, hdrop, hcut, Lines.oversize_append, h.dropped_eq]
    simp [Lines.oversize, hfits, Nat.add_assoc]

/-- Feeding a receiver that skips the tail of its stream. -/
theorem follows_feed_discarding (h : r.Follows limit before stream)
    (hlong : limit < (Lines.ofStream stream).tail.length) (chunk : Bytes) :
    (Lines.ofStream (stream ++ chunk)).messages limit =
        (Lines.ofStream stream).messages limit ++ (r.feed limit chunk).1 ∧
      (r.feed limit chunk).2.Follows limit before (stream ++ chunk) := by
  have hskip : r.discarding = true := by simp [h.discarding_eq, hlong]
  have hbuffer : buffer { r with backlog := r.backlog.append chunk } = chunk := by
    have hkept := h.buffer_eq
    rw [Lines.waiting, if_pos hlong] at hkept
    simpa [buffer] using hkept
  induction chunk using Lines.stream_induction with
  | tail chunk hnone =>
    have hcut := Lines.ofStream_append_of_not_mem stream hnone
    have hlonger : limit < ((Lines.ofStream stream).tail ++ chunk).length := by
      rw [List.length_append]
      omega
    have hout : r.feed limit chunk = ([], { r with backlog := Backlog.empty }) :=
      extractOnto_skipping [] limit hskip (hbuffer.symm ▸ hnone)
    rw [hout]
    refine ⟨?_, ?_, ?_, ?_⟩
    · simp [hcut, Lines.messages]
    · rw [hcut, Lines.waiting, if_pos hlonger]
      rfl
    · rw [hcut, decide_eq_true hlonger, hskip]
    · rw [hcut, Lines.oversize, if_pos hlonger, h.dropped_eq, Lines.oversize, if_pos hlong]
  | line skipped behind hskipped _ =>
    have hcut := Lines.ofStream_append_line stream hskipped behind
    have hlonger : limit < ((Lines.ofStream stream).tail ++ skipped).length := by
      rw [List.length_append]
      omega
    obtain ⟨hmessages, hbuf, hdisc, hdrop⟩ := extractOnto_resuming [] limit
      (r := { r with backlog := r.backlog.append (skipped ++ delimiter :: behind) }) hskip
      hbuffer hskipped
    refine ⟨?_, ?_, ?_, ?_⟩
    · rw [hcut, Lines.messages_append _ _ ⟨_ :: _, _⟩, Lines.messages_cons,
        if_neg (Nat.not_le.2 hlonger), feed, extract, hmessages]
      rfl
    · rw [feed, extract, hbuf, hcut]
      rfl
    · rw [feed, extract, hdisc, hcut]
    · rw [feed, extract, hdrop, hcut, Lines.oversize_append _ _ ⟨_ :: _, _⟩, Lines.oversize_cons,
        if_pos hlonger, h.dropped_eq, Lines.oversize, if_pos hlong]
      simp [Lines.oversize, Nat.add_assoc]

/-- A chunk continues the stream that a receiver follows, and brings out the messages that the
longer stream has in addition. -/
theorem follows_feed (h : r.Follows limit before stream) (chunk : Bytes) :
    (Lines.ofStream (stream ++ chunk)).messages limit =
        (Lines.ofStream stream).messages limit ++ (r.feed limit chunk).1 ∧
      (r.feed limit chunk).2.Follows limit before (stream ++ chunk) := by
  by_cases hlong : limit < (Lines.ofStream stream).tail.length
  · exact follows_feed_discarding h hlong chunk
  · exact follows_feed_ready h hlong chunk

end Feed

end Receiver

end Switchboard
