import Switchboard.Proofs.Stream.Verdicts

/-!
# Extraction

Messages are taken out of a buffer by looking at its front again and again. Here it is shown what this
leaves behind, and that it comes to an end.

What has been passed over ends in a delimiter as long as the looking goes on; when there is nothing
more to be had, the rest is kept or all of it is let go of (`LetGo`). What is kept has no delimiter and
is within the limit (`Contained`), whatever the receiver held before (`extractOnto_spec`,
`feed_spec`).

A buffer cannot be advanced beyond its end, and a loop that goes on looking may not end at all. Both
are put into a second form of the loop, which checks each advance and has a number of looks to spend
(`nextWithin`, `extractWithin`). It never breaks down if it may look once more often than there are
bytes, and then it takes out what the other form does (`nextWithin_eq`, `extractWithin_eq`).
-/

namespace Switchboard

/-- The front of a buffer has been let go of, up to a delimiter and with it. -/
def CutBehindDelimiter (buffer left : Bytes) : Prop :=
  ∃ front, buffer = front ++ delimiter :: left

/-- Nothing of a buffer has been let go of, or a front that ends in a delimiter, or everything. -/
def LetGo (buffer left : Bytes) : Prop :=
  left = buffer ∨ CutBehindDelimiter buffer left ∨ left = []

namespace CutBehindDelimiter

variable {buffer middle left : Bytes}

/-- Two fronts that end in a delimiter are one. -/
theorem trans (first : CutBehindDelimiter buffer middle)
    (second : CutBehindDelimiter middle left) : CutBehindDelimiter buffer left := by
  obtain ⟨front, rfl⟩ := first
  obtain ⟨behind, rfl⟩ := second
  exact ⟨front ++ delimiter :: behind, by simp⟩

/-- With the front goes at least one delimiter. -/
theorem count_lt (h : CutBehindDelimiter buffer left) :
    left.count delimiter < buffer.count delimiter := by
  obtain ⟨front, rfl⟩ := h
  rw [List.count_append, List.count_cons_self]
  omega

/-- What is let go of after the front is let go of together with it. -/
theorem letGo (first : CutBehindDelimiter buffer middle) (second : LetGo middle left) :
    LetGo buffer left := by
  obtain rfl | hcut | hall := second
  · exact .inr (.inl first)
  · exact .inr (.inl (first.trans hcut))
  · exact .inr (.inr hall)

end CutBehindDelimiter

/-- Behind the first delimiter is the rest. -/
theorem cut_of_delimiterAt? {buffer : Bytes} {position : Nat}
    (h : Frame.delimiterAt? buffer = some position) :
    CutBehindDelimiter buffer (buffer.drop (position + 1)) := by
  obtain ⟨line, rest, rfl, hline⟩ | hnone := Frame.line_or_beginning buffer
  · rw [Frame.delimiterAt?_line hline] at h
    cases h
    exact ⟨line, by simp⟩
  · rw [Frame.delimiterAt?_of_not_mem hnone] at h
    cases h

namespace Receiver

/-- A receiver holds no more than the beginning of a line that is within the limit, and nothing while
a line is being skipped. -/
structure Contained (limit : Nat) (r : Receiver) : Prop where
  delimiter_not_mem : delimiter ∉ r.buffer
  length_le : r.buffer.length ≤ limit
  buffer_of_discarding : r.discarding = true → r.buffer = []

/-- A receiver that holds nothing holds no more than it may. -/
theorem contained_of_empty {r : Receiver} (h : r.buffer = []) (limit : Nat) : r.Contained limit where
  delimiter_not_mem := h ▸ List.not_mem_nil
  length_le := h ▸ Nat.zero_le limit
  buffer_of_discarding _ := h

variable {limit : Nat} {r rest : Receiver} {m : Message}

section Look

/-- When the skipping is over, nothing is being skipped, and at most a front that ends in a delimiter
has been let go of. -/
theorem resume?_spec {ready : Receiver} (h : r.resume? = some ready) :
    ready.discarding = false ∧
      (ready.buffer = r.buffer ∨ CutBehindDelimiter r.buffer ready.buffer) := by
  unfold resume? at h
  split at h
  · split at h
    · next skipped hskipped =>
      obtain rfl := Option.some.inj h
      rw [Backlog.delimiterAt?_eq] at hskipped
      exact ⟨rfl, .inr (cut_of_delimiterAt? hskipped)⟩
    · cases h
  · next hready =>
    obtain rfl := Option.some.inj h
    exact ⟨Bool.eq_false_iff.2 hready, .inl rfl⟩

/-- What is let go of after the skipping goes together with what has been skipped. -/
theorem cut_of_resume? {ready : Receiver} {left : Bytes} (h : r.resume? = some ready)
    (hcut : CutBehindDelimiter ready.buffer left) : CutBehindDelimiter r.buffer left := by
  obtain ⟨-, hsame | hskipped⟩ := resume?_spec h
  · exact hsame ▸ hcut
  · exact hskipped.trans hcut

/-- The frame of a message goes with its delimiter. -/
theorem inspect_found_cut (h : r.inspect limit = .found m rest) :
    CutBehindDelimiter r.buffer rest.buffer := by
  unfold inspect at h
  split at h
  · next hread =>
    obtain ⟨line, behind, hbuffer, -, -, -, rfl⟩ :=
      Frame.read_eq_complete_iff.1 (read_backlog.symm.trans hread)
    rw [drop_line hbuffer] at h
    cases h
    exact ⟨line, hbuffer⟩
  · cases h
  · split at h <;> cases h

/-- An oversize frame that has ended goes with its delimiter. -/
theorem inspect_again_cut (h : r.inspect limit = .again rest) :
    CutBehindDelimiter r.buffer rest.buffer := by
  unfold inspect at h
  split at h
  · cases h
  · cases h
  · next fault hread =>
    split at h
    · next hended =>
      obtain ⟨line, behind, hbuffer, -, -, rfl⟩ | ⟨-, -, rfl⟩ :=
        Frame.read_eq_oversize_iff.1 (read_backlog.symm.trans hread)
      · rw [drop_line hbuffer] at h
        cases h
        exact ⟨line, hbuffer⟩
      · cases hended
    · cases h

/-- What gives no message is kept if it is within the limit, and let go of if it is not. -/
theorem inspect_exhausted (hready : r.discarding = false) (h : r.inspect limit = .exhausted rest) :
    rest.Contained limit ∧ (rest.buffer = r.buffer ∨ rest.buffer = []) := by
  unfold inspect at h
  split at h
  · cases h
  · next hread =>
    obtain ⟨hnone, hfits⟩ := Frame.read_eq_incomplete_iff.1 (read_backlog.symm.trans hread)
    cases h
    have hkept : buffer { r with backlog := r.backlog.settle } = r.buffer := r.backlog.bytes_settle
    refine ⟨⟨hkept ▸ hnone, hkept ▸ hfits, fun hskip => ?_⟩, .inl hkept⟩
    rw [hready] at hskip
    cases hskip
  · split at h
    · cases h
    · cases h
      exact ⟨contained_of_empty rfl limit, .inr rfl⟩

/-- A look that finds a message lets go of a front that ends in a delimiter. -/
theorem look_found_cut (h : r.look limit = .found m rest) :
    CutBehindDelimiter r.buffer rest.buffer := by
  unfold look at h
  split at h
  · next ready hready => exact cut_of_resume? hready (inspect_found_cut h)
  · cases h

/-- A look after which there is another one lets go of a front that ends in a delimiter. -/
theorem look_again_cut (h : r.look limit = .again rest) :
    CutBehindDelimiter r.buffer rest.buffer := by
  unfold look at h
  split at h
  · next ready hready => exact cut_of_resume? hready (inspect_again_cut h)
  · cases h

/-- A last look leaves no more than there may be. -/
theorem look_exhausted (h : r.look limit = .exhausted rest) :
    rest.Contained limit ∧ LetGo r.buffer rest.buffer := by
  unfold look at h
  split at h
  · next ready hready =>
    obtain ⟨hidle, hfront⟩ := resume?_spec hready
    obtain ⟨hcontained, hleft⟩ := inspect_exhausted hidle h
    refine ⟨hcontained, ?_⟩
    obtain hkept | hnothing := hleft
    · rw [hkept]
      exact hfront.elim .inl fun hskipped => .inr (.inl hskipped)
    · exact .inr (.inr hnothing)
  · cases h
    exact ⟨contained_of_empty rfl limit, .inr (.inr rfl)⟩

end Look

section Next

/-- A next message takes a front with it that ends in a delimiter. -/
theorem next_some_cut (h : r.next limit = (some m, rest)) :
    CutBehindDelimiter r.buffer rest.buffer := by
  fun_induction next limit r with
  | case1 r message found hlook =>
    obtain ⟨-, rfl⟩ := Prod.mk.inj h
    exact look_found_cut hlook
  | case2 => cases (Prod.mk.inj h).1
  | case3 r again hlook ih => exact (look_again_cut hlook).trans (ih h)

/-- Without a next message there is no more left than there may be. -/
theorem next_none_spec (h : r.next limit = (none, rest)) :
    rest.Contained limit ∧ LetGo r.buffer rest.buffer := by
  fun_induction next limit r with
  | case1 => cases (Prod.mk.inj h).1
  | case2 r left hlook =>
    obtain ⟨-, rfl⟩ := Prod.mk.inj h
    exact look_exhausted hlook
  | case3 r again hlook ih =>
    obtain ⟨hcontained, hleft⟩ := ih h
    exact ⟨hcontained, (look_again_cut hlook).letGo hleft⟩

/-- What is let go of for a next message, or in looking for one. -/
theorem letGo_next (limit : Nat) (r : Receiver) : LetGo r.buffer (r.next limit).2.buffer := by
  rcases hnext : r.next limit with ⟨_ | m, rest⟩
  · exact (next_none_spec hnext).2
  · exact .inr (.inl (next_some_cut hnext))

/-- After all messages have been taken out there is no more left than there may be, and there have been
no more of them than delimiters. -/
theorem extractOnto_spec (limit : Nat) (taken : List Message) (r : Receiver) :
    (r.extractOnto limit taken).2.Contained limit ∧
      LetGo r.buffer (r.extractOnto limit taken).2.buffer ∧
      (r.extractOnto limit taken).1.length ≤ taken.length + r.buffer.count delimiter := by
  fun_induction extractOnto limit taken r with
  | case1 taken r m rest hnext ih =>
    obtain ⟨hcontained, hleft, hfew⟩ := ih
    have hcut := next_some_cut hnext
    have hcount := hcut.count_lt
    rw [List.length_cons] at hfew
    exact ⟨hcontained, hcut.letGo hleft, by omega⟩
  | case2 taken r rest hnext =>
    obtain ⟨hcontained, hleft⟩ := next_none_spec hnext
    exact ⟨hcontained, hleft, by simp⟩

/-- What is left of a chunk and the bytes before it, and how many messages have come of them. -/
theorem feed_spec (limit : Nat) (r : Receiver) (chunk : Bytes) :
    (r.feed limit chunk).2.Contained limit ∧
      LetGo (r.buffer ++ chunk) (r.feed limit chunk).2.buffer ∧
      (r.feed limit chunk).1.length ≤ (r.buffer ++ chunk).count delimiter := by
  have hbuffer : buffer { r with backlog := r.backlog.append chunk } = r.buffer ++ chunk :=
    r.backlog.bytes_append chunk
  obtain ⟨hcontained, hleft, hfew⟩ :=
    extractOnto_spec limit [] { r with backlog := r.backlog.append chunk }
  rw [hbuffer] at hleft hfew
  rw [List.length_nil, Nat.zero_add] at hfew
  exact ⟨hcontained, hleft, hfew⟩

/-- Nothing is to be had of what a receiver may hold. -/
theorem Contained.extract_eq_nil (h : r.Contained limit) : (r.extract limit).1 = [] := by
  cases hskip : r.discarding with
  | true => rw [extract, extractOnto_skipping [] limit hskip h.delimiter_not_mem, List.reverse_nil]
  | false =>
    rw [extract, extractOnto_exhausted [] (look_tail_accepted hskip h.delimiter_not_mem h.length_le),
      List.reverse_nil]

end Next

end Receiver

section Checked

/-- How a loop over a buffer can break down. -/
inductive Breakdown
  /-- More bytes were to be let go of than were held. -/
  | overrun (count held : Nat)
  /-- All looks were spent before the end. -/
  | unfinished
  deriving Repr, DecidableEq

/-- Let go of so many bytes in front, which must be there. -/
def Backlog.advance (count : Nat) (b : Backlog) : Except Breakdown Backlog :=
  if count ≤ b.length then .ok (b.drop count) else .error (.overrun count b.length)

/-- Bytes that are there can be let go of. -/
theorem Backlog.advance_eq {count : Nat} {b : Backlog} (h : count ≤ b.length) :
    b.advance count = .ok (b.drop count) :=
  if_pos h

namespace Receiver

/-- Leave a frame that is being skipped, checking the advance. -/
def tryResume (r : Receiver) : Except Breakdown (Option Receiver) :=
  if r.discarding then
    match r.backlog.delimiterAt? with
    | some skipped =>
      (r.backlog.advance (skipped + 1)).map fun left =>
        some { r with backlog := left, discarding := false }
    | none => .ok none
  else .ok (some r)

/-- Look at the frame at the front, checking the advance. -/
def tryInspect (limit : Nat) (r : Receiver) : Except Breakdown Look :=
  match r.backlog.read limit with
  | .complete message consumed =>
    (r.backlog.advance consumed).map fun left => .found message { r with backlog := left }
  | .incomplete => .ok (.exhausted { r with backlog := r.backlog.settle })
  | .oversize fault =>
    if fault.terminated then
      (r.backlog.advance (fault.size + 1)).map fun left =>
        .again { r with backlog := left, dropped := r.dropped + 1 }
    else .ok (.exhausted ⟨Backlog.empty, true, r.dropped + 1⟩)

/-- Look at the front, checking both advances. -/
def tryLook (limit : Nat) (r : Receiver) : Except Breakdown Look :=
  match r.tryResume with
  | .ok (some ready) => ready.tryInspect limit
  | .ok none => .ok (.exhausted { r with backlog := Backlog.empty })
  | .error breakdown => .error breakdown

/-- The next message, with so many looks at most. -/
def nextWithin (limit : Nat) : Nat → Receiver → Except Breakdown (Option Message × Receiver)
  | 0, _ => .error .unfinished
  | looks + 1, r =>
    match r.tryLook limit with
    | .ok (.found message rest) => .ok (some message, rest)
    | .ok (.exhausted rest) => .ok (none, rest)
    | .ok (.again rest) => rest.nextWithin limit looks
    | .error breakdown => .error breakdown

/-- Every message, one call at a time, with so many calls and so many looks in each of them at most. -/
def extractWithin (limit : Nat) :
    Nat → List Message → Receiver → Except Breakdown (List Message × Receiver)
  | 0, _, _ => .error .unfinished
  | calls + 1, taken, r =>
    match r.nextWithin limit (calls + 1) with
    | .ok (some message, rest) => rest.extractWithin limit calls (message :: taken)
    | .ok (none, rest) => .ok (taken.reverse, rest)
    | .error breakdown => .error breakdown

/-- Take in a chunk of bytes, with so many calls at most. -/
def feedWithin (limit calls : Nat) (r : Receiver) (chunk : Bytes) :
    Except Breakdown (List Message × Receiver) :=
  { r with backlog := r.backlog.append chunk }.extractWithin limit calls []

variable {limit : Nat} {r rest : Receiver}

/-- The delimiter that ends the skipping is among the bytes held. -/
theorem skipped_lt_buffered {skipped : Nat} (h : r.backlog.delimiterAt? = some skipped) :
    skipped + 1 ≤ r.buffered := by
  rw [Backlog.delimiterAt?_eq] at h
  rw [buffered_eq]
  exact Frame.delimiterAt?_lt h

/-- The frame of a message is among the bytes held, its delimiter included. -/
theorem consumed_le_buffered {m : Message} {consumed : Nat}
    (h : r.backlog.read limit = .complete m consumed) : consumed ≤ r.buffered := by
  rw [buffered_eq]
  exact (Frame.read_complete_le (read_backlog.symm.trans h)).2

/-- An oversize frame that has ended is among the bytes held, its delimiter included. -/
theorem size_lt_buffered {fault : Oversize} (h : r.backlog.read limit = .oversize fault)
    (ended : fault.terminated = true) : fault.size + 1 ≤ r.buffered := by
  rw [buffered_eq]
  exact Frame.read_oversize_lt (read_backlog.symm.trans h) ended

/-- No advance goes beyond the end where a skipped frame is left. -/
theorem tryResume_eq (r : Receiver) : r.tryResume = .ok r.resume? := by
  unfold tryResume resume?
  split
  · cases hskipped : r.backlog.delimiterAt? with
    | some skipped => simp only [Backlog.advance_eq (skipped_lt_buffered hskipped), Except.map]
    | none => rfl
  · rfl

/-- No advance goes beyond the end where a frame is cut off. -/
theorem tryInspect_eq (limit : Nat) (r : Receiver) :
    r.tryInspect limit = .ok (r.inspect limit) := by
  unfold tryInspect inspect
  cases hread : r.backlog.read limit with
  | complete message consumed =>
    simp only [Backlog.advance_eq (consumed_le_buffered hread), Except.map]
  | incomplete => rfl
  | oversize fault =>
    by_cases hended : fault.terminated = true
    · simp only [if_pos hended, Backlog.advance_eq (size_lt_buffered hread hended), Except.map]
    · simp only [if_neg hended]

/-- No look goes beyond the end. -/
theorem tryLook_eq (limit : Nat) (r : Receiver) : r.tryLook limit = .ok (r.look limit) := by
  rw [tryLook, tryResume_eq, look]
  cases r.resume? with
  | some ready => exact tryInspect_eq limit ready
  | none => rfl

/-- A look after which there is another one leaves fewer bytes. -/
theorem look_again_buffered (h : r.look limit = .again rest) : rest.buffered < r.buffered := by
  rw [buffered_eq, buffered_eq]
  exact look_again_length h

/-- A message that is taken out leaves fewer bytes. -/
theorem next_some_buffered {m : Message} (h : r.next limit = (some m, rest)) :
    rest.buffered < r.buffered := by
  rw [buffered_eq, buffered_eq]
  exact next_some_length h

/-- One look more than there are bytes is enough for the next message. -/
theorem nextWithin_eq {looks : Nat} (h : r.buffered < looks) :
    r.nextWithin limit looks = .ok (r.next limit) := by
  induction looks generalizing r with
  | zero => exact absurd h (Nat.not_lt_zero _)
  | succ looks ih =>
    rw [nextWithin, tryLook_eq]
    cases hlook : r.look limit with
    | found m rest => rw [next_of_found hlook]
    | exhausted rest => rw [next_of_exhausted hlook]
    | again rest =>
      have hfewer := look_again_buffered hlook
      rw [next_of_again hlook]
      exact ih (by omega)

/-- One call more than there are bytes is enough for all messages. -/
theorem extractWithin_eq {calls : Nat} (taken : List Message) (h : r.buffered < calls) :
    r.extractWithin limit calls taken = .ok (r.extractOnto limit taken) := by
  induction calls generalizing r taken with
  | zero => exact absurd h (Nat.not_lt_zero _)
  | succ calls ih =>
    rw [extractWithin, nextWithin_eq h]
    rcases hnext : r.next limit with ⟨_ | m, rest⟩
    · rw [extractOnto_of_none taken hnext]
    · -- A message takes at least its delimiter with it, so the calls left are enough for the rest.
      have hfewer := next_some_buffered hnext
      rw [extractOnto_of_some taken hnext]
      exact ih (m :: taken) (by omega)

/-- One call more than there are bytes, those of the chunk included, is enough to take it in. -/
theorem feedWithin_eq {chunk : Bytes} {calls : Nat} (h : (r.buffer ++ chunk).length < calls) :
    r.feedWithin limit calls chunk = .ok (r.feed limit chunk) := by
  refine extractWithin_eq [] ?_
  rw [buffered_eq, buffer, Backlog.bytes_append]
  exact h

end Receiver

end Checked

end Switchboard
