import Mathlib.Data.List.Nodup
import Switchboard.Workload.Draws

/-!
# The generator is fair

Whatever its state, a SplitMix generator keeps to the ranges it is asked for (`fair_draws`). A small
sample takes one number for each of the greatest positions, so what is kept lies below the position
that comes next (`Spread`); a great one is the front of a permutation.
-/

namespace Switchboard

namespace SplitMix

/-- A draw has 32 bits. -/
theorem next32_lt (g : SplitMix) : g.next32.1 < UInt32.size := by
  have hbits : g.next64.1.toNat < 2 ^ 64 := UInt64.toNat_lt _
  have hhalf : g.next32.1 = g.next64.1.toNat / 2 ^ 32 := by
    rw [← Nat.shiftRight_eq_div_pow]
    exact UInt64.toNat_shiftRight _ _
  rw [hhalf, Nat.div_lt_iff_lt_mul (by decide)]
  exact hbits

/-- The upper half of the product of a draw with the range lies below the range. -/
theorem belowWithin_lt {range : Nat} (hrange : 0 < range) (attempts : Nat) (g : SplitMix) :
    (belowWithin range attempts g).1 < range := by
  induction attempts generalizing g with
  | zero => exact hrange
  | succ attempts ih =>
    have hproduct : g.next32.1 * range / UInt32.size < range :=
      Nat.div_lt_of_lt_mul (Nat.mul_lt_mul_of_pos_right (next32_lt g) hrange)
    rw [belowWithin]
    dsimp only
    split
    · exact hproduct
    · exact ih _

/-- A number between two bounds is not below the lower one and not above the upper one. -/
theorem between_mem {low high : Nat} (h : low ≤ high) (g : SplitMix) :
    low ≤ (between low high g).1 ∧ (between low high g).1 ≤ high := by
  have hdrawn : (belowWithin (high - low + 1) period g).1 < high - low + 1 :=
    belowWithin_lt (Nat.succ_pos _) period g
  change low ≤ low + (belowWithin (high - low + 1) period g).1 ∧
    low + (belowWithin (high - low + 1) period g).1 ≤ high
  omega

/-- Different numbers that are smaller than a bound. -/
structure Spread (bound : Nat) (numbers : List Nat) : Prop where
  nodup : numbers.Nodup
  lt : ∀ i ∈ numbers, i < bound

/-- A number that is drawn up to the bound, or the bound itself in place of one that is kept already,
is different from those that are kept. -/
theorem Spread.keep {bound t : Nat} {kept : List Nat} (h : Spread bound kept) (ht : t ≤ bound) :
    Spread (bound + 1) (kept ++ [if kept.contains t then bound else t]) := by
  have hbound : bound ∉ kept := fun hmem => Nat.lt_irrefl _ (h.lt bound hmem)
  refine ⟨?_, ?_⟩
  · refine List.nodup_append.2 ⟨h.nodup, List.nodup_singleton _, ?_⟩
    rintro i hi j hj rfl
    obtain rfl := List.mem_singleton.1 hj
    split at hi
    · exact hbound hi
    · next hnew => exact hnew (List.contains_iff_mem.2 hi)
  · intro i hi
    rcases List.mem_append.1 hi with hi | hi
    · exact Nat.lt_succ_of_lt (h.lt i hi)
    · rw [List.mem_singleton.1 hi]
      split
      · exact Nat.lt_succ_self bound
      · exact Nat.lt_succ_of_le ht

/-- For consecutive bounds as many numbers are kept, all of them different. -/
theorem sampleSparse_spread {upTo : Nat → SplitMix → Nat × SplitMix}
    (hupTo : ∀ bound g, (upTo bound g).1 ≤ bound) (amount : Nat) {start : Nat} {kept : List Nat}
    (h : Spread start kept) (g : SplitMix) :
    (sampleSparse upTo (List.range' start amount) kept g).1.length = kept.length + amount ∧
      Spread (start + amount) (sampleSparse upTo (List.range' start amount) kept g).1 := by
  induction amount generalizing start kept g with
  | zero => exact ⟨rfl, h⟩
  | succ amount ih =>
    obtain ⟨hlength, hspread⟩ := ih (h.keep (hupTo start g)) (upTo start g).2
    rw [List.range'_succ, sampleSparse]
    refine ⟨hlength.trans ?_, ?_⟩
    · rw [List.length_append, List.length_singleton, Nat.add_assoc, Nat.add_comm 1]
    · rwa [Nat.add_assoc, Nat.add_comm 1] at hspread

/-- Swapping permutes. -/
theorem swapIfInBounds_perm (positions : Array Nat) (i j : Nat) :
    (positions.swapIfInBounds i j).Perm positions := by
  rw [Array.swapIfInBounds]
  split
  · split
    · exact Array.swap_perm _ _
    · exact .refl _
  · exact .refl _

/-- Shuffling permutes. -/
theorem shuffleFront_perm (partner : Nat → SplitMix → Nat × SplitMix) (front : List Nat)
    (positions : Array Nat) (g : SplitMix) :
    (shuffleFront partner front positions g).1.Perm positions := by
  induction front generalizing positions g with
  | nil => exact .refl _
  | cons i rest ih => exact (ih _ _).trans (swapIfInBounds_perm _ _ _)

/-- A sample has the wanted length, and consists of different positions of the list. -/
theorem sample_spread {size amount : Nat} (h : amount ≤ size) (g : SplitMix) :
    (sample size amount g).1.length = amount ∧ Spread size (sample size amount g).1 := by
  rw [sample]
  split
  · have hnone : Spread (size - amount) [] := ⟨List.nodup_nil, by simp⟩
    obtain ⟨hlength, hspread⟩ := sampleSparse_spread
      (fun bound g => (between_mem (Nat.zero_le bound) g).2) amount hnone g
    rw [Nat.sub_add_cancel h] at hspread
    exact ⟨hlength.trans (Nat.zero_add _), hspread⟩
  · have hperm := (shuffleFront_perm (fun i => between i (size - 1)) (List.range amount)
      (Array.range size) g).toList
    rw [Array.toList_range] at hperm
    refine ⟨?_, (hperm.nodup_iff.2 List.nodup_range).sublist (List.take_sublist _ _), ?_⟩
    · change (List.take _ _).length = amount
      rw [List.length_take, hperm.length_eq, List.length_range, Nat.min_eq_left h]
    · intro i hi
      exact List.mem_range.1 (hperm.mem_iff.1 (List.mem_of_mem_take hi))

/-- The generator keeps to the ranges it is asked for. -/
theorem fair_draws : draws.Fair where
  choose_lt := by
    intro size g hsize
    have hbound := (between_mem (Nat.zero_le (size - 1)) g).2
    change (choose size g).1 < size
    rw [choose, if_neg (Nat.pos_iff_ne_zero.1 hsize)]
    omega
  between_le := fun _ _ g h => between_mem h g
  sample_length := fun _ _ g h => (sample_spread h g).1
  sample_nodup := fun _ _ g h => (sample_spread h g).2.nodup
  sample_lt := fun _ _ g h => (sample_spread h g).2.lt

end SplitMix

end Switchboard
