/-!
# Draws

What a workload leaves to chance, as three kinds of draw from a source with a state: one position
of a list, one number between two bounds, and several different positions of a list. A source is
fair if it keeps to these ranges; nothing is asked about how its draws are distributed.

`SplitMix` is a source: a counter that is stepped and mixed into 64 bits, of which the upper half
makes a draw. Draws that would favour some results are rejected and repeated.
-/

namespace Switchboard

/-- A source of draws with states of type `σ`. -/
structure Draws (σ : Type) where
  /-- A position in a list of this length. -/
  choose : Nat → σ → Nat × σ
  /-- A number between two bounds, both included. -/
  between : Nat → Nat → σ → Nat × σ
  /-- So many different positions in a list of this length. -/
  sample : (size amount : Nat) → σ → List Nat × σ

/-- A source that keeps to the ranges it is asked for. -/
structure Draws.Fair {σ : Type} (d : Draws σ) : Prop where
  choose_lt : ∀ size s, 0 < size → (d.choose size s).1 < size
  between_le : ∀ low high s, low ≤ high →
    low ≤ (d.between low high s).1 ∧ (d.between low high s).1 ≤ high
  sample_length : ∀ size amount s, amount ≤ size → (d.sample size amount s).1.length = amount
  sample_nodup : ∀ size amount s, amount ≤ size → (d.sample size amount s).1.Nodup
  sample_lt : ∀ size amount s, amount ≤ size → ∀ i ∈ (d.sample size amount s).1, i < size

/-- The state of a SplitMix generator. -/
structure SplitMix where
  state : UInt64
  deriving Repr, DecidableEq

namespace SplitMix

/-- What the counter advances by. -/
def increment : UInt64 := 0x9E3779B97F4A7C15

/-- Scramble a value of the counter. -/
def mix (z : UInt64) : UInt64 :=
  let z := (z ^^^ (z >>> 30)) * 0xBF58476D1CE4E5B9
  let z := (z ^^^ (z >>> 27)) * 0x94D049BB133111EB
  z ^^^ (z >>> 31)

/-- The next 64 bits. -/
def next64 (g : SplitMix) : UInt64 × SplitMix :=
  let state := g.state + increment
  (mix state, ⟨state⟩)

/-- The next 32 bits, as a number: the upper half of 64. -/
def next32 (g : SplitMix) : Nat × SplitMix :=
  let (bits, g) := g.next64
  ((bits >>> 32).toNat, g)

/-- The number of draws after which the counter is where it was. Every value is met on the way, so
no rejected draw needs to be repeated as often. -/
def period : Nat := UInt64.size

/-- The greatest lower half of a product that is accepted for a range: one less than the range
shifted to the top of 32 bits. -/
def zone (range : Nat) : Nat :=
  (range <<< (31 - range.log2) + (UInt32.size - 1)) % UInt32.size

/-- A number below `range`: the upper half of the product of a draw with the range. A draw whose
lower half lies above the zone is repeated, at most `attempts` times. -/
def belowWithin (range : Nat) : (attempts : Nat) → SplitMix → Nat × SplitMix
  | 0, g => (0, g)
  | attempts + 1, g =>
    let (draw, g) := g.next32
    let product := draw * range
    if product % UInt32.size ≤ zone range then (product / UInt32.size, g)
    else belowWithin range attempts g

/-- A number between two bounds, both included. -/
def between (low high : Nat) (g : SplitMix) : Nat × SplitMix :=
  let drawn := belowWithin (high - low + 1) period g
  (low + drawn.1, drawn.2)

/-- A position in a list of this length; nothing is drawn for an empty list. -/
def choose (size : Nat) (g : SplitMix) : Nat × SplitMix :=
  if size = 0 then (0, g) else between 0 (size - 1) g

/-- For each upper bound, draw a number up to it and keep it, or the bound itself if that number
has been kept already. -/
def sampleSparse (upTo : Nat → SplitMix → Nat × SplitMix) :
    List Nat → List Nat → SplitMix → List Nat × SplitMix
  | [], kept, g => (kept, g)
  | bound :: bounds, kept, g =>
    let (t, g) := upTo bound g
    sampleSparse upTo bounds (kept ++ [if kept.contains t then bound else t]) g

/-- Swap each of the first positions with a position that is drawn for it. -/
def shuffleFront (partner : Nat → SplitMix → Nat × SplitMix) :
    List Nat → Array Nat → SplitMix → Array Nat × SplitMix
  | [], positions, g => (positions, g)
  | i :: rest, positions, g =>
    let (j, g) := partner i g
    shuffleFront partner rest (positions.swapIfInBounds i j) g

/-- The greatest sample that is drawn by keeping numbers; greater ones are shuffled. -/
def sparseLimit : Nat := 11

/-- So many different positions in a list of this length. -/
def sample (size amount : Nat) (g : SplitMix) : List Nat × SplitMix :=
  if amount ≤ sparseLimit then
    sampleSparse (between 0) (List.range' (size - amount) amount) [] g
  else
    -- No position is swapped with one before it.
    let (positions, g) := shuffleFront (fun i => between i (size - 1)) (List.range amount)
      (Array.range size) g
    (positions.toList.take amount, g)

/-- The generator as a source of draws. -/
def draws : Draws SplitMix := ⟨choose, between, sample⟩

end SplitMix

end Switchboard
