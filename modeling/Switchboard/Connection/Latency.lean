import Switchboard.Text.Layout

/-!
# Latency

How long the simulated network takes. A handshake takes a whole delay, a teardown half of it, and
a transmission a tenth of it. Delays cost time and change nothing else.
-/

namespace Switchboard

/-- What a delay is spent on. -/
inductive DelayKind
  | handshake
  | teardown
  | transmit
  deriving Repr, DecidableEq

/-- The part of a whole delay that each kind takes. -/
def DelayKind.divisor : DelayKind → Nat
  | handshake => 1
  | teardown => 2
  | transmit => 10

/-- Every kind of delay. -/
def DelayKind.all : List DelayKind := [handshake, teardown, transmit]

/-- A delay strategy; durations are in nanoseconds. -/
inductive Latency
  /-- Nothing takes any time. -/
  | none
  /-- Whole delays are drawn between two bounds. -/
  | drawn (least greatest : Nat)
  deriving Repr, DecidableEq

namespace Latency

/-- Delays between two bounds, given in either order. -/
def between (a b : Nat) : Latency :=
  drawn (min a b) (max a b)

/-- The delay of a kind, when `base` is drawn as the whole delay. -/
def delay (base : Nat) (kind : DelayKind) : Nat :=
  base / kind.divisor

/-- The delays of every kind, if nothing is left to chance. -/
def fixedDelays? : Latency → Option (List Nat)
  | none => some (DelayKind.all.map fun _ => 0)
  | drawn least greatest =>
    if least = greatest then some (DelayKind.all.map (delay least)) else Option.none

/-- How a strategy describes itself. -/
def describe : Latency → String
  | none => "NoLatency"
  | drawn least greatest =>
    "RandomLatency \x7b min: " ++ Layout.duration least ++ ", max: " ++ Layout.duration greatest
      ++ " \x7d"

end Latency

end Switchboard
