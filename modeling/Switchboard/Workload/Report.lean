import Switchboard.Workload.Round

/-!
# Reports

What a whole workload did: its rounds, the figures of the registry afterwards, and how long it all
took.
-/

namespace Switchboard

/-- The outcome of a workload; `elapsed` is in nanoseconds. -/
structure Report where
  rounds : List Round
  census : Census
  elapsed : Nat
  deriving Repr, DecidableEq

/-- The counts of a round, after its number. -/
def Round.summary (number : Nat) (r : Round) : String :=
  "round " ++ Layout.padLeft 3 (toString number) ++ ": created=" ++ toString r.created
    ++ " established=" ++ toString r.established ++ " sent=" ++ toString r.sent
    ++ " received=" ++ toString r.received ++ " closed=" ++ toString r.closed
    ++ " burst=" ++ toString r.burst ++ " reclaimed=" ++ toString r.reclaimed

/-- The counts of a round and how long it took. -/
def Round.line (number : Nat) (r : Round) : String :=
  r.summary number ++ " (" ++ Layout.duration r.elapsed ++ ")"

namespace Report

/-- Lines sent and received in all rounds, bursts included. -/
def totalMessages (r : Report) : Nat :=
  r.rounds.foldr (fun round total => round.sent + round.received + round.burst + total) 0

/-- The report as lines: the rounds, the totals, and the figures of the registry. -/
def lines (r : Report) : List String :=
  (r.rounds.mapIdx fun number round => round.line number) ++
    [Layout.field "total_messages" (toString r.totalMessages),
     Layout.field "elapsed" (Layout.duration r.elapsed)] ++ r.census.lines

/-- The report as one text. -/
def text (r : Report) : String :=
  "\n".intercalate r.lines

end Report

/-- Do the whole work on a registry and report on it. -/
def Workload.run {σ : Type} (d : Draws σ) (around : Surroundings) (plan : Workload)
    (idleTimeout : Nat) (registry : Registry) (source : σ) : Report × Stage σ :=
  let started := around.instant 0
  let (rounds, w) :=
    plan.roundsOf d around idleTimeout (List.range plan.rounds) ⟨registry, source, 0⟩
  ({ rounds := rounds
     census := w.registry.census
     elapsed := around.instant w.operations - started }, w)

end Switchboard
