import Switchboard.Registry.Basic

/-!
# The sweeper

A sweeper runs beside a registry. Each time its interval has passed it makes a pass: it reclaims
connections that have been idle for too long and then, if it is meant to, removes finished ones.

The sweeper waits on a clock of its own. That clock only moves while the program sleeps, and
however long it moves, no time passes for the connections; so of several passes in one sleep the
first one does all the work.
-/

namespace Switchboard

/-- How a sweeper goes about its work; durations are in nanoseconds. -/
structure SweepPlan where
  idleTimeout : Nat := 60 * Clock.second
  interval : Nat := Clock.second
  purges : Bool := false
  deriving Repr, DecidableEq

/-- One pass over a registry: the number of connections reclaimed and the number removed. -/
def Registry.sweep (r : Registry) (plan : SweepPlan) (now : Instant) : (Nat × Nat) × Registry :=
  let (reclaimed, swept) := r.reclaim plan.idleTimeout now
  if plan.purges then
    let (purged, remaining) := swept.purge
    ((reclaimed, purged), remaining)
  else ((reclaimed, 0), swept)

/-- A sweeper that runs: how long it has waited since its start, and whether it was told to stop. -/
structure Sweeper where
  plan : SweepPlan
  waited : Nat
  stopped : Bool
  deriving Repr, DecidableEq

namespace Sweeper

/-- A sweeper that has just been started. -/
def start (plan : SweepPlan) : Sweeper := ⟨plan, 0, false⟩

/-- A sweeper that has been told to stop makes no more passes. -/
def stop (s : Sweeper) : Sweeper := { s with stopped := true }

/-- The number of passes that fall due while the program sleeps. -/
def passesDuring (s : Sweeper) (duration : Nat) : Nat :=
  if s.stopped then 0
  else (s.waited + duration) / s.plan.interval - s.waited / s.plan.interval

/-- Sleep, making the passes that fall due. -/
def sleep (s : Sweeper) (duration : Nat) (r : Registry) (now : Instant) : Sweeper × Registry :=
  ({ s with waited := s.waited + duration },
    if s.passesDuring duration = 0 then r else (r.sweep s.plan now).2)

end Sweeper

end Switchboard
