/-!
# The clock

Time is a number of nanoseconds on a monotonic clock. Durations are counted in nanoseconds as well.
-/

namespace Switchboard

/-- A point of the monotonic clock. -/
abbrev Instant := Nat

namespace Clock

/-- The nanoseconds of a microsecond. -/
def microsecond : Nat := 1000

/-- The nanoseconds of a millisecond. -/
def millisecond : Nat := 1000000

/-- The nanoseconds of a second. -/
def second : Nat := 1000000000

end Clock

end Switchboard
