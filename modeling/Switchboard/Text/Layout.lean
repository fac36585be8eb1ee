import Switchboard.Clock

/-!
# Layout

Labels in a column of fixed width, numbers aligned to the right, and durations in the largest unit
that leaves a whole part.
-/

namespace Switchboard.Layout

/-- A text filled up with blanks on the right. -/
def padRight (width : Nat) (text : String) : String :=
  text ++ String.ofList (List.replicate (width - text.length) ' ')

/-- A text filled up with blanks on the left. -/
def padLeft (width : Nat) (text : String) : String :=
  String.ofList (List.replicate (width - text.length) ' ') ++ text

/-- A label with its colon, in a column of 22 characters. -/
def label (name : String) : String :=
  padRight 22 (name ++ ":")

/-- A label and its value. -/
def field (name value : String) : String :=
  label name ++ " " ++ value

/-- A text without the given character at its end. -/
def trimRight (c : Char) (text : String) : String :=
  String.ofList (text.toList.reverse.dropWhile (· = c)).reverse

/-- The lines of a text, between its line feeds. A carriage return at the end of a line belongs to
the end, not to the line. -/
def lines (text : String) : List String :=
  (text.splitOn "\n").map fun line => ((line.dropSuffix? "\r").map (·.toString)).getD line

/-- The decimal digits of a fraction `part / 10 ^ places`, without zeros at the end. -/
def fraction (part places : Nat) : String :=
  let digits := toString part
  trimRight '0' (String.ofList (List.replicate (places - digits.length) '0') ++ digits)

/-- A count of nanoseconds in a unit that has `size` of them, which is a one and `places` zeros. -/
def inUnit (nanos size places : Nat) (unit : String) : String :=
  let whole := nanos / size
  let part := nanos % size
  if part = 0 then toString whole ++ unit
  else toString whole ++ "." ++ fraction part places ++ unit

/-- A duration of so many nanoseconds, exactly, in seconds, milliseconds, microseconds or
nanoseconds: the largest of these that it reaches. -/
def duration (nanos : Nat) : String :=
  if Clock.second ≤ nanos then inUnit nanos Clock.second 9 "s"
  else if Clock.millisecond ≤ nanos then inUnit nanos Clock.millisecond 6 "ms"
  else if Clock.microsecond ≤ nanos then inUnit nanos Clock.microsecond 3 "µs"
  else toString nanos ++ "ns"

end Switchboard.Layout
