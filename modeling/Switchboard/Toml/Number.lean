import Switchboard.Toml.Text
import Switchboard.Toml.Value

/-!
# TOML numbers and dates

Whole numbers of 64 bits with a sign, in decimal or after `0x`, `0o` or `0b`; numbers with a
fraction or an exponent; infinities and not-a-numbers; and dates and times of the Gregorian
calendar. An underscore may stand between two digits, and a decimal number has no leading zeros.

A positive number that is too large for a float is refused.
-/

namespace Switchboard.Toml

open Scan

/-- Digits of a base with single underscores between them, as they stand but without underscores,
after those that have been `read` (in reverse). -/
def digitRun (base : Nat) (read : List Char) : List Char → List Char × List Char
  | '_' :: c :: rest =>
    if isDigit base c then digitRun base (c :: read) rest else (read.reverse, '_' :: c :: rest)
  | c :: rest =>
    if isDigit base c then digitRun base (c :: read) rest else (read.reverse, c :: rest)
  | [] => (read.reverse, [])

/-- At least one digit of a base, with single underscores between digits. -/
def digitsOf (base : Nat) : Scan (List Char)
  | c :: rest => if isDigit base c then some (digitRun base [c] rest) else none
  | [] => none

/-- A sign, if there is one: whether it is a minus. -/
def sign : List Char → Bool × List Char
  | '-' :: rest => (true, rest)
  | '+' :: rest => (false, rest)
  | cs => (false, cs)

/-- The digits before any fraction: a zero alone, or digits that do not begin with one. -/
def wholeDigits : Scan (List Char)
  | '0' :: rest => some (['0'], rest)
  | cs => digitsOf 10 cs

/-- From this number on, an exponent takes no further digits into account. -/
def exponentCap : Nat := 65536

/-- The number that the digits of an exponent denote. Digits that follow once it has reached the cap
do not count. -/
def exponentOf (digits : List Char) : Nat :=
  digits.foldl (fun n c => if n < exponentCap then n * 10 + (digit? 10 c).getD 0 else n) 0

/-- The exponent of a number: its sign and its digits. -/
def exponent : Scan Int
  | c :: rest =>
    if c = 'e' ∨ c = 'E' then
      let (negative, rest) := sign rest
      (digitsOf 10 rest).map fun (digits, rest) =>
        (if negative then -(exponentOf digits : Int) else exponentOf digits, rest)
    else none
  | [] => none

/-- The least value that is nearer to infinity than to any float. -/
def floatOverflow : Nat := Nat.pow 2 1024 - Nat.pow 2 970

/-- A number of fewer places before its point is no overflow. -/
def fewPlaces : Nat := 300

/-- A number of more places before its point is an overflow. -/
def manyPlaces : Nat := 400

/-- Whether digits times a power of ten are too large for a float. A number with very few or very
many places before its point is not compared; of the others only the whole part is. -/
def overflowsFloat (digits : List Char) (exponent : Int) : Bool :=
  let significant := digits.dropWhile (· = '0')
  let places : Int := significant.length + exponent
  if significant.isEmpty || places < fewPlaces then false
  else if places > manyPlaces then true
  else
    let whole := (significant ++ List.replicate manyPlaces '0').take places.toNat
    floatOverflow ≤ number 10 whole

/-- The least whole number that is too large for 64 bits with a sign. -/
def integerBound : Nat := UInt64.size / 2

/-- A whole number after `0x`, `0o` or `0b`. -/
def basedInteger (base : Nat) : Scan Value := fun cs => do
  let (digits, rest) ← digitsOf base cs
  let n ← numberUpTo? base (integerBound - 1) digits
  some (.integer n, rest)

/-- A whole number with a sign, from the digits after the sign. -/
def signedInteger (negative : Bool) (digits : List Char) : Option Int :=
  if negative then (numberUpTo? 10 integerBound digits).map fun n => -(n : Int)
  else (numberUpTo? 10 (integerBound - 1) digits).map fun n => (n : Int)

/-- A number with a fraction or an exponent, refused if it is positive and too large. -/
def float? (negative : Bool) (whole fraction : List Char) (exponent : Int) : Option Value :=
  if !negative && overflowsFloat (whole ++ fraction) (exponent - fraction.length) then none
  else some .float

/-- A decimal number, with fraction and exponent or without. -/
def decimalNumber : Scan Value := fun cs => do
  let (negative, unsigned) := sign cs
  let (whole, rest) ← wholeDigits unsigned
  match rest with
  | '.' :: rest =>
    let (fraction, rest) ← digitsOf 10 rest
    match exponent rest with
    | some (e, rest) => (float? negative whole fraction e).map fun v => (v, rest)
    | none => (float? negative whole fraction 0).map fun v => (v, rest)
  | _ =>
    match exponent rest with
    | some (e, rest) => (float? negative whole [] e).map fun v => (v, rest)
    | none => (signedInteger negative whole).map fun n => (.integer n, rest)

/-- An infinity or a not-a-number. -/
def specialFloat : Scan Value := fun cs =>
  let (_, unsigned) := sign cs
  match literal "inf" unsigned, literal "nan" unsigned with
  | some (_, rest), _ => some (.float, rest)
  | none, some (_, rest) => some (.float, rest)
  | none, none => none

/-- A number. -/
def anyNumber : Scan Value
  | '0' :: 'x' :: rest => basedInteger 16 rest
  | '0' :: 'o' :: rest => basedInteger 8 rest
  | '0' :: 'b' :: rest => basedInteger 2 rest
  | cs =>
    match specialFloat cs with
    | some result => some result
    | none => decimalNumber cs

/-- The number of days of a month. -/
def daysIn (year month : Nat) : Nat :=
  if month = 2 then
    if year % 4 = 0 ∧ (year % 100 ≠ 0 ∨ year % 400 = 0) then 29 else 28
  else if month = 4 ∨ month = 6 ∨ month = 9 ∨ month = 11 then 30
  else 31

/-- A day: year, month and day with hyphens between. -/
def calendarDay : Scan Unit := fun cs => do
  let (year, cs) ← digits 4 cs
  let (_, cs) ← char '-' cs
  let (month, cs) ← digits 2 cs
  let (_, cs) ← char '-' cs
  let (day, cs) ← digits 2 cs
  if 1 ≤ month ∧ month ≤ 12 ∧ 1 ≤ day ∧ day ≤ daysIn year month then some ((), cs) else none

/-- Hours and minutes with a colon between. -/
def hoursAndMinutes : Scan Unit := fun cs => do
  let (hour, cs) ← digits 2 cs
  let (_, cs) ← char ':' cs
  let (minute, cs) ← digits 2 cs
  if hour ≤ 23 ∧ minute ≤ 59 then some ((), cs) else none

/-- A fraction of a second, if there is one. -/
def secondFraction : Scan Unit
  | '.' :: rest =>
    let (front, rest) := span (isDigit 10) rest
    if front.isEmpty then none else some ((), rest)
  | cs => some ((), cs)

/-- A time of day with seconds; a minute may have a leap second. -/
def timeOfDay : Scan Unit := fun cs => do
  let (_, cs) ← hoursAndMinutes cs
  let (_, cs) ← char ':' cs
  let (second, cs) ← digits 2 cs
  if second ≤ 60 then secondFraction cs else none

/-- The distance of a time from universal time, if it is given. -/
def timeOffset : Scan Unit
  | 'Z' :: rest => some ((), rest)
  | 'z' :: rest => some ((), rest)
  | '+' :: rest => hoursAndMinutes rest
  | '-' :: rest => hoursAndMinutes rest
  | cs => some ((), cs)

/-- Whether what follows looks like a time: two digits and a colon. -/
def looksLikeTime (cs : List Char) : Bool :=
  match digits 2 cs with
  | some (_, ':' :: _) => true
  | _ => false

/-- Whether what follows looks like a day: four digits and a hyphen. -/
def looksLikeDay (cs : List Char) : Bool :=
  match digits 4 cs with
  | some (_, '-' :: _) => true
  | _ => false

/-- A day, perhaps with a time of that day after `T` or a blank, and perhaps with an offset. -/
def dayAndTime : Scan Value := fun cs => do
  let (_, cs) ← calendarDay cs
  match cs with
  | c :: rest =>
    if (c = 'T' ∨ c = 't' ∨ c = ' ') ∧ looksLikeTime rest then
      let (_, rest) ← timeOfDay rest
      let (_, rest) ← timeOffset rest
      some (.date, rest)
    else some (.date, cs)
  | [] => some (.date, cs)

/-- A number, a date or a time. -/
def numberOrDate : Scan Value := fun cs =>
  if looksLikeDay cs then dayAndTime cs
  else if looksLikeTime cs then (timeOfDay cs).map fun (_, rest) => (.date, rest)
  else anyNumber cs

end Switchboard.Toml
