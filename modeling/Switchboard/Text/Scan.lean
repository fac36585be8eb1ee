/-!
# Scanning

Reading from the front of a list of characters. A scanner gives what it has read and the rest, or
`none` if the characters do not begin with what it looks for.
-/

namespace Switchboard

/-- A scanner for values of type `α`. -/
abbrev Scan (α : Type) := List Char → Option (α × List Char)

namespace Scan

/-- The value of a digit in a base up to sixteen, in either case. -/
def digit? (base : Nat) (c : Char) : Option Nat :=
  let value :=
    if '0' ≤ c ∧ c ≤ '9' then some (c.toNat - '0'.toNat)
    else if 'a' ≤ c ∧ c ≤ 'f' then some (c.toNat - 'a'.toNat + 10)
    else if 'A' ≤ c ∧ c ≤ 'F' then some (c.toNat - 'A'.toNat + 10)
    else none
  value.filter (· < base)

/-- Whether a character is a digit in a base. -/
def isDigit (base : Nat) (c : Char) : Bool :=
  (digit? base c).isSome

/-- The number that digits denote. -/
def number (base : Nat) (digits : List Char) : Nat :=
  digits.foldl (fun n c => n * base + (digit? base c).getD 0) 0

/-- The lesser of a bound and the number that digits denote. However many digits there are, no
number on the way is much greater than the bound. -/
def clamped (base bound : Nat) (digits : List Char) : Nat :=
  digits.foldl (fun n c => min bound (n * base + (digit? base c).getD 0)) 0

/-- The number that digits denote, if it does not exceed a bound. -/
def numberUpTo? (base bound : Nat) (digits : List Char) : Option Nat :=
  let n := clamped base (bound + 1) digits
  if n ≤ bound then some n else none

/-- One given character. -/
def char (c : Char) : Scan Unit
  | [] => none
  | d :: rest => if d = c then some ((), rest) else none

/-- One given text. -/
def literal (text : String) : Scan Unit := fun cs =>
  let wanted := text.toList
  if wanted.isPrefixOf cs then some ((), cs.drop wanted.length) else none

/-- The longest front whose characters pass a test; it may be empty. -/
def span (test : Char → Bool) (cs : List Char) : List Char × List Char :=
  (cs.takeWhile test, cs.dropWhile test)

/-- Exactly so many decimal digits, as a number. -/
def digits (count : Nat) : Scan Nat := fun cs =>
  let front := cs.take count
  if front.length = count ∧ front.all (isDigit 10) then some (number 10 front, cs.drop count)
  else none

/-- A whole number in decimal digits, with a plus sign or not, up to a bound. -/
def natural? (bound : Nat) (text : String) : Option Nat :=
  let cs := match text.toList with
    | '+' :: rest => rest
    | cs => cs
  if cs ≠ [] ∧ cs.all (isDigit 10) then numberUpTo? 10 bound cs else none

/-- The greatest number of 32 bits. -/
def greatest32 : Nat := UInt32.size - 1

/-- The greatest number of 64 bits. -/
def greatest64 : Nat := UInt64.size - 1

end Scan

end Switchboard
