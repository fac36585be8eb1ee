import Switchboard.Text.Scan

/-!
# Decimal numbers

Which texts are numbers, with a sign or not: digits with at most one point among them and possibly
an exponent, or one of the words for an infinity and for what is no number.
-/

namespace Switchboard.Decimal

/-- The words that count as numbers; a case does not matter. -/
def words : List String := ["inf", "infinity", "nan"]

/-- What follows a sign, if there is one. -/
def afterSign : List Char → List Char
  | '+' :: rest => rest
  | '-' :: rest => rest
  | cs => cs

/-- Whether a text is one or more digits. -/
def isDigits (cs : List Char) : Bool :=
  !cs.isEmpty && cs.all (Scan.isDigit 10)

/-- Whether a text is an exponent, or there is none. -/
def isExponent : List Char → Bool
  | [] => true
  | e :: rest => (e = 'e' || e = 'E') && isDigits (afterSign rest)

/-- Whether a text is digits with at most one point before, among or after them, and possibly an
exponent. -/
def isPositional (cs : List Char) : Bool :=
  let (whole, rest) := Scan.span (Scan.isDigit 10) cs
  match rest with
  | '.' :: rest =>
    let (part, rest) := Scan.span (Scan.isDigit 10) rest
    !(whole.isEmpty && part.isEmpty) && isExponent rest
  | _ => !whole.isEmpty && isExponent rest

/-- Whether a text is a number. -/
def isNumber (cs : List Char) : Bool :=
  let unsigned := afterSign cs
  words.contains (String.ofList unsigned).toLower || isPositional unsigned

end Switchboard.Decimal
