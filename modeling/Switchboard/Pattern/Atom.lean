import Switchboard.Pattern.Modes
import Switchboard.Text.Scan

/-!
# Atoms of a pattern

The smallest parts of a pattern: characters that stand for themselves, escapes, and signs for
places in the text. Which atoms a pattern may have depends on its modes. A pattern matches whole
characters, so in bytes it has none beyond the first 128; and it knows no properties of characters
beyond these, so what would need them is refused.
-/

namespace Switchboard.Pattern

/-- The smallest parts of a pattern. -/
inductive Atom
  /-- A character; whether it was written as the number of a byte. -/
  | literal (c : Char) (byte : Bool)
  /-- Any digit, blank or character of a word, or any character but these. -/
  | kind (negated : Bool)
  /-- Any character but the end of a line. -/
  | dot
  /-- An end of the text or of a line. -/
  | edge
  /-- An end of a word, or a place that is none. -/
  | wordEdge
  deriving Repr, DecidableEq

/-- So many hexadecimal digits, put behind those of a number. -/
def hex? (m : Modes) : Nat → Nat → Scan Nat
  | 0, value, cs => some (value, cs)
  | count + 1, value, cs =>
    match m.skip cs with
    | [] => none
    | c :: rest => (Scan.digit? 16 c).bind fun d => hex? m count (value * 16 + d) rest

/-- A character by so many hexadecimal digits of its number. -/
def numbered? (m : Modes) (count : Nat) (byte : Bool) : Scan Atom := fun cs => do
  let (value, rest) ← hex? m count 0 cs
  if value.isValidChar then some (.literal (Char.ofNat value) byte, rest) else none

/-- The letters that stand for control characters. -/
def controls : List (Char × Char) :=
  [('a', '\x07'), ('t', '\t'), ('n', '\n'), ('v', '\x0b'), ('f', '\x0c'), ('r', '\r')]

/-- What a character stands for after a backslash. Signs stand for themselves; letters and digits
without a meaning are refused, and so is everything above U+007F. -/
def escaped? (c : Char) : Option Atom :=
  match controls.lookup c with
  | some d => some (.literal d false)
  | none =>
    if ['d', 's', 'w'].contains c then some (.kind false)
    else if ['D', 'S', 'W'].contains c then some (.kind true)
    else if ['A', 'z'].contains c then some .edge
    else if ['b', 'B', '<', '>'].contains c then some .wordEdge
    else if c.toNat < 0x80 && !c.isAlphanum then some (.literal c false)
    else none

/-- What follows a backslash. -/
def escape? (m : Modes) : Scan Atom
  | [] => none
  | 'x' :: rest => numbered? m 2 true rest
  | 'u' :: rest => numbered? m 4 false rest
  | 'U' :: rest => numbered? m 8 false rest
  | c :: rest => (escaped? c).map (·, rest)

/-- One atom outside brackets. -/
def atom? (m : Modes) : Scan Atom
  | [] => none
  | '\x5c' :: rest => escape? m rest
  | '.' :: rest => some (.dot, rest)
  | '^' :: rest | '$' :: rest => some (.edge, rest)
  | c :: rest => some (.literal c false, rest)

/-- One atom inside brackets, where only the backslash has a meaning of its own. -/
def member? (m : Modes) : Scan Atom
  | [] => none
  | '\x5c' :: rest => escape? m rest
  | c :: rest => some (.literal c false, rest)

/-- Whether a pattern may have an atom outside brackets. -/
def Modes.admits (m : Modes) : Atom → Bool
  | .literal c byte => if m.unicode then !m.caseless else !byte || c.toNat < 0x80
  | .kind negated => !m.unicode && !negated
  | .dot => m.unicode
  | .edge => true
  | .wordEdge => !m.unicode

/-- Whether brackets may have an atom. -/
def Modes.admitsMember (m : Modes) : Atom → Bool
  | .literal c _ => if m.unicode then !m.caseless else c.toNat < 0x80
  | .kind negated => !m.unicode && !negated
  | _ => false

end Switchboard.Pattern
