import Switchboard.Text.Blank

/-!
# Modes of a pattern

A pattern is a regular expression. How its characters are taken depends on modes, which it can set
for itself, from the place of the setting to the end of the group around it.
-/

namespace Switchboard.Pattern

/-- The modes in force; the others change what a pattern matches, but not whether it is one. -/
structure Modes where
  /-- Blanks and comments between the characters stand for nothing. -/
  spaced : Bool := false
  /-- What is matched are characters; otherwise it is single bytes. -/
  unicode : Bool := true
  /-- Small and capital letters match each other. -/
  caseless : Bool := false
  deriving Repr, DecidableEq

/-- The letters of all modes. -/
def modeLetters : List Char := ['i', 'm', 's', 'U', 'u', 'R', 'x']

/-- Whether a text sets modes: no letter and no hyphen twice, and no hyphen at the end. -/
def isSetting (letters : List Char) : Bool :=
  letters.all (fun c => c = '-' || modeLetters.contains c) &&
    letters.all (fun c => letters.count c = 1) && letters.getLast? != some '-'

/-- The modes after a setting: letters before the hyphen are switched on, those after it off. -/
def Modes.set (letters : List Char) (m : Modes) : Modes :=
  let on := letters.takeWhile (· ≠ '-')
  let now (letter : Char) (before : Bool) : Bool :=
    on.contains letter || (before && !letters.contains letter)
  { spaced := now 'x' m.spaced
    unicode := now 'u' m.unicode
    caseless := now 'i' m.caseless }

/-- What follows the blanks and comments at the front. A comment goes from a number sign to the end
of its line. -/
def afterBlanks (inComment : Bool) : List Char → List Char
  | [] => []
  | c :: rest =>
    if inComment then afterBlanks (c ≠ '\n') rest
    else if Text.isBlank c then afterBlanks false rest
    else if c = '#' then afterBlanks true rest
    else c :: rest

/-- What follows that stands for something. -/
def Modes.skip (m : Modes) (cs : List Char) : List Char :=
  if m.spaced then afterBlanks false cs else cs

/-- The character that decides what a hyphen before it means. Blanks and the sign that begins a
comment do not count here, but the comment does. -/
def Modes.peek (m : Modes) (cs : List Char) : Option Char :=
  if m.spaced then
    match cs.dropWhile Text.isBlank with
    | '#' :: rest => (rest.dropWhile Text.isBlank).head?
    | rest => rest.head?
  else cs.head?

end Switchboard.Pattern
