import Switchboard.Pattern.Basic
import Switchboard.Text.Decimal
import Switchboard.Text.Slice

/-!
# Log filters

What is to be logged is said by directives with commas between. A directive is a level, or a target
with an optional span in square brackets (which may name a field in braces, with a value or a
pattern for it), and after an equals sign the level for it. Only whether a filter is well-formed
matters here.

Blanks around a directive do not count when its parts are looked for, but the parts are then cut
out of the directive as it was given, at the places where they stand without the blanks. So blanks
in front move every cut to the left, and a cut that falls inside a character is a failure of its
own.
-/

namespace Switchboard.LogFilter

/-- What is wrong with a filter. -/
inductive Flaw
  /-- It is not well-formed. -/
  | malformed
  /-- A part of it would begin or end inside a character. -/
  | torn
  deriving Repr, DecidableEq

/-- The names of the levels; a case does not matter. -/
def levelNames : List String := ["", "error", "warn", "info", "debug", "trace", "off"]

/-- Whether a text is a level: a name, or a number from 0 to 5. -/
def isLevel (text : String) : Bool :=
  levelNames.contains text.toLower || (Scan.natural? 5 text).isSome

/-- The pieces between the occurrences of a separator. -/
def pieces (separator : Char) : List Char → List (List Char)
  | [] => [[]]
  | c :: rest =>
    if c = separator then [] :: pieces separator rest
    else
      match pieces separator rest with
      | piece :: more => (c :: piece) :: more
      | [] => [[c]]

/-- Whether a text is a field: a name, and maybe after an equals sign a number or a pattern for its
value. What follows a second equals sign does not count. -/
def isField (text : List Char) : Bool :=
  !text.isEmpty &&
    match pieces '=' text with
    | _ :: value :: _ => Decimal.isNumber value || Pattern.isPattern value
    | _ => true

/-- Where in a directive its reader is, and where the part that is being read has begun. -/
inductive Place
  | start
  | levelOrTarget
  | span (since : Nat)
  | field (since : Nat)
  | fields
  | target
  | level (since : Nat)
  deriving Repr, DecidableEq

/-- Whether a directive may begin with a character. -/
def mayBegin (c : Char) : Bool :=
  c = '-' || c = ':' || c = '_' || Text.isLetterOrNumeral c

/-- A part of a directive. -/
def cut (directive : List Char) (start stop : Nat) : Except Flaw (List Char) :=
  match Text.slice? start stop directive with
  | some part => .ok part
  | none => .error .torn

/-- Read one character of a directive, which stands at a given place in it; every part that ends
there is cut out. -/
def step (directive : List Char) (here : Nat) : Place → Char → Except Flaw Place
  | .start, '[' => .ok (.span (here + 1))
  | .start, c => if mayBegin c then .ok .levelOrTarget else .error .malformed
  | .levelOrTarget, '=' => (cut directive 0 here).map fun _ => .level (here + 1)
  | .levelOrTarget, '[' => (cut directive 0 here).map fun _ => .span (here + 1)
  | .levelOrTarget, _ => .ok .levelOrTarget
  | .span since, ']' => (cut directive since here).map fun _ => .target
  | .span since, '\x7b' => (cut directive since here).map fun _ => .field (here + 1)
  | .span since, _ => .ok (.span since)
  | .field since, '\x7d' => do
    if isField (← cut directive since here) then return .fields else throw .malformed
  | .field since, _ => .ok (.field since)
  | .fields, ']' => .ok .target
  | .fields, _ => .error .malformed
  | .target, '=' => .ok (.level (here + 1))
  | .target, _ => .error .malformed
  | .level since, _ => .ok (.level since)

/-- Read the characters from a given place in a directive to its end. -/
def follow (directive : List Char) : Nat → Place → List Char → Except Flaw Place
  | _, place, [] => .ok place
  | here, place, c :: rest => do
    let next ← step directive here place c
    follow directive (here + c.utf8Size) next rest

/-- Whether a directive may end here. -/
def finish (directive : List Char) : Place → Except Flaw Unit
  | .levelOrTarget | .target => .ok ()
  | .level since => do
    let name ← cut directive since (Text.width directive)
    if isLevel (String.ofList name) then return () else throw .malformed
  | _ => .error .malformed

/-- Read a directive without the blanks around it. -/
def checkDirective (directive : List Char) : Except Flaw Unit := do
  finish directive (← follow directive 0 .start (Text.trim directive))

/-- The directives of a filter; empty ones do not count. -/
def directives (text : String) : List (List Char) :=
  (pieces ',' text.toList).filter fun piece => !piece.isEmpty

/-- What is wrong with the first directive with which something is wrong. -/
def checkAll : List (List Char) → Except Flaw Unit
  | [] => .ok ()
  | directive :: rest => do
    checkDirective directive
    checkAll rest

/-- What is wrong with a filter. -/
def check (text : String) : Except Flaw Unit :=
  checkAll (directives text)

end Switchboard.LogFilter
