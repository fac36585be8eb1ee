import Switchboard.Pattern.Atom

/-!
# Brackets

A set of characters in a pattern: characters, ranges of them, named sets and further brackets, one
after the other or joined by operators. Reading one gives how deep its parts are nested.
-/

namespace Switchboard.Pattern

/-- How deep a row of parts is nested: one deeper than its deepest part, if there are several. -/
def joint : List Nat → Nat
  | [] => 0
  | [depth] => depth
  | depths => 1 + depths.foldr max 0

/-- A bracket that has been opened. -/
structure Bracket where
  /-- The depth of what stands before the last operator. -/
  left? : Option Nat := none
  /-- The depths of the members after it. -/
  members : List Nat := []
  /-- Whether nothing but hyphens has been read, so that another hyphen is a member. -/
  leading : Bool := true
  deriving Repr, DecidableEq

namespace Bracket

/-- How deep the parts of a bracket are nested. -/
def depth (b : Bracket) : Nat :=
  match b.left? with
  | none => joint b.members
  | some left => 1 + max left (joint b.members)

/-- A bracket with one more member. -/
def add (depth : Nat) (b : Bracket) : Bracket :=
  { b with members := depth :: b.members, leading := false }

/-- A bracket after an operator. -/
def operator (b : Bracket) : Bracket :=
  ⟨some b.depth, [], false⟩

end Bracket

/-- The names of the named sets. -/
def setNames : List String :=
  ["alnum", "alpha", "ascii", "blank", "cntrl", "digit", "graph", "lower", "print", "punct",
   "space", "upper", "word", "xdigit"]

/-- A named set after its bracket: whether it means all characters but those. -/
def named? (cs : List Char) : Option (Bool × List Char) := do
  let ((), rest) ← Scan.char ':' cs
  let negated : Bool := rest.head? = some '^'
  let (name, rest) := Scan.span (· ≠ ':') (if negated then rest.drop 1 else rest)
  let ((), rest) ← Scan.literal ":]" rest
  if setNames.contains (String.ofList name) then some (negated, rest) else none

/-- Whether brackets may have a named set. -/
def Modes.admitsNamed (m : Modes) (negated : Bool) : Bool :=
  if m.unicode then !m.caseless else !negated

/-- Whether two atoms are the first and the last of a range. -/
def Modes.isRange (m : Modes) : Atom → Atom → Bool
  | .literal first x, .literal last y =>
    first ≤ last && m.admitsMember (.literal first x) && m.admitsMember (.literal last y)
  | _, _ => false

/-- What follows an atom or a range. A hyphen makes a range, unless a bracket that closes or
another hyphen comes next. -/
def afterMember? (m : Modes) (cs : List Char) : Option (List Char) := do
  let (first, rest) ← member? m cs
  let rest := m.skip rest
  let after := rest.drop 1
  if rest.head? = some '-' ∧ m.peek after ≠ some ']' ∧ m.peek after ≠ some '-' then
    let (last, rest) ← member? m (m.skip after)
    if m.isRange first last then some rest else none
  else if m.admitsMember first then some rest
  else none

/-- What follows an opening bracket and the sign that turns it round, which in bytes would make it
match beyond the first 128. -/
def afterOpening? (m : Modes) (cs : List Char) : Option (List Char) :=
  match m.skip cs with
  | '^' :: rest => if m.unicode then some rest else none
  | rest => some rest

/-- Whether two of a character make an operator. -/
def isOperator (c : Char) : Bool :=
  c = '&' || c = '-' || c = '~'

/-- Read a bracket to its end: how deep it is nested, and what follows it. The brackets around it
are kept, the innermost first. -/
def closeBracket? (m : Modes) : Nat → List Bracket → Bracket → Scan Nat
  | 0, _, _, _ => none
  | room + 1, outer, b, cs =>
    match m.skip cs with
    | [] => none
    | c :: rest =>
      if b.leading && (c = '-' || (c = ']' && b.members.isEmpty)) then
        if m.admitsMember (.literal c false) then
          closeBracket? m room outer { b.add 0 with leading := c = '-' } rest
        else none
      else if c = ']' then
        match outer with
        | [] => some (1 + b.depth, rest)
        | enclosing :: outer => closeBracket? m room outer (enclosing.add (1 + b.depth)) rest
      else if c = '[' then
        match named? rest with
        | some (negated, rest) =>
          if m.admitsNamed negated then closeBracket? m room outer (b.add 0) rest else none
        | none =>
          match afterOpening? m rest with
          | some rest => closeBracket? m room (b :: outer) {} rest
          | none => none
      else if isOperator c && rest.head? = some c then
        closeBracket? m room outer b.operator (rest.drop 1)
      else
        match afterMember? m (c :: rest) with
        | some rest => closeBracket? m room outer (b.add 0) rest
        | none => none

/-- Read a bracket after its opening sign. -/
def bracket? (m : Modes) : Scan Nat := fun cs =>
  (afterOpening? m cs).bind fun rest => closeBracket? m (rest.length + 1) [] {} rest

end Switchboard.Pattern
