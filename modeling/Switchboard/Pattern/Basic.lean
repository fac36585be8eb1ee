import Switchboard.Pattern.Bracket
import Switchboard.Text.Letter

/-!
# Patterns

Which texts are patterns. A pattern is read in one pass, with a stack of the groups that are open;
of what has been read only that is kept which decides about the rest: the modes in force, the names
of the groups, and how deep the parts are nested. Repetition by a count is not among the means of a
pattern.
-/

namespace Switchboard.Pattern

/-- How deep the parts of a pattern may be nested. -/
def greatestDepth : Nat := 250

/-- A group that has been opened, or the whole pattern. -/
structure Group where
  modes : Modes := {}
  /-- The depths of the branches before this one. -/
  branches : List Nat := []
  /-- The depths of the parts of this branch, the last one first; a setting of modes has none, as it
  is no part that could be repeated. -/
  parts : List (Option Nat) := []
  deriving Repr, DecidableEq

namespace Group

/-- How deep the branch that is read is nested. -/
def branchDepth (g : Group) : Nat :=
  joint (g.parts.map fun part => part.getD 0)

/-- How deep a group is nested. -/
def depth (g : Group) : Nat :=
  joint (g.branchDepth :: g.branches)

/-- A group with one more part. -/
def add (depth : Nat) (g : Group) : Group :=
  { g with parts := some depth :: g.parts }

/-- A group in which a new branch begins. -/
def branch (g : Group) : Group :=
  { g with branches := g.branchDepth :: g.branches, parts := [] }

/-- A group in which modes are set. -/
def set (letters : List Char) (g : Group) : Group :=
  { g with modes := g.modes.set letters, parts := none :: g.parts }

/-- A group whose last part is repeated; there must be one. -/
def repeat? (g : Group) : Option Group :=
  match g.parts with
  | some depth :: parts => some { g with parts := some (1 + depth) :: parts }
  | _ => none

end Group

/-- What an opening parenthesis begins. -/
inductive Opening
  /-- A group with modes of its own. -/
  | group (letters : List Char)
  /-- A group with a name. -/
  | named (name : List Char)
  /-- No group, but a setting of modes in the group around it. -/
  | setting (letters : List Char)
  deriving Repr, DecidableEq

/-- Whether a group may have a name. -/
def isGroupName : List Char → Bool
  | [] => false
  | c :: rest => (c = '_' || Text.isLetter c) &&
      rest.all fun d => ['_', '.', '[', ']'].contains d || Text.isLetterOrNumeral d

/-- The name of a group, up to the sign that closes it. -/
def groupName? : Scan Opening := fun cs => do
  let (name, rest) := Scan.span (· ≠ '>') cs
  let ((), rest) ← Scan.char '>' rest
  if isGroupName name then some (.named name, rest) else none

/-- Modes for a group, up to a colon, or for the rest of the group around them, up to a closing
parenthesis. -/
def modes? : Scan Opening := fun cs => do
  let (letters, rest) := Scan.span (fun c => c ≠ ':' ∧ c ≠ ')') cs
  if !isSetting letters then none
  else
    match rest with
    | ':' :: rest => some (.group letters, rest)
    | ')' :: rest => if letters.isEmpty then none else some (.setting letters, rest)
    | _ => none

/-- What an opening parenthesis begins. -/
def opening? (m : Modes) : Scan Opening := fun cs =>
  match m.skip cs with
  | '?' :: 'P' :: '<' :: rest => groupName? rest
  | '?' :: '<' :: rest => groupName? rest
  | '?' :: rest => modes? rest
  | rest => some (.group [], rest)

/-- How far a pattern has been read. -/
structure Reading where
  /-- The names that have been given. -/
  names : List (List Char) := []
  /-- The groups around the innermost one, from inside to outside. -/
  outer : List Group := []
  /-- The innermost group. -/
  inner : Group := {}
  deriving Repr, DecidableEq

namespace Reading

/-- Begin a group, or set modes. -/
def open? (r : Reading) : Opening → Option Reading
  | .group letters =>
    some { r with outer := r.inner :: r.outer, inner := { modes := r.inner.modes.set letters } }
  | .named name =>
    if r.names.contains name then none
    else some ⟨name :: r.names, r.inner :: r.outer, { modes := r.inner.modes }⟩
  | .setting letters => some { r with inner := r.inner.set letters }

/-- End the innermost group, which becomes a part of the one around it. -/
def close? (r : Reading) : Option Reading :=
  match r.outer with
  | [] => none
  | around :: outer => some { r with outer := outer, inner := around.add (1 + r.inner.depth) }

/-- Put a part behind the others. -/
def add (depth : Nat) (r : Reading) : Reading :=
  { r with inner := r.inner.add depth }

/-- Read what a character begins, given the rest after it. -/
def next? (r : Reading) (c : Char) (rest : List Char) : Option (Reading × List Char) :=
  let m := r.inner.modes
  match c with
  | '(' => do
    let (opening, rest) ← opening? m rest
    let r ← r.open? opening
    some (r, rest)
  | ')' => r.close?.map (·, rest)
  | '|' => some ({ r with inner := r.inner.branch }, rest)
  | '[' => do
    let (depth, rest) ← bracket? m rest
    some (r.add depth, rest)
  | '\x7b' => none
  | '?' | '*' | '+' => do
    let inner ← r.inner.repeat?
    some ({ r with inner := inner }, if rest.head? = some '?' then rest.drop 1 else rest)
  | _ => do
    let (atom, rest) ← atom? m (c :: rest)
    if m.admits atom then some (r.add 0, rest) else none

/-- Read to the end, in so many steps at most. -/
def finish? : Nat → Reading → List Char → Option Reading
  | 0, _, _ => none
  | room + 1, r, cs =>
    match r.inner.modes.skip cs with
    | [] => some r
    | c :: rest =>
      match r.next? c rest with
      | some (r, rest) => finish? room r rest
      | none => none

end Reading

/-- Whether a text is a pattern: all groups are closed, and it is not nested too deep. -/
def isPattern (cs : List Char) : Bool :=
  match Reading.finish? (cs.length + 1) {} cs with
  | some r => r.outer.isEmpty && r.inner.depth ≤ greatestDepth
  | none => false

end Switchboard.Pattern
