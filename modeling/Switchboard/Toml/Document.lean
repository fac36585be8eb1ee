import Switchboard.Toml.Number

/-!
# TOML documents

A document is a list of statements: headers, which say where the following keys belong, and
assignments. `statements` reads them from the text, and `build` carries them out one after the
other on a table that is empty at first. A statement that contradicts an earlier one is refused.
-/

namespace Switchboard.Toml

open Scan

/-- One line of a document that says something. -/
inductive Statement
  /-- A header in single brackets. -/
  | table (path : List String)
  /-- A header in double brackets. -/
  | tableItem (path : List String)
  /-- A key and its value. -/
  | assignment (key : List String) (value : Value)
  deriving Repr

/-- Make an assignment inside a table; all parts of the key but the last lead to the place. -/
def Entries.assignKey (key : List String) (value : Value) (entries : Entries) : Option Entries :=
  match key.getLast? with
  | some name => entries.assignDotted name value key.dropLast
  | none => none

/-- A key, an equals sign, and what a scanner reads after it. -/
def keyAnd (value : Scan Value) : Scan (List String × Value) := fun cs => do
  let (parts, cs) ← key cs
  let (_, cs) ← char '=' (skipBlanks cs)
  let (v, cs) ← value (skipBlanks cs)
  some ((parts, v), cs)

/-- The items of an array up to its closing bracket, with commas between and perhaps one at the
end; they may stand on several lines. Those that have been `read` are in reverse. -/
def arrayItems (value : Scan Value) (read : List Value) : (room : Nat) → Scan (List Value)
  | 0, _ => none
  | room + 1, cs =>
    match skipLayout cs with
    | ']' :: rest => some (read.reverse, rest)
    | next =>
      match value next with
      | none => none
      | some (item, rest) =>
        match skipLayout rest with
        | ',' :: rest => arrayItems value (item :: read) room rest
        | ']' :: rest => some ((item :: read).reverse, rest)
        | _ => none

/-- The assignments of a table in braces up to its closing brace, all on one line. At least one is
to come; those that have been `read` are in reverse. -/
def braceItems (value : Scan Value) (read : List (List String × Value)) :
    (room : Nat) → Scan (List (List String × Value))
  | 0, _ => none
  | room + 1, cs =>
    match keyAnd value cs with
    | none => none
    | some (item, rest) =>
      match skipBlanks rest with
      | ',' :: rest => braceItems value (item :: read) room rest
      | c :: rest => if c = '\x7d' then some ((item :: read).reverse, rest) else none
      | [] => none

/-- A table in braces, after the opening brace. -/
def braceTable (value : Scan Value) (room : Nat) : Scan Value := fun cs =>
  let table (items : List (List String × Value)) (rest : List Char) : Option (Value × List Char) :=
    (items.foldlM (fun entries item => Entries.assignKey item.1 item.2 entries) []).map
      fun entries => (.table .braces entries, rest)
  match skipBlanks cs with
  | c :: rest =>
    if c = '\x7d' then table [] rest
    else
      match braceItems value [] room cs with
      | some (items, rest) => table items rest
      | none => none
  | [] => none

/-- A value in which arrays and tables are nested at most so deep, and hold no more items than there
is room for. -/
def valueWithin (room : Nat) : (depth : Nat) → Scan Value
  | depth, cs =>
    match cs with
    | [] => none
    | c :: rest =>
      if c = doubleQuote ∨ c = singleQuote then
        (anyString cs).map fun (text, rest) => (.string text, rest)
      else if c = '[' then
        match depth with
        | 0 => none
        | depth + 1 =>
          (arrayItems (valueWithin room depth) [] room rest).map
            fun (items, rest) => (.array items, rest)
      else if c = '\x7b' then
        match depth with
        | 0 => none
        | depth + 1 => braceTable (valueWithin room depth) room rest
      else
        match literal "true" cs, literal "false" cs with
        | some (_, rest), _ => some (.boolean true, rest)
        | none, some (_, rest) => some (.boolean false, rest)
        | none, none => numberOrDate cs

/-- A statement, without the end of its line. -/
def statement (room : Nat) : Scan Statement
  | '[' :: '[' :: rest => do
    let (path, rest) ← key rest
    let (_, rest) ← literal "]]" (skipBlanks rest)
    some (.tableItem path, rest)
  | '[' :: rest => do
    let (path, rest) ← key rest
    let (_, rest) ← char ']' (skipBlanks rest)
    some (.table path, rest)
  | cs =>
    (keyAnd (valueWithin room nestingLimit) cs).map fun (item, rest) =>
      (.assignment item.1 item.2, rest)

/-- The statements of a text, after those that have been `read` (in reverse). There is room for as
many more, and `size` is room enough for the items of any value. -/
def statementsWithin (size : Nat) (read : List Statement) :
    (room : Nat) → List Char → Option (List Statement)
  | 0, _ => none
  | room + 1, cs =>
    match skipLayout cs with
    | [] => some read.reverse
    | next =>
      match statement size next with
      | none => none
      | some (first, rest) =>
        match restOfLine rest with
        | some rest => statementsWithin size (first :: read) room rest
        | none => none

/-- The statements of a text. A byte order mark at its beginning does not count. -/
def statements (text : String) : Option (List Statement) :=
  let cs := match text.toList with
    | '\uFEFF' :: rest => rest
    | cs => cs
  let room := cs.length + 1
  statementsWithin room [] room cs

/-- A document that is being built: the path of the last header, and the whole table. -/
structure Building where
  path : List String
  root : Entries

/-- Carry out a statement. -/
def Building.carryOut (b : Building) : Statement → Option Building
  | .table path =>
    match path.getLast? with
    | some name =>
      (b.root.atHeader (Entries.openTable name) path.dropLast).map fun root => ⟨path, root⟩
    | none => none
  | .tableItem path =>
    match path.getLast? with
    | some name =>
      (b.root.atHeader (Entries.appendTable name) path.dropLast).map fun root => ⟨path, root⟩
    | none => none
  | .assignment key value =>
    (b.root.atHeader (Entries.assignKey key value) b.path).map fun root => { b with root := root }

/-- The table that statements describe. -/
def build (statements : List Statement) : Option Entries :=
  (statements.foldlM Building.carryOut ⟨[], []⟩).map Building.root

/-- The table that a text describes; `none` if the text is no TOML document. -/
def parse? (text : String) : Option Entries :=
  (statements text).bind build

end Switchboard.Toml
