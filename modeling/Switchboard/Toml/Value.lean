/-!
# TOML values

What a TOML document says. Every table remembers how it came about, because that decides what may
still be added to it: a table written in braces is complete, a table with a header may get further
sub-tables, and a table that only exists through dotted keys may get further dotted keys.
-/

namespace Switchboard.Toml

/-- How a table came about. -/
inductive Origin
  /-- Written in braces. -/
  | braces
  /-- Named by a header. -/
  | header
  /-- Named only as part of a header of a table inside it. -/
  | implied
  /-- Named as part of a dotted key. -/
  | dotted
  deriving Repr, DecidableEq

/-- A value. The numbers of floats and the fields of dates are not kept. -/
inductive Value
  | string (text : String)
  | integer (n : Int)
  | float
  | boolean (b : Bool)
  | date
  | array (items : List Value)
  | table (origin : Origin) (entries : List (String × Value))
  /-- The tables that headers in double brackets have added to an array: the latest one, and those
  before it, the latest of them first. -/
  | tables (latest : List (String × Value)) (earlier : List (List (String × Value)))
  deriving Repr, Inhabited

/-- The named values of a table, the name given last first. -/
abbrev Entries := List (String × Value)

namespace Entries

/-- The value of a name. -/
def get? (entries : Entries) (name : String) : Option Value :=
  (entries.find? fun entry => entry.1 = name).map Prod.snd

/-- Give a name that has a value another value. -/
def replace (entries : Entries) (name : String) (value : Value) : Entries :=
  entries.map fun entry => if entry.1 = name then (name, value) else entry

/-- Give a name that has no value a value. -/
def add (entries : Entries) (name : String) (value : Value) : Entries :=
  (name, value) :: entries

/-- Change the table at the end of a path of headers, making the tables on the way that do not
exist. In an array of tables the latest one is meant. -/
def atHeader (change : Entries → Option Entries) : List String → Entries → Option Entries
  | [], entries => change entries
  | name :: path, entries =>
    match entries.get? name with
    | none => (atHeader change path []).map fun inner => entries.add name (.table .implied inner)
    | some (.table .braces _) => none
    | some (.table origin inner) =>
      (atHeader change path inner).map fun inner => entries.replace name (.table origin inner)
    | some (.tables latest earlier) =>
      (atHeader change path latest).map fun latest =>
        entries.replace name (.tables latest earlier)
    | some _ => none

/-- Open a table under a name: a new one, or one that was only implied so far. -/
def openTable (name : String) (entries : Entries) : Option Entries :=
  match entries.get? name with
  | none => some (entries.add name (.table .header []))
  | some (.table .implied inner) => some (entries.replace name (.table .header inner))
  | some _ => none

/-- Add an empty table to the array of tables under a name. -/
def appendTable (name : String) (entries : Entries) : Option Entries :=
  match entries.get? name with
  | none => some (entries.add name (.tables [] []))
  | some (.tables latest earlier) =>
    some (entries.replace name (.tables [] (latest :: earlier)))
  | some _ => none

/-- Give a name a value; a name has only one. -/
def assign (name : String) (value : Value) (entries : Entries) : Option Entries :=
  match entries.get? name with
  | none => some (entries.add name value)
  | some _ => none

/-- Give a name a value inside the table that dotted keys lead to. That table must have come about
through dotted keys itself; tables with headers of their own are not entered. -/
def assignDotted (name : String) (value : Value) : List String → Entries → Option Entries
  | [], entries => assign name value entries
  | key :: keys, entries =>
    match entries.get? key with
    | none =>
      (assignDotted name value keys []).map fun inner => entries.add key (.table .dotted inner)
    | some (.table .dotted inner) =>
      (assignDotted name value keys inner).map fun inner =>
        entries.replace key (.table .dotted inner)
    | some (.table .implied inner) =>
      if keys.isEmpty then none
      else (assignDotted name value keys inner).map fun inner =>
        entries.replace key (.table .implied inner)
    | some (.tables latest earlier) =>
      if keys.isEmpty then none
      else (assignDotted name value keys latest).map fun latest =>
        entries.replace key (.tables latest earlier)
    | some _ => none

end Entries

end Switchboard.Toml
