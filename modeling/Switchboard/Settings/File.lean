import Switchboard.Connection.Block
import Switchboard.Registry.Sweeper
import Switchboard.Toml.Document
import Switchboard.Workload.Round

/-!
# The settings file

The settings that a TOML document holds, section by section. A section or a setting that is left
out keeps its default. A section may be written as a table or as an array of its settings in their
fixed order. Settings that a section does not know are ignored, but there are no other sections.
-/

namespace Switchboard

/-- The settings of a file; durations are in the units of the file. -/
structure FileSettings where
  listen : String := "127.0.0.1:7070"
  connection : Profile := {}
  idleTimeoutSecs : Nat := 60
  intervalMs : Nat := 1000
  purgeClosed : Bool := false
  leastLatencyUs : Nat := 0
  greatestLatencyUs : Nat := 0
  workload : Workload := {}
  logLevel : String := "info"
  deriving Repr, DecidableEq

namespace FileSettings

open Toml

/-- The settings of a section, each under its position and its name. -/
abbrev Section := Nat → String → Option Value

/-- A value as a section; `none` if it can be none. A date has no settings. -/
def sectionOf : Value → Option Section
  | .table _ entries => some fun _ name => Entries.get? entries name
  | .array items => some fun position _ => items[position]?
  | .tables latest earlier =>
    let items := (latest :: earlier).reverse
    some fun position _ => items[position]?.map (Value.table .header)
  | .date => some fun _ _ => none
  | _ => none

/-- Read a setting, if it is there; the reading fails if it has a value of another kind. -/
def setting {α : Type} (fields : Section) (position : Nat) (name : String)
    (kind : Value → Option α) (otherwise : α) : Option α :=
  match fields position name with
  | none => some otherwise
  | some value => kind value

/-- A text. -/
def text? : Value → Option String
  | .string text => some text
  | _ => none

/-- Yes or no. -/
def flag? : Value → Option Bool
  | .boolean b => some b
  | _ => none

/-- A whole number from zero up to a bound. -/
def natural? (bound : Nat) : Value → Option Nat
  | .integer n => if 0 ≤ n ∧ n ≤ bound then some n.toNat else none
  | _ => none

/-- Whether a value holds nothing. -/
def isVacant : Value → Bool
  | .array [] => true
  | .table _ [] => true
  | _ => false

/-- A policy by its exact name, or as a table in which that name alone stands for nothing. -/
def policy? : Value → Option Policy
  | .string name => Policy.ofName? name
  | .table _ [(name, value)] => if isVacant value then Policy.ofName? name else none
  | _ => none

/-- Read one section, if it is there. -/
def readSection (entries : Entries) (name : String)
    (read : Section → FileSettings → Option FileSettings)
    (settings : FileSettings) : Option FileSettings :=
  match entries.get? name with
  | none => some settings
  | some value => (sectionOf value).bind fun fields => read fields settings

/-- The names of the sections. -/
def sectionNames : List String :=
  ["server", "connection", "reaper", "latency", "simulate", "logging"]

/-- The section on serving: the address to listen at. -/
def readServer (fields : Section) (s : FileSettings) : Option FileSettings := do
  let listen ← setting fields 0 "listen" text? s.listen
  some { s with listen := listen }

/-- The section on connections: what new ones are made with. -/
def readConnection (fields : Section) (s : FileSettings) :
    Option FileSettings := do
  let windowSize ← setting fields 0 "window_size" (natural? Scan.greatest32)
    s.connection.windowSize.toNat
  let bufferSize ← setting fields 1 "buffer_size" (natural? Scan.greatest64) s.connection.bufferSize
  let frameLimit ← setting fields 2 "max_frame_length" (natural? Scan.greatest64)
    s.connection.frameLimit
  let policy ← setting fields 3 "unknown_message_policy" policy? s.connection.policy
  some { s with connection := ⟨UInt32.ofNat windowSize, bufferSize, frameLimit, policy⟩ }

/-- The section on sweeping: when a connection counts as idle, how often to look, and whether
finished connections are removed. -/
def readReaper (fields : Section) (s : FileSettings) : Option FileSettings := do
  let idleTimeoutSecs ← setting fields 0 "idle_timeout_secs" (natural? Scan.greatest64)
    s.idleTimeoutSecs
  let intervalMs ← setting fields 1 "interval_ms" (natural? Scan.greatest64) s.intervalMs
  let purgeClosed ← setting fields 2 "purge_closed" flag? s.purgeClosed
  some { s with
    idleTimeoutSecs := idleTimeoutSecs
    intervalMs := intervalMs
    purgeClosed := purgeClosed }

/-- The section on latency: its bounds. -/
def readLatency (fields : Section) (s : FileSettings) : Option FileSettings := do
  let least ← setting fields 0 "min_us" (natural? Scan.greatest64) s.leastLatencyUs
  let greatest ← setting fields 1 "max_us" (natural? Scan.greatest64) s.greatestLatencyUs
  some { s with leastLatencyUs := least, greatestLatencyUs := greatest }

/-- The section on the workload: how much work there is. -/
def readSimulate (fields : Section) (s : FileSettings) :
    Option FileSettings := do
  let connections ← setting fields 0 "connections" (natural? Scan.greatest64) s.workload.connections
  let messages ← setting fields 1 "messages_per_connection" (natural? Scan.greatest64)
    s.workload.messagesPerConnection
  let rounds ← setting fields 2 "rounds" (natural? Scan.greatest64) s.workload.rounds
  some { s with workload := ⟨connections, messages, rounds⟩ }

/-- The section on logging: the filter. -/
def readLogging (fields : Section) (s : FileSettings) : Option FileSettings := do
  let level ← setting fields 0 "level" text? s.logLevel
  some { s with logLevel := level }

/-- The settings that a table describes. -/
def ofEntries (entries : Entries) : Option FileSettings := do
  if entries.all fun entry => sectionNames.contains entry.1 then
    let s ← readSection entries "server" readServer {}
    let s ← readSection entries "connection" readConnection s
    let s ← readSection entries "reaper" readReaper s
    let s ← readSection entries "latency" readLatency s
    let s ← readSection entries "simulate" readSimulate s
    readSection entries "logging" readLogging s
  else none

/-- The settings that a text describes; `none` if it is no document, or not one of settings. -/
def parse? (text : String) : Option FileSettings :=
  (Toml.parse? text).bind ofEntries

end FileSettings

end Switchboard
