import Switchboard.Connection.Latency
import Switchboard.Environment
import Switchboard.Settings.CommandLine
import Switchboard.Settings.File

/-!
# Settings

The settings of the program come from the command line, from a settings file, and from defaults, in
this order of precedence. `Settings.load` puts them together; reading a file is left to its
argument, which gives the bytes of a path.
-/

namespace Switchboard

open CommandLine

/-- The settings of the program; durations are in nanoseconds. -/
structure Settings where
  command : Command
  listen : String
  connection : Profile
  sweep : SweepPlan
  /-- The bounds of the simulated latency, as they were given. -/
  latencyBounds : Option (Nat × Nat)
  workload : Workload
  logLevel : String
  deriving Repr, DecidableEq

/-- Why a file could not be read. -/
inductive ReadFault
  | os (fault : OsFault)
  /-- No file can have that name. -/
  | noName
  /-- Its bytes are no text. -/
  | notText
  deriving Repr, DecidableEq

/-- The wording of the error. -/
def ReadFault.message : ReadFault → String
  | os fault => fault.message
  | noName => "file name contained an unexpected NUL byte"
  | notText => "stream did not contain valid UTF-8"

/-- Why there are no settings. -/
inductive SettingsFault
  | refused (refusal : Refusal)
  | unreadable (path : String) (fault : ReadFault)
  | malformed (path : String)
  deriving Repr, DecidableEq

namespace Settings

/-- Put the command line over a file. -/
def merge (cli : Arguments) (file : FileSettings) : Settings where
  command := cli.command
  listen := match cli.command with
    | .serve listen => listen.getD file.listen
    | .simulate .. => file.listen
  connection := { file.connection with policy := cli.unknownPolicy.getD file.connection.policy }
  sweep :=
    { idleTimeout := cli.idleTimeout.getD file.idleTimeoutSecs * Clock.second
      interval := max file.intervalMs 1 * Clock.millisecond
      purges := file.purgeClosed }
  latencyBounds :=
    if file.leastLatencyUs = 0 ∧ file.greatestLatencyUs = 0 then none
    else some (file.leastLatencyUs * Clock.microsecond,
      file.greatestLatencyUs * Clock.microsecond)
  workload := match cli.command with
    | .serve _ => file.workload
    | .simulate connections messages rounds =>
      { connections := connections.getD file.workload.connections
        messagesPerConnection := messages.getD file.workload.messagesPerConnection
        rounds := rounds.getD file.workload.rounds }
  logLevel := cli.logLevel.getD file.logLevel

/-- The latency that the settings ask for. -/
def latency (s : Settings) : Latency :=
  match s.latencyBounds with
  | some (a, b) => .between a b
  | none => .none

/-- The settings that the bytes of a file describe. -/
def ofBytes (path : String) (bytes : Bytes) : Except SettingsFault FileSettings :=
  match Utf8.valid? bytes with
  | none => .error (.unreadable path .notText)
  | some text =>
    match FileSettings.parse? text with
    | some file => .ok file
    | none => .error (.malformed path)

/-- The settings of the file at a path, if one is given, otherwise the defaults. A path with a zero
character names no file. -/
def ofPath (readPath : String → Except OsFault Bytes) :
    Option String → Except SettingsFault FileSettings
  | none => .ok {}
  | some path =>
    if path.contains '\x00' then .error (.unreadable path .noName)
    else
      match readPath path with
      | .ok bytes => ofBytes path bytes
      | .error fault => .error (.unreadable path (.os fault))

/-- The settings for the arguments of the program. -/
def load (readPath : String → Except OsFault Bytes) (arguments : List String) :
    Except SettingsFault Settings :=
  match CommandLine.parse arguments with
  | .error refusal => .error (.refused refusal)
  | .ok cli =>
    match ofPath readPath cli.config with
    | .ok file => .ok (merge cli file)
    | .error fault => .error fault

end Settings

end Switchboard
