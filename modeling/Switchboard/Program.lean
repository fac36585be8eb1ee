import Switchboard.Connection.Address
import Switchboard.Settings.Basic
import Switchboard.Settings.LogFilter
import Switchboard.Workload.Report

/-!
# The program

What a run of the program comes to, as far as it is decided before any work is done: the settings
to work with, or the reason why it ends, with the texts that it prints and its exit code.
-/

namespace Switchboard.Program

open CommandLine

/-- The name of the program. -/
def name : String := "pcbsim"

/-- The version of the program. -/
def version : String := "0.1.0"

/-- Why a run ends before its work begins. -/
inductive Stop
  | settings (fault : SettingsFault)
  | logLevel (flaw : LogFilter.Flaw)
  | bindFailed (listen : String)
  deriving Repr, DecidableEq

/-- The line that says why settings are missing. -/
def settingsMessage : SettingsFault → String
  | .refused refusal => refusal.name
  | .unreadable path fault => "failed to read config file '" ++ path ++ "': " ++ fault.message
  | .malformed path => "failed to parse config file '" ++ path ++ "'"

/-- How the program is called. -/
def usage : List String :=
  ["Usage: " ++ name ++ " [OPTIONS] <COMMAND>",
   "",
   "Commands:",
   "  serve     Accept TCP clients and speak the line protocol with them",
   "              -l, --listen <LISTEN>",
   "  simulate  Run an in-process workload and print the statistics",
   "              -n, --connections <CONNECTIONS>",
   "              -m, --messages <MESSAGES>",
   "              -r, --rounds <ROUNDS>",
   "  help      Print this message",
   "",
   "Options:",
   "  -c, --config <CONFIG>                  Path to TOML configuration file",
   "  -t, --idle-timeout <IDLE_TIMEOUT>      Seconds after which an idle connection is reclaimed",
   "      --unknown-policy <UNKNOWN_POLICY>  What to do with unknown messages (reply, silent)",
   "      --log-level <LOG_LEVEL>            Log level (trace, debug, info, warn, error)",
   "  -h, --help                             Print help",
   "  -V, --version                          Print version"]

/-- The exit code after a stop. A log level with a torn part is not refused but breaks the run. -/
def Stop.exitCode : Stop → Nat
  | settings (.refused refusal) => refusal.exitCode
  | logLevel .torn => 101
  | _ => 1

/-- The lines on standard output after a stop. -/
def Stop.output : Stop → List String
  | settings (.refused .helpWanted) => usage
  | settings (.refused .versionWanted) => [name ++ " " ++ version]
  | _ => []

/-- What is written to the error output after a stop. -/
def Stop.complaints : Stop → List String
  | settings (.refused .helpWanted) => []
  | settings (.refused .versionWanted) => []
  | settings (.refused .nothingGiven) => usage
  | settings (.refused refusal) => ("error: " ++ refusal.name) :: "" :: usage
  | settings fault => ["Error: " ++ settingsMessage fault]
  | logLevel .malformed => ["Error: invalid log level"]
  | logLevel .torn => ["part of the log level ends inside a character"]
  | bindFailed listen => ["Error: failed to bind " ++ listen]

/-- The lines on the error output after a stop. A path or an address that was given may bring ends
of lines along. -/
def Stop.errors (stop : Stop) : List String :=
  stop.complaints.flatMap Layout.lines

/-- Whether the program could listen at an address. -/
def canListen (network : Network) (listen : String) : Bool :=
  network = .loopback && (SocketAddress.parse? listen).isSome

/-- The settings to work with. The arguments come first, then the file, then the log filter, and
last the address to listen at. -/
def prepare (readPath : String → Except OsFault Bytes) (network : Network)
    (arguments : List String) : Except Stop Settings := do
  let s ← (Settings.load readPath arguments).mapError .settings
  (LogFilter.check s.logLevel).mapError .logLevel
  match s.command with
  | .serve _ => if canListen network s.listen then return s else throw (.bindFailed s.listen)
  | .simulate .. => return s

end Switchboard.Program
