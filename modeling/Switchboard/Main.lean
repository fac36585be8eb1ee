import Switchboard.Program

/-!
# The command line program

Reads the settings, runs the workload round by round, and prints the report. Times are taken from
the system clock and draws begin at a random seed. Listening for clients is refused: the program
has no network to listen on.
-/

namespace Switchboard.Program

/-- The failure that an error reports. If it tells the path then the file could not be opened: the
path leads below a file, or is too long. Otherwise it could be opened but not read. -/
def faultOf : IO.Error → OsFault
  | .inappropriateType (some _) .. => .notADirectory
  | .inappropriateType none .. => .isADirectory
  | .permissionDenied .. => .permissionDenied
  | .invalidArgument (some _) .. => .nameTooLong
  | .invalidArgument none .. => .invalidArgument
  | .hardwareFault .. => .inputOutput
  | .noSuchThing .. => .noSuchDevice
  | _ => .noSuchFile

/-- The bytes of the file at a path. -/
def readPath (path : String) : IO (Except OsFault Bytes) := do
  try
    return .ok (← IO.FS.readBinFile path).toList
  catch fault =>
    return .error (faultOf fault)

/-- Run the rounds of these numbers and measure each of them. -/
def timedRounds (s : Settings) (isn : UInt32) :
    List Nat → Stage SplitMix → IO (List Round × Stage SplitMix)
  | [], w => return ([], w)
  | number :: rest, w => do
    let started ← IO.monoNanosNow
    let around : Surroundings := ⟨fun _ => started, fun _ => isn⟩
    let (report, w) := s.workload.round SplitMix.draws around s.sweep.idleTimeout number w
    let finished ← IO.monoNanosNow
    let (reports, w) ← timedRounds s isn rest w
    return ({ report with elapsed := finished - started } :: reports, w)

/-- Run the whole workload. -/
def simulate (s : Settings) : IO Report := do
  let seed ← IO.rand 0 Scan.greatest64
  let isn ← IO.rand Block.leastInitialSequence Block.greatestInitialSequence
  let started ← IO.monoNanosNow
  let (rounds, w) ← timedRounds s (UInt32.ofNat isn) (List.range s.workload.rounds)
    ⟨.empty s.connection s.latency, ⟨UInt64.ofNat seed⟩, 0⟩
  let finished ← IO.monoNanosNow
  return ⟨rounds, w.registry.census, finished - started⟩

end Switchboard.Program

open Switchboard in
/-- Run the program with its arguments. -/
def main (arguments : List String) : IO UInt32 := do
  let arguments := Program.name :: arguments
  let path := match CommandLine.parse arguments with
    | .ok cli => cli.config
    | .error _ => none
  let file : Except OsFault Bytes ← match path with
    | some path => Program.readPath path
    | none => pure (.error .noSuchFile)
  match Program.prepare (fun _ => file) .unreachable arguments with
  | .ok settings =>
    IO.println (← Program.simulate settings).text
    return 0
  | .error stop =>
    stop.output.forM IO.println
    stop.errors.forM IO.eprintln
    return UInt32.ofNat stop.exitCode
