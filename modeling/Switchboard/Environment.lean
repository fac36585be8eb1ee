/-!
# Environment

What the program finds around itself and does not decide: whether there is a network, and how the
operating system reports that something cannot be had.
-/

namespace Switchboard

/-- A failure of the operating system. -/
inductive OsFault
  | noSuchFile
  | inputOutput
  | noSuchDevice
  | permissionDenied
  | notADirectory
  | isADirectory
  | invalidArgument
  | nameTooLong
  | networkUnreachable
  deriving Repr, DecidableEq

/-- The number of the error. -/
def OsFault.code : OsFault → Nat
  | noSuchFile => 2
  | inputOutput => 5
  | noSuchDevice => 6
  | permissionDenied => 13
  | notADirectory => 20
  | isADirectory => 21
  | invalidArgument => 22
  | nameTooLong => 36
  | networkUnreachable => 101

/-- The wording of the error, with its number. -/
def OsFault.message (fault : OsFault) : String :=
  let cause := match fault with
    | noSuchFile => "No such file or directory"
    | inputOutput => "Input/output error"
    | noSuchDevice => "No such device or address"
    | permissionDenied => "Permission denied"
    | notADirectory => "Not a directory"
    | isADirectory => "Is a directory"
    | invalidArgument => "Invalid argument"
    | nameTooLong => "File name too long"
    | networkUnreachable => "Network is unreachable"
  cause ++ " (os error " ++ toString fault.code ++ ")"

/-- Whether clients can reach the service. -/
inductive Network
  | loopback
  | unreachable
  deriving Repr, DecidableEq

end Switchboard
