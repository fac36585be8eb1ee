/-!
# The lifecycle of a connection

Eleven states, and for each the states that may follow it in one step. `State.follows` is the
table; the fixed sequences that open and close a connection are lists of states to pass through.
-/

namespace Switchboard

/-- Where a connection stands between being opened and being closed. -/
inductive State
  | closed
  | listen
  | synSent
  | synReceived
  | established
  | finWait1
  | finWait2
  | closeWait
  | closing
  | lastAck
  | timeWait
  deriving Repr, DecidableEq, Inhabited

namespace State

/-- Every state, in the order in which states are reported. -/
def all : List State :=
  [closed, listen, synSent, synReceived, established, finWait1, finWait2, closeWait, closing,
    lastAck, timeWait]

/-- The position of a state in the order of `all`. -/
def rank : State → Nat
  | closed => 0
  | listen => 1
  | synSent => 2
  | synReceived => 3
  | established => 4
  | finWait1 => 5
  | finWait2 => 6
  | closeWait => 7
  | closing => 8
  | lastAck => 9
  | timeWait => 10

/-- The name of a state. -/
def name : State → String
  | closed => "CLOSED"
  | listen => "LISTEN"
  | synSent => "SYN_SENT"
  | synReceived => "SYN_RECEIVED"
  | established => "ESTABLISHED"
  | finWait1 => "FIN_WAIT_1"
  | finWait2 => "FIN_WAIT_2"
  | closeWait => "CLOSE_WAIT"
  | closing => "CLOSING"
  | lastAck => "LAST_ACK"
  | timeWait => "TIME_WAIT"

/-- A text that names no state. -/
structure Unrecognised where
  given : String
  deriving Repr, DecidableEq

/-- The wording of the error. -/
def Unrecognised.message (e : Unrecognised) : String :=
  "unknown connection state '" ++ e.given ++ "'"

/-- The state of this name, in any mixture of ASCII cases. -/
def parse (text : String) : Except Unrecognised State :=
  match all.find? (fun s => s.name = text.toUpper) with
  | some s => .ok s
  | none => .error ⟨text⟩

/-- The states that may follow in one step. -/
def successors : State → List State
  | closed => [listen, synSent]
  | listen => [synReceived, closed]
  | synSent => [synReceived, established, closed]
  | synReceived => [established, finWait1, closed]
  | established => [finWait1, closeWait]
  | finWait1 => [finWait2, closing, timeWait]
  | finWait2 => [timeWait]
  | closeWait => [lastAck]
  | closing => [timeWait]
  | lastAck => [closed]
  | timeWait => [closed]

/-- Whether one step may lead from the first state to the second. -/
def leadsTo (source target : State) : Bool :=
  source.successors.contains target

/-- Whether data may flow. -/
def carriesData (s : State) : Bool :=
  s = established

/-- Whether both sides have agreed on the opening. -/
def isSynchronized : State → Bool
  | closed | listen | synSent | synReceived => false
  | _ => true

/-- A new connection is closed. -/
def initial : State := closed

/-- The states passed through by opening actively. -/
def handshake : List State := [synSent, synReceived, established]

/-- The states passed through by accepting an opening. -/
def passiveOpen : List State := [synReceived, established]

/-- The states passed through by closing first. -/
def teardown : List State := [finWait1, finWait2, timeWait, closed]

/-- The states passed through after the peer has closed first. -/
def passiveClose : List State := [closeWait, lastAck, closed]

end State

end Switchboard
