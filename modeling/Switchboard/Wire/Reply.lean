import Switchboard.Wire.Message

/-!
# Replies

What a connection answers to a message. Requests are always answered; replies of the peer never;
other lines as the policy says.
-/

namespace Switchboard

/-- What to do with a line whose verb is not known. -/
inductive Policy
  /-- Answer `UNKNOWN` and the line. -/
  | reply
  /-- Record it and stay silent. -/
  | silent
  deriving Repr, DecidableEq, Inhabited

namespace Policy

/-- The name of a policy. -/
def name : Policy → String
  | reply => "reply"
  | silent => "silent"

/-- Unknown lines are answered unless something else is asked for. -/
def default : Policy := reply

/-- The policy of exactly this name. -/
def ofName? (name : String) : Option Policy :=
  if name = "reply" then some reply
  else if name = "silent" then some silent
  else none

/-- A text that names no policy; it is kept in lower case. -/
structure Unrecognised where
  lowered : String
  deriving Repr, DecidableEq

/-- The wording of the error. -/
def Unrecognised.message (e : Unrecognised) : String :=
  "unknown message policy '" ++ e.lowered ++ "' (expected reply|silent)"

/-- The policy of this name, in any mixture of ASCII cases. -/
def parse (text : String) : Except Unrecognised Policy :=
  match ofName? text.toLower with
  | some policy => .ok policy
  | none => .error ⟨text.toLower⟩

end Policy

/-- An answer to a message. -/
inductive Reply
  | pong (argument : String)
  | echoReply (argument : String)
  /-- Acknowledges a data line of that many bytes. -/
  | ack (size : Nat)
  | unknown (line : String)
  deriving Repr, DecidableEq

namespace Reply

/-- The line that says this reply: its verb, a space, and what follows even if that is empty. -/
def text : Reply → String
  | pong argument => "PONG " ++ argument
  | echoReply argument => "ECHO_REPLY " ++ argument
  | ack size => "ACK " ++ toString size
  | unknown line => "UNKNOWN " ++ line

/-- The frame that carries this reply. -/
def encode (r : Reply) : Bytes :=
  encodeLine r.text

end Reply

/-- The answer that a message gets under a policy. -/
def Message.reply? (policy : Policy) : Message → Option Reply
  | .ping argument => some (.pong argument)
  | .echo argument => some (.echoReply argument)
  | .data _ size => some (.ack size)
  | .other line =>
    if (Message.other line).isReply then none
    else match policy with
      | .reply => some (.unknown line)
      | .silent => none

end Switchboard
