import Switchboard.Text.Utf8

/-!
# Messages

A peer speaks in lines: a verb, and after the first space whatever it has to say. Three verbs ask
for something, four verbs answer something, and any other line is only recorded. The verb is
compared exactly, so `ping` is not a request.

A message is read from the text of a line (`Message.ofLine`) or from the raw bytes of a frame
(`Message.ofFrame`), and written back by `Message.text` and `Message.encode`.
-/

namespace Switchboard

/-- The byte that ends every frame. -/
def delimiter : UInt8 := 0x0A

/-- The bytes of a text followed by the delimiter. -/
def encodeLine (text : String) : Bytes :=
  Utf8.encode text ++ [delimiter]

/-- The text before the first space, and the text after it (empty if there is no space). -/
def splitVerb (line : String) : String × String :=
  let chars := line.toList
  (String.ofList (chars.takeWhile (· ≠ ' ')), String.ofList ((chars.dropWhile (· ≠ ' ')).drop 1))

/-- One line that a peer has sent. -/
inductive Message
  /-- Asks for its argument to come back. -/
  | ping (argument : String)
  /-- Asks for an echo of its argument. -/
  | echo (argument : String)
  /-- Carries data; `size` is the length of the whole line in bytes. -/
  | data (body : String) (size : Nat)
  /-- Any other line, replies of the peer included. -/
  | other (line : String)
  deriving Repr, DecidableEq, Inhabited

namespace Message

/-- Read the text of a line. -/
def ofLine (line : String) : Message :=
  let (verb, argument) := splitVerb line
  if verb = "PING" then .ping argument
  else if verb = "ECHO" then .echo argument
  else if verb = "DATA" then .data argument (Utf8.encode line).length
  else .other line

/-- Give a data message another size; other messages have none. -/
def withSize (size : Nat) : Message → Message
  | data body _ => data body size
  | m => m

/-- Read a frame without its delimiter. Ill-formed text is replaced, but the size of a data message
still counts the bytes that arrived. -/
def ofFrame (frame : Bytes) : Message :=
  (ofLine (Utf8.decode frame)).withSize frame.length

/-- The first word of the message. -/
def verb : Message → String
  | ping _ => "PING"
  | echo _ => "ECHO"
  | data .. => "DATA"
  | other line => (splitVerb line).1

/-- The verbs with which a peer answers. -/
def replyVerbs : List String := ["PONG", "ECHO_REPLY", "ACK", "UNKNOWN"]

/-- Whether the message answers something. Such messages are never answered, so that two peers
cannot keep each other talking. -/
def isReply : Message → Bool
  | other line => replyVerbs.contains (splitVerb line).1
  | _ => false

/-- A verb alone if there is no argument, otherwise both with a space between. -/
def joinVerb (verb argument : String) : String :=
  if argument = "" then verb else verb ++ " " ++ argument

/-- The line that says this message. -/
def text : Message → String
  | ping argument => joinVerb "PING" argument
  | echo argument => joinVerb "ECHO" argument
  | data body _ => joinVerb "DATA" body
  | other line => line

/-- The frame that carries this message. -/
def encode (m : Message) : Bytes :=
  encodeLine m.text

end Message

end Switchboard
