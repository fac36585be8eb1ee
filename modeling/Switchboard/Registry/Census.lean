import Switchboard.Connection.Basic
import Switchboard.Text.Layout

/-!
# Census

The figures of a registry: how many connections there have been, how many are held in which state,
and what has flowed through all of them. They are counted anew from the connections that are held,
together with a tally of those that have been removed, so removing a connection loses nothing but
its entry among the connections held and its dropped frames.
-/

namespace Switchboard

/-- Totals over connections that are no longer held. -/
structure Tally where
  connections : Nat
  closed : Nat
  timedOut : Nat
  bytesSent : Nat
  bytesReceived : Nat
  packetsSent : Nat
  packetsReceived : Nat
  transitions : Nat
  deriving Repr, DecidableEq

namespace Tally

/-- Nothing has been removed. -/
def zero : Tally := ⟨0, 0, 0, 0, 0, 0, 0, 0⟩

/-- The tally with one more removed connection. -/
def absorb (t : Tally) (b : Block) : Tally where
  connections := t.connections + 1
  closed := t.closed + b.gracefullyClosed.toNat
  timedOut := t.timedOut + b.timedOut.toNat
  bytesSent := t.bytesSent + b.bytesSent
  bytesReceived := t.bytesReceived + b.bytesReceived
  packetsSent := t.packetsSent + b.packetsSent
  packetsReceived := t.packetsReceived + b.packetsReceived
  transitions := t.transitions + b.transitions

end Tally

/-- The figures of a registry. `distribution` lists, in the order of the states, the states in
which connections are held and how many. -/
structure Census where
  total : Nat
  current : Nat
  active : Nat
  closed : Nat
  timedOut : Nat
  bytesSent : Nat
  bytesReceived : Nat
  packetsSent : Nat
  packetsReceived : Nat
  transitions : Nat
  framesDropped : Nat
  distribution : List (State × Nat)
  deriving Repr, DecidableEq

namespace Census

/-- The sum of a figure over connections. -/
def sum (connections : List Connection) (figure : Connection → Nat) : Nat :=
  connections.foldr (fun c total => figure c + total) 0

/-- The number of connections in a state. -/
def countIn (connections : List Connection) (s : State) : Nat :=
  connections.countP fun c => c.state = s

/-- How many connections are in each state, states without connections left out. -/
def distribute (connections : List Connection) : List (State × Nat) :=
  (State.all.map fun s => (s, countIn connections s)).filter fun entry => entry.2 ≠ 0

/-- Count the connections that are held, and add those that are not. -/
def take (retired : Tally) (connections : List Connection) : Census where
  total := retired.connections + connections.length
  current := connections.length
  active := countIn connections .established
  closed := retired.closed + connections.countP fun c => c.block.gracefullyClosed
  timedOut := retired.timedOut + connections.countP fun c => c.block.timedOut
  bytesSent := retired.bytesSent + sum connections fun c => c.block.bytesSent
  bytesReceived := retired.bytesReceived + sum connections fun c => c.block.bytesReceived
  packetsSent := retired.packetsSent + sum connections fun c => c.block.packetsSent
  packetsReceived := retired.packetsReceived + sum connections fun c => c.block.packetsReceived
  transitions := retired.transitions + sum connections fun c => c.block.transitions
  framesDropped := sum connections fun c => c.receiver.dropped
  distribution := distribute connections

/-- Bytes in both directions. -/
def bytesTransferred (c : Census) : Nat :=
  c.bytesSent + c.bytesReceived

/-- Packets in both directions. -/
def packetsTransferred (c : Census) : Nat :=
  c.packetsSent + c.packetsReceived

/-- The number of connections held in a state. -/
def inState (c : Census) (s : State) : Nat :=
  ((c.distribution.find? fun entry => entry.1 = s).map Prod.snd).getD 0

/-- The figures that are written one to a line, with their labels. -/
def rows (c : Census) : List (String × Nat) :=
  [("total_connections", c.total),
   ("current_connections", c.current),
   ("active_connections", c.active),
   ("closed_connections", c.closed),
   ("timed_out_connections", c.timedOut),
   ("bytes_sent", c.bytesSent),
   ("bytes_received", c.bytesReceived),
   ("bytes_transferred", c.bytesTransferred),
   ("packets_sent", c.packetsSent),
   ("packets_received", c.packetsReceived),
   ("packets_transferred", c.packetsTransferred),
   ("state_transitions", c.transitions),
   ("frames_dropped", c.framesDropped)]

/-- The figures as lines, the distribution last. -/
def lines (c : Census) : List String :=
  (c.rows.map fun row => Layout.field row.1 (toString row.2)) ++
    [Layout.label "state_distribution" ++
      String.join (c.distribution.map fun entry =>
        " " ++ entry.1.name ++ "=" ++ toString entry.2)]

/-- The figures as one text. -/
def text (c : Census) : String :=
  "\n".intercalate c.lines

end Census

end Switchboard
