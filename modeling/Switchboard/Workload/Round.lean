import Switchboard.Registry.Basic
import Switchboard.Workload.Draws

/-!
# Rounds

A workload drives a registry through rounds. A round opens a batch of connections, lets them send
randomly chosen lines and plays the peer's answers back, closes a random half of the batch, and
finally collects everything that was transmitted or dispatched. Every third round also sends a
burst over all established connections, and every fifth round reclaims idle ones first.

A round happens in surroundings: the instants at which its operations happen, and the initial
sequence numbers of its connections.
-/

namespace Switchboard

/-- How much work is to be done. -/
structure Workload where
  connections : Nat := 32
  messagesPerConnection : Nat := 3
  rounds : Nat := 5
  deriving Repr, DecidableEq

/-- What happened in a round; `elapsed` is in nanoseconds. -/
structure Round where
  created : Nat
  established : Nat
  sent : Nat
  received : Nat
  closed : Nat
  burst : Nat
  reclaimed : Nat
  drained : Nat
  elapsed : Nat
  deriving Repr, DecidableEq

/-- What a workload takes from outside besides its draws: when each of its operations happens, and
where the sequence numbers of each connection begin. -/
structure Surroundings where
  instant : Nat → Instant
  initialSequence : Nat → UInt32

/-- A registry under work, the state of the source of draws, and the number of operations so far. -/
structure Stage (σ : Type) where
  registry : Registry
  source : σ
  operations : Nat

namespace Stage

/-- Run one operation of the registry at the next instant. -/
def act {α σ : Type} (w : Stage σ) (around : Surroundings)
    (operation : Registry → Instant → α × Registry) : α × Stage σ :=
  let (answer, registry) := operation w.registry (around.instant w.operations)
  (answer, { w with registry := registry, operations := w.operations + 1 })

/-- Make a draw. -/
def draw {α σ : Type} (w : Stage σ) (draw : σ → α × σ) : α × Stage σ :=
  let (answer, source) := draw w.source
  (answer, { w with source := source })

/-- Do something for each element of a list, one after the other, and add up what is counted. -/
def countEach {α σ : Type} (deed : α → Stage σ → Nat × Stage σ) (elements : List α) (w : Stage σ) :
    Nat × Stage σ :=
  elements.foldl
    (fun (count, w) element =>
      let (more, w) := deed element w
      (count + more, w))
    (0, w)

end Stage

namespace Workload

/-- The lines from which clients choose. -/
def lines : List String := ["PING hello", "ECHO test message", "DATA sample_data_payload"]

/-- The number of frames in a burst. -/
def burstSize : Nat := 20

/-- Every so many rounds there is a burst. -/
def burstEvery : Nat := 3

/-- Every so many rounds idle connections are reclaimed. -/
def reclaimEvery : Nat := 5

/-- The greatest number that a frame of a burst carries. -/
def burstNumbers : Nat := 1000

/-- The port of the `i`-th connection of a batch, counted on from 8000 and around at 65536. -/
def port (i : Nat) : Nat := (8000 + i) % 65536

/-- What a well-behaved peer answers to a line. -/
def peerReply? (line : String) : Option String :=
  let (verb, argument) := splitVerb line
  if verb = "PING" then some ("PONG " ++ argument)
  else if verb = "ECHO" then some ("ECHO_REPLY " ++ argument)
  else none

variable {σ : Type}

/-- Make a connection for each port number. -/
def createBatch (around : Surroundings) (numbers : List Nat) (w : Stage σ) :
    Array ConnectionId × Stage σ :=
  numbers.foldl
    (fun (batch, w) i =>
      let (id, w) := w.act around fun r now =>
        r.create ⟨"127.0.0.1", port i⟩ ⟨"192.168.1.1", 80⟩ (around.initialSequence (r.lastId + 1))
          now
      (batch.push id, w))
    (#[], w)

/-- Whether an operation that could be refused was granted. -/
def granted : Except Fault Bool → Bool
  | .ok b => b
  | .error _ => false

/-- Open a connection; the number says whether it was opened. -/
def establishOne (around : Surroundings) (id : ConnectionId) (w : Stage σ) : Nat × Stage σ :=
  let (outcome, w) := w.act around fun r now => r.establish id now
  ((granted outcome).toNat, w)

/-- Send a line over a connection and, if it was sent, play the peer's answer back: the number of
lines sent and the number of answers. -/
def exchange (around : Surroundings) (id : ConnectionId) (line : String) (w : Stage σ) :
    (Nat × Nat) × Stage σ :=
  let (outcome, w) := w.act around fun r now => r.send id line now
  if granted outcome then
    match peerReply? line with
    | some reply =>
      let (_, w) := w.act around fun r now => r.deliver id (encodeLine reply) now
      ((1, 1), w)
    | none => ((1, 0), w)
  else ((0, 0), w)

/-- Let randomly chosen connections of a batch send randomly chosen lines, so many times. What was
sent and received before is counted as well. -/
def talk (d : Draws σ) (around : Surroundings) (batch : Array ConnectionId) :
    (times : Nat) → (sent received : Nat) → Stage σ → (Nat × Nat) × Stage σ
  | 0, sent, received, w => ((sent, received), w)
  | times + 1, sent, received, w =>
    let (i, w) := w.draw (d.choose batch.size)
    let (j, w) := w.draw (d.choose lines.length)
    match batch[i]?, lines[j]? with
    | some id, some line =>
      let ((moreSent, moreReceived), w) := exchange around id line w
      talk d around batch times (sent + moreSent) (received + moreReceived) w
    | _, _ => ((sent, received), w)

/-- Close the connection at a position of a batch; the number says whether it was closed. -/
def closeOne (around : Surroundings) (batch : Array ConnectionId) (i : Nat) (w : Stage σ) :
    Nat × Stage σ :=
  match batch[i]? with
  | some id =>
    let (outcome, w) := w.act around fun r now => r.close id now
    ((granted outcome).toNat, w)
  | none => (0, w)

/-- Send a numbered frame over a randomly chosen connection; the number says whether it was sent. -/
def burstOne (d : Draws σ) (around : Surroundings) (targets : Array ConnectionId) (w : Stage σ) :
    Nat × Stage σ :=
  let (i, w) := w.draw (d.choose targets.size)
  match targets[i]? with
  | some id =>
    let (number, w) := w.draw (d.between 1 burstNumbers)
    let (outcome, w) := w.act around fun r now => r.send id ("BURST_DATA_" ++ toString number) now
    ((granted outcome).toNat, w)
  | none => (0, w)

/-- Collect what a connection has transmitted and dispatched, and count the frames. -/
def collectOne (around : Surroundings) (id : ConnectionId) (w : Stage σ) : Nat × Stage σ :=
  let (frames, w) := w.act around fun r _ => r.drainOutbound id
  let (_, w) := w.act around fun r _ => r.drainInbound id
  (match frames with
    | .ok frames => frames.length
    | .error _ => 0, w)

/-- The connections that are established, by ascending id. -/
def establishedIds (r : Registry) : List ConnectionId :=
  r.ids.filter fun id =>
    match r.state id with
    | .ok s => s = .established
    | .error _ => false

/-- Run the round of this number. -/
def round (d : Draws σ) (around : Surroundings) (plan : Workload) (idleTimeout number : Nat)
    (w : Stage σ) : Round × Stage σ :=
  let started := around.instant w.operations
  let (batch, w) := createBatch around (List.range plan.connections) w
  let (established, w) := w.countEach (establishOne around) batch.toList
  let ((sent, received), w) :=
    if batch.isEmpty then ((0, 0), w)
    else talk d around batch (plan.connections * plan.messagesPerConnection) 0 0 w
  let (chosen, w) := w.draw (d.sample batch.size (batch.size / 2))
  let (closed, w) := w.countEach (closeOne around batch) chosen
  let (reclaimed, w) :=
    if number % reclaimEvery = 0 then w.act around fun r now => r.reclaim idleTimeout now
    else (0, w)
  let targets := (establishedIds w.registry).toArray
  let (burst, w) :=
    if number % burstEvery = 0 && !targets.isEmpty then
      w.countEach (fun _ w => burstOne d around targets w) (List.range burstSize)
    else (0, w)
  let (drained, w) := w.countEach (collectOne around) w.registry.ids
  ({ created := batch.size
     established := established
     sent := sent
     received := received
     closed := closed
     burst := burst
     reclaimed := reclaimed
     drained := drained
     elapsed := around.instant w.operations - started }, w)

/-- Run the rounds of these numbers, one after the other. -/
def roundsOf (d : Draws σ) (around : Surroundings) (plan : Workload) (idleTimeout : Nat) :
    List Nat → Stage σ → List Round × Stage σ
  | [], w => ([], w)
  | number :: rest, w =>
    let (report, w) := round d around plan idleTimeout number w
    let (reports, w) := roundsOf d around plan idleTimeout rest w
    (report :: reports, w)

end Workload

end Switchboard
