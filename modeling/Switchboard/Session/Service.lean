import Switchboard.Environment
import Switchboard.Session.Basic

/-!
# Service

Clients come one after the other over a network. Each gets a session of its own, sends everything
it has to say, and reads to the end what it is answered. Without a network no client can be served.
-/

namespace Switchboard

namespace Service

/-- The end at which clients are served. -/
def localEnd : Endpoint := ⟨"127.0.0.1", 7070⟩

/-- The end of a client. -/
def clientEnd : Endpoint := ⟨"127.0.0.1", 50000⟩

/-- Everything that a session wrote. -/
def written (account : List Note) : Bytes :=
  (account.reverse.map fun
    | .wrote bytes => bytes
    | _ => []).flatten

/-- Serve one client that sends these chunks and then stops sending. -/
def serveClient (r : Registry) (chunks : List Bytes) : Bytes × Registry :=
  match Session.start localEnd clientEnd (UInt32.ofNat Block.leastInitialSequence) 0 r with
  | (.ok id, opened) =>
    let script := (chunks.filter fun chunk => !chunk.isEmpty).flatMap Event.reads
    let (_, x) := Session.run id (script.map fun event => (0, event)) 0
      ⟨opened, Sink.unlimited, []⟩
    (written x.account, x.registry)
  | (.error _, refused) => ([], refused)

/-- Serve clients one after the other: what each of them reads, and the registry afterwards. -/
def serveAll : List (List Bytes) → Registry → List Bytes × Registry
  | [], r => ([], r)
  | chunks :: rest, r =>
    let (answer, r) := serveClient r chunks
    let (answers, r) := serveAll rest r
    (answer :: answers, r)

/-- Serve clients over a network. Where there is none, it is missed as soon as a client comes. -/
def run (network : Network) (profile : Profile) (clients : List (List Bytes)) :
    Except OsFault (List Bytes × Census) :=
  if network = .loopback ∨ clients = [] then
    let (answers, r) := serveAll clients (Registry.empty profile .none)
    .ok (answers, r.census)
  else .error .networkUnreachable

end Service

end Switchboard
