/-!
# Endpoints

One end of a connection: a host, written however the user wrote it, and a port.
-/

namespace Switchboard

/-- A host and a port. -/
structure Endpoint where
  host : String
  port : Nat
  deriving Repr, DecidableEq, Inhabited

/-- The host, a colon and the port; a host that itself holds colons gets no brackets. -/
def Endpoint.text (e : Endpoint) : String :=
  e.host ++ ":" ++ toString e.port

end Switchboard
