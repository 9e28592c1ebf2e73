import RemoteDebugger.Wire.Frame

/-!
# Pipes

One direction of a connection: the bytes that were written and not yet read, in order, and
whether the writing end is closed.
-/

namespace RemoteDebugger

/-- One direction of a connection. -/
structure Pipe where
  pending : Bytes := []
  closed  : Bool := false
deriving DecidableEq, Repr

namespace Pipe

/-- The pipe after a frame was written to it. -/
def send (p : Pipe) (payload : Bytes) : Pipe :=
  { p with pending := p.pending ++ Frame.encode payload }

def close (p : Pipe) : Pipe := { p with closed := true }

/-- Whether a read finds something: bytes or the end. -/
def readable (p : Pipe) : Bool := !p.pending.isEmpty || p.closed

/-- One payload read from a pipe that holds one or is closed. -/
def receive (p : Pipe) : Except Fault Bytes × Pipe :=
  let (result, rest) := Frame.receive Frame.defaultLimit p.pending
  (result, { p with pending := rest })

end Pipe

/-! ### A peer that echoes -/

/-- The two directions of a connection, seen from one end. -/
structure Duplex where
  outgoing : Pipe := {}
  incoming : Pipe := {}

namespace Duplex

/-- What the end saw of a conversation: what it received, and at each look whether something was
there to read. -/
structure Echoed where
  received : List (Except Fault Bytes)
  looks    : List Bool

/-- One payload sent to a peer that echoes it, with a look before the echo and one after it. -/
def echoOne (d : Duplex) (payload : Bytes) : Duplex × Except Fault Bytes × List Bool :=
  let outgoing := d.outgoing.send payload
  let (heard, outgoing) := outgoing.receive
  let before := d.incoming.readable
  let incoming := match heard with
    | .ok p    => d.incoming.send p
    | .error _ => d.incoming.close
  let after := incoming.readable
  let (result, incoming) := incoming.receive
  ({ outgoing, incoming }, result, [before, after])

/-- Payloads sent one after the other to a peer that echoes each of them and then closes. -/
def echo (d : Duplex) : List Bytes → Echoed
  | []      =>
    let incoming := d.incoming.close
    { received := [incoming.receive.1], looks := [incoming.readable] }
  | p :: ps =>
    let (d, result, looks) := d.echoOne p
    let rest := d.echo ps
    { received := result :: rest.received, looks := looks ++ rest.looks }

end Duplex

end RemoteDebugger
