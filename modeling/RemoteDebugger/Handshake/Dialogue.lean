import RemoteDebugger.Wire.Frame

/-!
# Dialogues

A dialogue is one end's part of an exchange of short messages that ends in agreement or in an
error. It can be held against the bytes of a peer, or against the dialogue of the other end.
-/

namespace RemoteDebugger

/-- Why the ends of a connection did not come to trust each other. -/
inductive AuthError where
  /-- The digest that the peer sent was wrong. -/
  | wrongDigest
  /-- The peer rejected the digest that was sent to it. -/
  | rejected
  /-- A message of the given length that is no challenge. -/
  | noChallenge (length : Nat)
  /-- A challenge with a nonce of the given length, which is too short. -/
  | challengeTooShort (length : Nat)
  /-- A challenge that asks for an unknown digest. -/
  | unsupportedDigest (tag : Bytes)
  /-- A fault of the connection. -/
  | wire (fault : Fault)
deriving DecidableEq, Repr

def AuthError.message : AuthError → String
  | .wrongDigest           => "digest received was wrong"
  | .rejected              => "digest sent was rejected"
  | .noChallenge n         => s!"challenge expected, got {n} bytes without the marker"
  | .challengeTooShort n   => s!"challenge too short: {n} bytes"
  | .unsupportedDigest tag => "unsupported digest `" ++ Utf8.display tag ++ "`"
  | .wire fault            => fault.message

/-- One end's part of an exchange of messages. -/
inductive Dialogue where
  /-- The exchange is over. -/
  | done (result : Except AuthError Unit)
  /-- A message goes to the peer. -/
  | send (message : Bytes) (next : Dialogue)
  /-- A message of the peer is awaited. -/
  | receive (next : Bytes → Dialogue)

namespace Dialogue

/-- The longest message that is received. -/
def maxMessage : Nat := 256

/-- A dialogue followed by another one, unless it ends in an error. -/
def andThen : Dialogue → Dialogue → Dialogue
  | .done (.ok ()),   d => d
  | .done (.error e), _ => .done (.error e)
  | .send m next,     d => .send m (next.andThen d)
  | .receive next,    d => .receive fun m => (next m).andThen d

/-! ### Against the bytes of a peer -/

/-- How a dialogue came out: its result, the messages it sent and what is left of the peer's
bytes. -/
structure Outcome where
  result  : Except AuthError Unit
  written : List Bytes
  rest    : Bytes

/-- The dialogue held with a peer that sends the bytes `s` and then ends its stream. -/
def run : Dialogue → Bytes → Outcome
  | .done result,    s => { result, written := [], rest := s }
  | .send m next,    s =>
    let o := next.run s
    { o with written := m :: o.written }
  | .receive next,   s =>
    match Frame.receive maxMessage s with
    | (.ok m, rest)    => (next m).run rest
    | (.error f, rest) => { result := .error (.wire f), written := [], rest }

/-! ### Against the other end -/

/-- What a dialogue does with a message: one that is too long is an error. -/
def accept (next : Bytes → Dialogue) (m : Bytes) : Dialogue :=
  if maxMessage < m.length then .done (.error (.wire (.tooLong m.length maxMessage))) else next m

/-- The result of an end that gets no more messages: none if it waits for one that never comes.
An end that failed has closed the connection, which the other one sees as the end of the
stream. -/
def settle (d peer : Dialogue) : Option (Except AuthError Unit) :=
  match d, peer with
  | .done result, _                 => some result
  | .receive _,   .done (.error _)  => some (.error (.wire .endOfStream))
  | _,            _                 => none

/-- How two ends came out, and the messages that neither has read. -/
structure Meeting where
  first    : Option (Except AuthError Unit)
  second   : Option (Except AuthError Unit)
  toFirst  : List Bytes
  toSecond : List Bytes

/-- Two dialogues held with each other for a number of steps, with the messages under way to
each. -/
def meetFor : Nat → Dialogue → Dialogue → List Bytes → List Bytes → Meeting
  | 0,     a, b, toA, toB => ⟨a.settle b, b.settle a, toA, toB⟩
  | n + 1, a, b, toA, toB =>
    match a, toA with
    | .send m a,    toA      => meetFor n a b toA (toB ++ [m])
    | .receive k,   m :: toA => meetFor n (accept k m) b toA toB
    | a,            toA      =>
      match b, toB with
      | .send m b,  toB      => meetFor n a b (toA ++ [m]) toB
      | .receive k, m :: toB => meetFor n a (accept k m) toA toB
      | b,          toB      => ⟨a.settle b, b.settle a, toA, toB⟩

end Dialogue

end RemoteDebugger
