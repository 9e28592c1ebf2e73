import RemoteDebugger.Digest.Hmac
import RemoteDebugger.Handshake.Challenge
import RemoteDebugger.Session.Operation

/-!
# Scripts

In a rehearsal the agent is a script: how it meets a connection, and what it does when the
session asks something of it. The network of a rehearsal leads to that agent only.
-/

namespace RemoteDebugger.Rehearsal

/-! ### Meeting a connection -/

/-- How the agent meets a connection. -/
inductive Reception where
  /-- Nobody listens. -/
  | nobody
  /-- The agent knows a secret. -/
  | secret (authkey : String)
  /-- The agent sends some messages, whatever it receives, and ends its stream. -/
  | messages (ms : List Bytes)

/-- What the agent tells of a connection. -/
inductive Impression where
  /-- The ends trust each other. -/
  | trust
  /-- They do not. -/
  | distrust (error : AuthError)
  /-- It received some messages. -/
  | heard (ms : List Bytes)

/-- What comes of a connection: for the end that connects, and for the agent if it was
reached. -/
structure Encounter where
  result     : Except ConnectionError Unit
  impression : Option Impression

/-- The random bytes of a challenge. A rehearsal has the same ones every time. -/
def randomBytes (seed : UInt8) : Bytes := List.replicate Challenge.nonceLength seed

/-- The result of one end. An end that waits for ever is one that the other left. -/
def resultOf (r : Option (Except AuthError Unit)) : Except AuthError Unit :=
  r.getD (.error (.wire .endOfStream))

/-- The agent's impression of a handshake. -/
def impressionOf : Except AuthError Unit → Impression
  | .ok ()   => .trust
  | .error e => .distrust e

/-- An attempt to reach the agent at `target`. An agent that listens is reached at every
address. -/
def Reception.encounter (r : Reception) (target : Target) : Encounter :=
  let key := Utf8.encode target.authkey
  match target.ip?, r with
  | none, _ | _, .nobody    => { result := Network.nowhere target 0, impression := none }
  | some _, .secret authkey =>
    let m := Challenge.meet Hmac.digest key (randomBytes 1) (Utf8.encode authkey) (randomBytes 2)
    { result     := (resultOf m.first).mapError .auth
      impression := some (impressionOf (resultOf m.second)) }
  | some _, .messages ms    =>
    let o := (Challenge.connect Hmac.digest key (randomBytes 1)).run (ms.flatMap Frame.encode)
    { result := o.result.mapError .auth, impression := some (.heard o.written) }

/-- The network that leads to the agent. -/
def Reception.network (r : Reception) : Network := fun target _ => (r.encounter target).result

/-! ### Actions -/

/-- Something that happens in a rehearsal while the session waits or is left alone. -/
inductive Action where
  /-- The agent sends a text in pieces, with the number of the request that it reacts to between
  them. -/
  | frame (parts : List String)
  /-- The agent sends bytes. -/
  | raw (bytes : Bytes)
  /-- The agent ends its stream. -/
  | close
  /-- The user gives a line of input. -/
  | input (text : String)
  /-- The user interrupts the program. -/
  | interrupt
  /-- The user closes the connection. -/
  | detach
  /-- The user looks at the state of the session. -/
  | look

/-- What the user learned of an action. -/
inductive Aside where
  | answer (a : Answer)
  | state (s : SessionState)

/-- What stands for the number of a request, null where there is none. -/
def numberText : Option RequestId → String
  | some id => s!"{id}"
  | none    => "null"

/-- The frame of a text in pieces. -/
def fill (id : Option RequestId) (parts : List String) : Bytes :=
  Frame.encode (Utf8.encode ((numberText id).intercalate parts))

end RemoteDebugger.Rehearsal
