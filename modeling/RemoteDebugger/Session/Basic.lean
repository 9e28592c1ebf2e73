import RemoteDebugger.Address.Target
import RemoteDebugger.Breakpoint.Registry
import RemoteDebugger.Event
import RemoteDebugger.Session.Error
import RemoteDebugger.Time.Backoff

/-!
# Sessions

A session is what the front end knows: its breakpoints, what it last heard of the program, and,
while it is attached to an agent, the state of the connection. Everything that ends with the
connection is kept in the connection.
-/

namespace RemoteDebugger

/-! ### Configuration -/

/-- What the agent is to tell with every stop of the program. -/
structure InteractionParams where
  callStack   : Bool := true
  environment : Bool := true
  postmortem  : Bool := true
deriving DecidableEq, Repr

def InteractionParams.toJson (p : InteractionParams) : Json :=
  .object [("call_stack", .bool p.callStack), ("environment", .bool p.environment),
    ("postmortem", .bool p.postmortem)]

/-- How a session goes about its work. -/
structure SessionConfig where
  /-- The attempts to attach. -/
  attachRetry : Backoff := ⟨10, .ofMilliseconds 500, .ofMilliseconds 500⟩
  /-- The looks whether a program that was interrupted has stopped. -/
  forceWait : Backoff := ⟨50, .ofMilliseconds 1, .ofMilliseconds 100⟩
  /-- How long an answer is waited for. -/
  responseTimeout : Duration := .ofSeconds 10
  /-- What the agent is to tell with every stop. -/
  params : InteractionParams := {}
  /-- Whether to run over the first stop after the program started. -/
  runWithoutPausing : Bool := false
  /-- The directory that relative file names start from. -/
  directory : String := "/"
deriving DecidableEq, Repr

/-! ### State -/

/-- How the program stands, as far as the agent told. -/
inductive Interaction where
  | running
  | interacting
  | blockedOnInput
deriving DecidableEq, Repr

/-- The state of a session as users see it. -/
inductive SessionState where
  /-- There is no connection. -/
  | detached
  /-- The program runs. -/
  | running
  /-- The program stands at a line and takes commands. -/
  | interacting
  /-- The program waits for a line of input. -/
  | blockedOnInput
deriving DecidableEq, Repr

def SessionState.name : SessionState → String
  | .detached       => "Detached"
  | .running        => "Running"
  | .interacting    => "Interacting"
  | .blockedOnInput => "BlockedOnInput"

/-- Where the program stopped last. -/
structure Location where
  file   : String
  line   : Nat
  /-- The text of the line. -/
  source : String
deriving DecidableEq, Repr

/-- A request that the agent has not answered. -/
structure Pending where
  method  : Method
  /-- Whether a command waits for the answer. -/
  awaited : Bool
deriving DecidableEq, Repr

/-- A connection to an agent. -/
structure Connection where
  /-- Which connection of the session it is, counted from one, see `Session.epoch`. -/
  epoch : Nat
  /-- Whether the agent is on another host. -/
  remote : Bool := false
  interaction : Interaction := .running
  /-- Whether the user is quitting. -/
  quitting : Bool := false
  /-- Whether the next stop is not to be shown, because the session asked for it on its own
  account. -/
  suppressNext : Bool := false
  /-- Whether to run over the next stop. -/
  startContinue : Bool := false
  /-- The request of the program for input, and how the program stood before it. -/
  inputRequest : Option (RequestId × Interaction) := none
  /-- The requests that wait for their answers. -/
  pending : List (RequestId × Pending) := []
  /-- Requests that were given up on, by increasing number. A late answer still tells that the
  program runs. -/
  abandoned : List (RequestId × Method) := []
  /-- How many more bytes the agent takes before it has read some, if there is a limit. -/
  room : Option Nat := none
  /-- Bytes of a frame of which more is to come. -/
  inbox : Bytes := []
deriving DecidableEq

/-- A record written to an agent, and the state of the session at that moment. -/
structure Letter where
  record : Record
  state  : SessionState
deriving DecidableEq

/-- What the front end knows. -/
structure Session where
  config : SessionConfig := {}
  /-- How many connections there have been. A counter of 64 bits has the same value as long as
  there are fewer than `2 ^ 64` of them. -/
  epoch : Nat := 0
  connection : Option Connection := none
  /-- The number of the next request. A counter of 64 bits goes on from zero after `2 ^ 64 - 1`,
  this one does not: they agree for the first `2 ^ 64 - 1` requests of a session. -/
  nextId : RequestId := 1
  /-- Where the program stopped last on the last connection. -/
  location : Option Location := none
  /-- The last exception on the last connection. -/
  lastException : Option String := none
  breakpoints : Registry := {}
  /-- What user interfaces have not yet taken note of. -/
  events : EventQueue := {}
  /-- What was written to agents, the oldest first. -/
  letters : List Letter := []
  /-- The answer that came for the command that waits. -/
  reply : Option Answer := none

namespace Session

def state (s : Session) : SessionState :=
  match s.connection with
  | none   => .detached
  | some c =>
    match c.interaction with
    | .running        => .running
    | .interacting    => .interacting
    | .blockedOnInput => .blockedOnInput

/-- The records written to agents, the oldest first. -/
def sent (s : Session) : List Record := s.letters.map Letter.record

def isAttached (s : Session) : Bool := s.connection.isSome

/-- Whether there is a connection to another host. -/
def isRemote (s : Session) : Bool := (s.connection.map Connection.remote).getD false

/-- The session with its connection changed, if it has one. -/
def modifyConnection (s : Session) (f : Connection → Connection) : Session :=
  { s with connection := s.connection.map f }

/-- The session with one more event for user interfaces. -/
def publish (s : Session) (e : Event) : Session := { s with events := s.events.publish e }

/-- The answer for the command that waits, unless it has one already. -/
def deliver (s : Session) (a : Answer) : Session := { s with reply := s.reply.or (some a) }

end Session

end RemoteDebugger
