import RemoteDebugger.Handshake.Dialogue
import RemoteDebugger.Record.Decoding
import RemoteDebugger.Time.Duration

/-!
# Errors of a session

Why an operation of a session failed, with the text for the user, and which errors mean that
there is no connection any more.
-/

namespace RemoteDebugger

/-- Why no connection came about. -/
inductive ConnectionError where
  /-- Nobody was reached at the address. -/
  | connect (address : String) (fault : Fault)
  /-- The ends do not trust each other. -/
  | auth (error : AuthError)
  /-- A fault before or after that. -/
  | wire (fault : Fault)
deriving DecidableEq, Repr

def ConnectionError.message : ConnectionError → String
  | .connect address fault => "connect to " ++ address ++ ": " ++ fault.message
  | .auth error            => "authentication: " ++ error.message
  | .wire fault            => fault.message

/-- Why an operation of a session failed. -/
inductive SessionError where
  /-- The agent was not reached. -/
  | connect (error : ConnectionError)
  /-- The agent was reached, but there is no trust. -/
  | auth (error : ConnectionError)
  /-- The agent was not reached in a number of attempts. -/
  | exhausted (attempts : Nat) (last : SessionError)
  /-- There is a connection already. -/
  | alreadyAttached
  /-- There is no connection. -/
  | notAttached
  /-- The connection went away. -/
  | disconnected
  /-- The answer of the agent was malformed. -/
  | malformed (error : DecodeError)
  /-- The agent did not answer in time. -/
  | timeout (method : Method) (limit : Duration)
  /-- The program does not stand still. -/
  | notInteracting
  /-- The program did not stop in time. -/
  | busy
  /-- The program waits for input. -/
  | waitingForInput
  /-- The agent answered with an error. -/
  | remote (error : RemoteError)
  /-- The program had an exception. -/
  | exception (message : String)
  /-- There is no such breakpoint, by its text. -/
  | unknownBreakpoint (display : String)
  /-- A fault of the connection. -/
  | wire (fault : Fault)

namespace SessionError

/-- The error of a session that could not connect. -/
def ofConnection : ConnectionError → SessionError
  | .auth e => .auth (.auth e)
  | e       => .connect e

def message : SessionError → String
  | .connect e           => "connect to agent: " ++ e.message
  | .auth e              => "authentication failed: " ++ e.message
  | .exhausted n last    => s!"agent not reachable after {n} attempts: " ++ last.message
  | .alreadyAttached     => "session already attached"
  | .notAttached         => "session not attached"
  | .disconnected        => "connection to agent lost"
  | .malformed e         => "protocol: " ++ e.message
  | .timeout m limit     => "no response to `" ++ m.name ++ "` within " ++ limit.write
  | .notInteracting      => "program is not stopped at an interaction"
  | .busy                => "program is busy and did not stop in time"
  | .waitingForInput     => "program is waiting for input"
  | .remote e            => "agent error: " ++ e.message
  | .exception m         => "exception in debugged program: " ++ m
  | .unknownBreakpoint d => "breakpoint not found: " ++ d
  | .wire fault          => fault.message

/-- Whether the error means that there is no connection. -/
def isFatal : SessionError → Bool
  | .connect _ | .auth _ | .exhausted _ _ | .notAttached | .disconnected | .wire _ => true
  | _                                                                              => false

/-- Whether the error says that the agent was not reached, so that another attempt may help. -/
def isUnreached : SessionError → Bool
  | .connect _ => true
  | _          => false

end SessionError

/-- What an operation comes to: a value, null where there is nothing to tell, or an error. -/
abbrev Answer := Except SessionError Json

end RemoteDebugger
