import RemoteDebugger.Console.Plan
import RemoteDebugger.Session.Engine
import RemoteDebugger.Text.Utf8

/-!
# The console

The console reads lines and carries them out one after the other: a line is input for a program
that waits for some, or else a command. In place of a line the user may interrupt the program.
While a command waits for the agent, nothing is read. The console ends with the command to quit,
with the end of its input, or with a line that cannot be read.
-/

namespace RemoteDebugger.Console

/-- What the console does about the answer of the operation under way. -/
inductive Purpose where
  /-- It attaches for the first time. -/
  | opening (report : Session → Json → String)
  /-- It carries out a command. -/
  | command (report : Session → Json → String)
  /-- It quits, whatever the answer is. -/
  | quitting

/-- The state of a console. -/
structure State where
  engine  : Engine
  target  : Target
  purpose : Option Purpose := none
  /-- Whether the console has ended. -/
  ended   : Bool := false

/-- What happens to a console. -/
inductive Happening where
  /-- A line is read. -/
  | line (text : String)
  /-- The user presses the key of interruption in place of a line. -/
  | interrupted
  /-- A line cannot be read. -/
  | unreadable
  /-- The input is at its end. -/
  | endOfInput
  /-- Something happens to the session. -/
  | session (input : Input)

def welcome : String := line "qdb frontend, type `help` for the list of commands"

def errorText (message : String) : String := line (Style.error.paint message)

/-- What is shown for the error of a command. -/
def failureText (e : SessionError) : String :=
  errorText e.message ++
    if e.isFatal then line "session detached, use `attach` to reconnect" else ""

namespace State

/-- The console once it has ended: the session is detached. -/
def finish (c : State) : State :=
  { c with engine := c.engine.modify Session.detach, purpose := none, ended := true }

/-- The console after the operation under way was answered, and what it shows. -/
def conclude (c : State) (purpose : Purpose) (answer : Answer) : State × String :=
  let c := { c with purpose := none }
  match purpose, answer with
  | .quitting, _                                    => (c.finish, "")
  | .opening report, .ok v | .command report, .ok v => (c, report c.engine.session v)
  | .opening _, .error e                            => (c, errorText e.message)
  | .command _, .error e                            => (c, failureText e)

/-- The console after something happened to its engine. -/
def advance (c : State) (purpose : Option Purpose) : Engine × Option Answer → State × String
  | (engine, none)        => ({ c with engine, purpose }, "")
  | (engine, some answer) =>
    match purpose with
    | some purpose => { c with engine }.conclude purpose answer
    | none         => ({ c with engine }, "")

def begin (c : State) (network : Network) (purpose : Purpose) (operation : Operation) :
    State × String :=
  c.advance (some purpose) (c.engine.start network operation)

/-- A plan begun, and what is shown for it. -/
def pursue (c : State) (network : Network) (purpose : (Session → Json → String) → Purpose) :
    Plan → State × String
  | .say text                        => (c, text)
  | .perform before operation report =>
    let (c, text) := c.begin network (purpose report) operation
    (c, before ++ text)

def command (c : State) (network : Network) : Command → State × String
  | .quit =>
    if c.engine.session.isAttached then c.begin network .quitting .quit else (c.finish, "")
  | cmd   => c.pursue network .command (plan c.target c.engine.session cmd)

def readLine (c : State) (network : Network) (text : String) : State × String :=
  if isBlankText text then (c, "")
  else if c.engine.session.state = .blockedOnInput then
    ({ c with engine := (c.engine.start network (.input text)).1 }, "")
  else match Command.parse text with
    | .ok cmd           => c.command network cmd
    | .error .empty     => (c, "")
    | .error .malformed => (c, errorText Command.ParseError.malformed.message)

/-- An interruption in place of a line. It stops a program that runs, and what comes of it is not
told; else the user is told how to leave. -/
def interrupt (c : State) (network : Network) : State × String :=
  if c.engine.session.state = .running then
    ({ c with engine := (c.engine.start network .interrupt).1 }, "")
  else (c, line "use `quit` or Ctrl-D to exit")

/-- Whether the console reads a line. While a command waits for the agent, it does not. -/
def isReading (c : State) : Bool := !c.ended && c.purpose.isNone

/-- The console after something happened, and what it shows. Only what is read begins
operations. -/
def step (c : State) (network : Network) : Happening → State × String
  | .session (.start _) => (c, "")
  | .session input      =>
    if c.ended then (c, "") else c.advance c.purpose (c.engine.step network input)
  | .line text          => if c.isReading then c.readLine network text else (c, "")
  | .interrupted        => if c.isReading then c.interrupt network else (c, "")
  | .unreadable         =>
    if c.isReading then (c.finish, line "error: stream did not contain valid UTF-8") else (c, "")
  | .endOfInput         => if c.isReading then (c.finish, "") else (c, "")

/-- A console after a row of things happened, and what it shows. -/
def run (c : State) (network : Network) : List Happening → State × String
  | []      => (c, "")
  | h :: hs =>
    let (c, text) := c.step network h
    let (c, rest) := c.run network hs
    (c, text ++ rest)

end State

/-- A console that was just opened, and what it shows. -/
def launch (config : SessionConfig) (target : Target) (network : Network) : State × String :=
  let c : State := { engine := { session := { config } }, target }
  let (c, text) := c.pursue network .opening (attachPlan target)
  (c, welcome ++ text)

/-! ### Lines of input

The bytes of standard input are read as lines. A line ends with a line feed, which is not part of
it, nor is a carriage return before it; the end of the input ends a last line that is not
empty. -/

/-- A line of input, if its bytes are well formed. -/
abbrev InputLine := Option String

/-- The text of a line that ended with a line feed. -/
def endedLine (bs : Bytes) : InputLine :=
  (Utf8.decode? bs).map fun s =>
    let cs := s.toList
    String.ofList (if cs.getLast? = some '\r' then cs.dropLast else cs)

/-- The lines of the rest of the input, after the bytes of a line that has begun, newest
first. -/
def inputLinesFrom : (begun : Bytes) → Bytes → List InputLine
  | begun, []      => if begun.isEmpty then [] else [Utf8.decode? begun.reverse]
  | begun, b :: bs =>
    if b = 0x0a then endedLine begun.reverse :: inputLinesFrom [] bs
    else inputLinesFrom (b :: begun) bs

def inputLines (bs : Bytes) : List InputLine := inputLinesFrom [] bs

/-- What an input line is for the console. -/
def Happening.ofLine : InputLine → Happening
  | some text => .line text
  | none      => .unreadable

/-- All that a console shows for an input when no agent is there. -/
def runOffline (config : SessionConfig) (target : Target) (network : Network) (input : Bytes) :
    String :=
  let (c, text) := launch config target network
  text ++ (c.run network ((inputLines input).map .ofLine ++ [.endOfInput])).2

end RemoteDebugger.Console
