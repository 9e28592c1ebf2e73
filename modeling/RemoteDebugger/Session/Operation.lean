import RemoteDebugger.Session.Incoming

/-!
# Operations

What users ask of a session. An operation checks whether the session's state admits it, sends
requests, and waits: for the answer to a request, or for the program to stop. What it waits for
is a `Task`, and `proceed` says how it goes on once the wait is over.
-/

namespace RemoteDebugger

/-- An operation that needs the program to stand still and stops it itself if it runs. -/
inductive Forced where
  | setBreakpoint (b : Breakpoint)
  | clearBreakpoint (b : Breakpoint)
  | clearFile (file : String)
  /-- The end of the program on the connection `epoch`. -/
  | quit (epoch : Nat)
deriving DecidableEq

def Forced.method : Forced → Method
  | .setBreakpoint _   => .setBreakpoint
  | .clearBreakpoint _ => .clearBreakpoint
  | .clearFile _       => .clearFile
  | .quit _            => .quit

def Forced.args : Forced → List Json
  | .setBreakpoint b   => b.setArgs
  | .clearBreakpoint b => b.clearArgs
  | .clearFile file    => [.string file]
  | .quit _            => []

/-- What an answer is awaited for. -/
inductive Goal where
  /-- The answer is the result. -/
  | value
  /-- Whether there was an error is the result. -/
  | unit
  /-- The program is to run to the breakpoint that was set. -/
  | thenResume
  /-- A forced operation was carried out, on a program that it `interrupted` or not. -/
  | forced (operation : Forced) (interrupted : Bool)
  /-- The program was resumed after a forced operation with an answer of its own. -/
  | resumed (operation : Forced) (answer : Answer)

/-- What an operation waits for. -/
inductive Task where
  /-- The answer to a request. -/
  | answer (id : RequestId) (method : Method) (goal : Goal)
  /-- The program to stop, with a look at it after a pause and after each of the pauses to
  come. -/
  | stop (pause : Duration) (pauses : Pauses) (operation : Forced)

/-- How many waits there may be until an answer has brought about what it is awaited for. -/
def Goal.waits : Goal → Nat
  | .value | .unit | .resumed _ _   => 1
  | .thenResume | .forced _ _       => 2

/-- How many waits there may be from a wait on, with that one. -/
def Task.waits : Task → Nat
  | .answer _ _ goal => goal.waits
  | .stop _ pauses _ => pauses.left + 3

/-- How far an operation is. -/
inductive Progress where
  | finished (answer : Answer)
  | waiting (task : Task)

/-- The registry without the breakpoint with the key of `b`, and that breakpoint as it was kept,
or the error that there is none. -/
def Registry.remove (r : Registry) (b : Breakpoint) :
    Registry × Except SessionError Breakpoint :=
  match r.remove? b.key with
  | some (kept, r) => (r, .ok kept)
  | none           => (r, .error (.unknownBreakpoint b.display))

/-- What users ask of a session. -/
inductive Operation where
  /-- Connect to an agent. -/
  | attach (target : Target)
  /-- Connect to an agent, in several attempts if need be. -/
  | attachRetrying (target : Target)
  /-- Close the connection. -/
  | detach
  /-- Run to the next line, into functions. -/
  | step
  /-- Run to the next line, over functions. -/
  | next
  /-- Run until the function returns. -/
  | stepOut
  /-- Run on. -/
  | resume
  /-- Run to a line of a file. -/
  | resumeTo (file : String) (line : Nat)
  /-- Set the next line to run. -/
  | jump (line : Nat)
  | exec (statement : String)
  | eval (expression : String)
  | callStack
  | environment
  | setBreakpoint (b : Breakpoint)
  | clearBreakpoint (b : Breakpoint)
  | clearFile (file : String)
  /-- End the program and close the connection. -/
  | quit
  /-- Stop the program at its next line. -/
  | interrupt
  /-- A line of input for the program. -/
  | input (text : String)
  /-- Fails if the program had an exception. -/
  | checkException

/-- Whether an operation must wait until another one is finished. -/
def Operation.isExclusive : Operation → Bool
  | .detach | .interrupt | .input _ | .checkException => false
  | _                                                 => true

/-- What the attempts to reach an agent come to, by their number. -/
abbrev Network := Target → Nat → Except ConnectionError Unit

/-- The network that leads nowhere. -/
def Network.nowhere : Network := fun target _ =>
  match target.ip? with
  | none    => .error (.wire .unknownHost)
  | some ip => .error (.connect (ip.writeWithPort target.port) .unreachable)

namespace Session

/-- The result of an operation that has nothing to tell. -/
def unitAnswer (r : Except SessionError Unit) : Answer := r.map fun _ => .null

/-! ### Attaching -/

/-- What an attempt to reach the agent comes to for the session, which sets time limits on
connections. -/
def attempt (s : Session) (r : Except ConnectionError Unit) : Except SessionError Unit :=
  match r with
  | .error e => .error (.ofConnection e)
  | .ok ()   =>
    if s.config.responseTimeout.nanoseconds = 0 then .error (.wire .zeroTimeout) else .ok ()

/-- The session on a new connection. Nothing is left of an earlier one. -/
def connected (s : Session) (remote : Bool) : Session :=
  { s with
    epoch         := s.epoch + 1
    connection    := some { epoch := s.epoch + 1, remote }
    location      := none
    lastException := none }

def attach (s : Session) (network : Network) (target : Target) : Session × Answer :=
  if s.isAttached then (s, .error .alreadyAttached)
  else match s.attempt (network target 0) with
    | .ok ()   => (s.connected target.isRemote, .ok .null)
    | .error e => (s, .error e)

/-- Attempts to attach as long as the agent is not reached. -/
def attachRetrying (s : Session) (network : Network) (target : Target) : Session × Answer :=
  if s.isAttached then (s, .error .alreadyAttached)
  else
    let retry := s.config.attachRetry
    match (retry.retry SessionError.isUnreached fun k =>
      s.attempt (network target k)).outcome with
    | .ok ()   => (s.connected target.isRemote, .ok .null)
    | .error e => (s, .error (if e.isUnreached then .exhausted retry.attempts e else e))

/-! ### Operations on a program that stands still -/

/-- Why the state does not admit an operation that needs the program to stand still. -/
def refusal? (s : Session) : Option SessionError :=
  match s.state with
  | .interacting              => none
  | .detached                 => some .notAttached
  | .running | .blockedOnInput => some .notInteracting

/-- A request whose answer is awaited, or the error that kept it from being sent. -/
def askFor (s : Session) (method : Method) (args : List Json) (goal : Goal)
    (otherwise : Session → SessionError → Session × Progress) : Session × Progress :=
  match s.ask method args with
  | (s, .ok id)   => (s, .waiting (.answer id method goal))
  | (s, .error e) => otherwise s e

/-- An operation that ends in an error. -/
def fail (s : Session) (e : SessionError) : Session × Progress := (s, .finished (.error e))

/-- One request to a program that stands still. -/
def command (s : Session) (method : Method) (args : List Json) (goal : Goal) :
    Session × Progress :=
  match s.refusal? with
  | some e => s.fail e
  | none   => s.askFor method args goal fail

/-! ### Forced operations -/

/-- The end of a forced operation. A program that was told to quit is left alone, whether it
answered or went away; if it refused, the user is not quitting any more. -/
def conclude (s : Session) (operation : Forced) (answer : Answer) : Session × Progress :=
  match operation, answer with
  | .quit epoch, .ok _ | .quit epoch, .error .disconnected =>
    (s.drop epoch, .finished (.ok .null))
  | .quit _, .error e => (s.modifyConnection fun c => { c with quitting := false }).fail e
  | _, answer         => (s, .finished (answer.map fun _ => .null))

/-- Whether the program stands still only because a forced operation stopped it. -/
def mustResume (s : Session) (interrupted : Bool) : Bool :=
  match s.connection with
  | none   => false
  | some c => interrupted && !c.quitting && c.interaction == .interacting

/-- A forced operation was answered: a program that it stopped runs on. -/
def afterForced (s : Session) (operation : Forced) (interrupted : Bool) (answer : Answer) :
    Session × Progress :=
  if s.mustResume interrupted then
    s.askFor .resume [] (.resumed operation answer) fun s _ => s.conclude operation answer
  else s.conclude operation answer

/-- A forced operation on a program that stands still. -/
def carryOut (s : Session) (operation : Forced) (interrupted : Bool) : Session × Progress :=
  s.askFor operation.method operation.args (.forced operation interrupted)
    fun s e => s.afterForced operation interrupted (.error e)

/-- The session that shows the next stop again. -/
def showNext (s : Session) :
    Session := s.modifyConnection fun c => { c with suppressNext := false }

/-- A look whether an interrupted program has stopped, with the pauses to come. -/
def look (s : Session) (pauses : Pauses) (operation : Forced) : Session × Progress :=
  match s.state with
  | .interacting    => s.carryOut operation true
  | .detached       => s.conclude operation (.error .disconnected)
  | .blockedOnInput => s.showNext.conclude operation (.error .waitingForInput)
  | .running        =>
    match pauses.next? with
    | some (pause, pauses) => (s, .waiting (.stop pause pauses operation))
    | none                 => s.showNext.conclude operation (.error .busy)

/-- A forced operation. A running program is interrupted first, and that stop is not shown. -/
def force (s : Session) (operation : Forced) : Session × Progress :=
  match s.state with
  | .detached       => s.conclude operation (.error .notAttached)
  | .blockedOnInput => s.conclude operation (.error .waitingForInput)
  | .interacting    => s.carryOut operation false
  | .running        =>
    match (s.modifyConnection fun c => { c with suppressNext := true }).send
      (.notify .interrupt) with
    | (s, .ok ())   => s.look s.config.forceWait.pauses operation
    | (s, .error e) => s.showNext.conclude operation (.error e)

/-- A forced operation for an attached session. Without a connection its answer is known. -/
def forceIfAttached (s : Session) (operation : Forced) (detached : Answer) :
    Session × Progress :=
  if s.isAttached then s.force operation else (s, .finished detached)

/-- A breakpoint of the user. Temporary ones are not kept. -/
def setBreakpoint (s : Session) (b : Breakpoint) : Session × Progress :=
  let s := if b.temporary then s else { s with breakpoints := s.breakpoints.insert b }
  s.forceIfAttached (.setBreakpoint b) (.ok .null)

/-- The end of a breakpoint. Only without a connection does it matter whether it was known. -/
def clearBreakpoint (s : Session) (b : Breakpoint) : Session × Progress :=
  let known := s.breakpoints.contains b.key
  let s := { s with breakpoints := s.breakpoints.erase b.key }
  s.forceIfAttached (.clearBreakpoint b)
    (if known then .ok .null else .error (.unknownBreakpoint b.display))

/-- The end of all breakpoints on a file. -/
def clearFile (s : Session) (file : String) : Session × Progress :=
  let file := FileName.canonical s.config.directory file
  let s := { s with breakpoints := (s.breakpoints.removeFile file).2 }
  s.forceIfAttached (.clearFile file) (.ok .null)

def quit (s : Session) : Session × Progress :=
  match s.connection with
  | none   => s.fail .notAttached
  | some c => { s with connection := some { c with quitting := true } }.force (.quit c.epoch)

/-! ### Operations at any time -/

/-- A running program is asked to stop. -/
def interrupt (s : Session) : Session × Answer :=
  match s.state with
  | .detached       => (s, .error .notAttached)
  | .blockedOnInput => (s, .error .waitingForInput)
  | .interacting    => (s, .ok .null)
  | .running        =>
    let (s, r) := s.send (.notify .interrupt)
    (s, unitAnswer r)

/-- A line for the program that waits for one, which then stands as it did before. -/
def provideInput (s : Session) (text : String) : Session × Answer :=
  match s.connection with
  | none   => (s, .error .notAttached)
  | some c =>
    match c.inputRequest with
    | none                => (s, .error .notInteracting)
    | some (id, previous) =>
      let c := { c with inputRequest := none, interaction := previous }
      let (s, r) := { s with connection := some c }.send (.response id (.ok (.string text)))
      (s, unitAnswer r)

/-- Fails if the program had an exception. -/
def checkException (s : Session) : Answer :=
  match s.lastException with
  | some message => .error (.exception message)
  | none         => .ok .null

/-! ### Carrying out operations -/

/-- An operation that is over at once. -/
def done : Session × Answer → Session × Progress
  | (s, answer) => (s, .finished answer)

def start (s : Session) (network : Network) : Operation → Session × Progress
  | .attach target         => done (s.attach network target)
  | .attachRetrying target => done (s.attachRetrying network target)
  | .detach                => (s.detach, .finished (.ok .null))
  | .step                  => s.command .step [] .unit
  | .next                  => s.command .next [] .unit
  | .stepOut               => s.command .stepOut [] .unit
  | .resume                => s.command .resume [] .unit
  | .resumeTo file line    =>
    s.command .setBreakpoint (Breakpoint.build s.config.directory file (some line) true).setArgs
      .thenResume
  | .jump line             => s.command .jump [Json.nat line] .unit
  | .exec statement        => s.command .exec [.string statement] .value
  | .eval expression       => s.command .eval [.string expression] .value
  | .callStack             => s.command .callStack [] .value
  | .environment           => s.command .environment [] .value
  | .setBreakpoint b       => s.setBreakpoint b
  | .clearBreakpoint b     => s.clearBreakpoint b
  | .clearFile file        => s.clearFile file
  | .quit                  => s.quit
  | .interrupt             => done s.interrupt
  | .input text            => done (s.provideInput text)
  | .checkException        => (s, .finished s.checkException)

/-- How an operation goes on with the answer to its request. -/
def proceed (s : Session) (answer : Answer) : Goal → Session × Progress
  | .value                        => (s, .finished answer)
  | .unit                         => (s, .finished (answer.map fun _ => .null))
  | .thenResume                   =>
    match answer with
    | .ok _    => s.askFor .resume [] .unit fail
    | .error e => s.fail e
  | .forced operation interrupted => s.afterForced operation interrupted answer
  | .resumed operation own        => s.conclude operation own

/-- The answer that came for the command that waits, taken. -/
def takeReply (s : Session) : Session × Option Answer := ({ s with reply := none }, s.reply)

/-- The wait for an answer is over without one: the request is given up on. -/
def giveUp (s : Session) (id : RequestId) (method : Method) : Session × Answer :=
  let answer := .error (.timeout method s.config.responseTimeout)
  match s.connection.bind (·.pending.lookup id) with
  | none   => (s, answer)
  | some _ =>
    ((s.modifyConnection fun c => { c with pending := without id c.pending }).abandon id method,
      answer)

/-- The end of the wait for an answer: the one that came, or that there is no more time for
it. -/
def endWait (s : Session) (id : RequestId) (method : Method) : Session × Answer :=
  match s.takeReply with
  | (s, some answer) => (s, answer)
  | (s, none)        => s.giveUp id method

/-- The end of a wait: for an answer, or of the pause before a look. -/
def wake (s : Session) : Task → Session × Progress
  | .stop _ pauses operation => s.look pauses operation
  | .answer id method goal   =>
    let (s, answer) := s.endWait id method
    s.proceed answer goal

/-- Whether what is waited for is there, so that there is nothing to wait for. -/
def isReady (s : Session) : Task → Bool
  | .answer _ _ _ => s.reply.isSome
  | .stop _ _ _   => false

end Session

end RemoteDebugger
