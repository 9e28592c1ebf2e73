import RemoteDebugger.Session.Outgoing

/-!
# What a session receives

The bytes of the agent are cut into frames, and each frame is handled once and in order: answers
go to the requests they belong to, calls of the agent change what the session knows of the
program and are acknowledged, and what is malformed is isolated.
-/

namespace RemoteDebugger.Session

/-! ### Answers -/

/-- How many requests that were given up on are remembered. -/
def maxAbandoned : Nat := 64

/-- The requests given up on with one more, in the order of their numbers. -/
def insertAbandoned (id : RequestId) (method : Method) :
    List (RequestId × Method) → List (RequestId × Method)
  | []           => [(id, method)]
  | (j, m) :: as =>
    if id < j then (id, method) :: (j, m) :: as
    else if id = j then (id, method) :: as
    else (j, m) :: insertAbandoned id method as

/-- A request given up on. Of too many, those with the smallest numbers are forgotten. -/
def abandon (s : Session) (id : RequestId) (method : Method) : Session :=
  s.modifyConnection fun c =>
    let all := insertAbandoned id method c.abandoned
    { c with abandoned := all.drop (all.length - maxAbandoned) }

/-- A list of requests without one. -/
def without {α : Type} (id : RequestId) (rs : List (RequestId × α)) : List (RequestId × α) :=
  rs.filter (·.1 != id)

/-- The result of a request from its answer. A refused jump is answered by a message. -/
def resultOf (method : Method) : Except RemoteError Json → Answer
  | .ok (.string message) =>
    if method = .jump then .error (.remote { message }) else .ok (.string message)
  | .ok v                 => .ok v
  | .error e              => .error (.remote e)

/-- The session after a request was answered: the program may run again. -/
def settle (s : Session) (method : Method) (outcome : Except RemoteError Json) :
    Session × Answer :=
  match resultOf method outcome with
  | .ok v    => (if method.resumes then s.clearInteraction else s, .ok v)
  | .error e => (s, .error e)

/-- The answer to a request that waits for it. -/
def finish (s : Session) (id : RequestId) (p : Pending) (outcome : Except RemoteError Json) :
    Session :=
  let s := s.modifyConnection fun c => { c with pending := without id c.pending }
  let (s, answer) := s.settle p.method outcome
  if p.awaited then s.deliver answer else s

/-- The late answer to a request that was given up on. -/
def finishLate (s : Session) (id : RequestId) (method : Method)
    (outcome : Except RemoteError Json) :
    Session :=
  ((s.modifyConnection fun c => { c with abandoned := without id c.abandoned }).settle
    method outcome).1

/-- An answer. One to an unknown request is ignored. -/
def receiveResponse (s : Session) (id : RequestId) (outcome : Except RemoteError Json) :
    Session :=
  match s.connection with
  | none   => s
  | some c =>
    match c.pending.lookup id, c.abandoned.lookup id with
    | some p, _         => s.finish id p outcome
    | none, some method => s.finishLate id method outcome
    | none, none        => s

/-! ### Malformed payloads -/

/-- A payload that is no record. A broken request is answered with an error, a broken answer
fails the request that it names, and anything else is dropped. -/
def receiveMalformed (s : Session) (e : DecodeError) : Session :=
  match e.blame with
  | .nobody      => s
  | .request id  =>
    s.post (.response id (.error { message := "malformed request: " ++ e.reason.text }))
  | .answerTo id =>
    match s.connection with
    | none   => s
    | some c =>
      match c.pending.lookup id with
      | none   => s
      | some p =>
        let s := s.modifyConnection fun c => { c with pending := without id c.pending }
        let s := s.abandon id p.method
        if p.awaited then s.deliver (.error (.malformed e)) else s

/-! ### Calls -/

/-- The text of an argument, empty if there is none. -/
def argText (args : List Json) (i : Nat) : String := (args[i]?.map Json.text).getD ""

/-- A line number. What is none of 32 bits is zero. -/
def argLine (args : List Json) (i : Nat) : Nat :=
  match args[i]?.bind Json.toNat? with
  | some n => if n ≤ Numeral.max32 then n else 0
  | none   => 0

/-- The answer to a call of the agent, if it was a request. -/
def respond (s : Session) (id : Option RequestId) (outcome : Except RemoteError Json) :
    Session :=
  match id with
  | some id => s.post (.response id outcome)
  | none    => s

/-- The program is about to start: it gets the breakpoints and the parameters, and then leave to
run. -/
def receiveStartup (s : Session) (id : Option RequestId) : Session :=
  let s := s.breakpoints.all.foldl (fun s b => s.tell .setBreakpoint b.setArgs) s
  let s := s.tell .setParams [s.config.params.toJson]
  let s := s.respond id (.ok .null)
  let s := if s.config.runWithoutPausing
    then s.modifyConnection fun c => { c with startContinue := true } else s
  s.post (.notify .run)

/-- What the agent told about a stop: a fourth argument, or else the keyword arguments. -/
def contextOf (args : List Json) (kwargs : Members) : Json :=
  match args[3]? with
  | some context => if kwargs.isEmpty then context else .object kwargs
  | none         => .object kwargs

/-- The program stopped. The stop is shown unless it is to be run over, was asked for by the
session itself, or is not in a file. -/
def receiveInteraction (s : Session) (args : List Json) (kwargs : Members) : Session :=
  match s.connection with
  | none   => s
  | some c =>
    let file := argText args 0
    let line := argLine args 1
    let pseudo := FileName.isPseudo file
    let location := if pseudo then none else some { file, line, source := argText args 2 }
    let c := { c with interaction := .interacting }
    if c.startContinue then
      { s with connection := some { c with startContinue := false }, location }.tell .resume []
    else if c.suppressNext then
      { s with connection := some { c with suppressNext := false }, location }
    else
      let s := { s with connection := some c, location }
      if pseudo then s else s.publish (.markLine file line (contextOf args kwargs))

/-- The program wants a line of input. -/
def receiveReadLine (s : Session) (id : RequestId) (args : List Json) : Session :=
  (s.modifyConnection fun c =>
    { c with interaction := .blockedOnInput, inputRequest := some (id, c.interaction) }).publish
      (.inputRequested (argText args 0))

/-- The program had an exception. -/
def receiveException (s : Session) (args : List Json) : Session :=
  let message := argText args 0
  { s with lastException := some message }.publish (.exception message)

/-- A call of the agent, a request if it has an id. -/
def receiveCall (s : Session) (id : Option RequestId) (method : String) (args : List Json)
    (kwargs : Members) : Session :=
  match Method.ofName? method with
  | none              => s.respond id (.error { message := "unknown method `" ++ method ++ "`" })
  | some .startup     => s.receiveStartup id
  | some .readLine    => match id with
    | some id => s.receiveReadLine id args
    | none    => s
  | some .interaction => (s.receiveInteraction args kwargs).respond id (.ok .null)
  | some .write       => (s.publish (.write (argText args 0))).respond id (.ok .null)
  | some .exception   => (s.receiveException args).respond id (.ok .null)
  | some other        =>
    s.respond id (.error { message := "`" ++ other.name ++ "` is not served by frontend" })

/-! ### Frames and bytes -/

def receiveRecord (s : Session) : Record → Session
  | .response id outcome              => s.receiveResponse id outcome
  | .notification method args kwargs  => s.receiveCall none method args kwargs
  | .request id method args kwargs    => s.receiveCall (some id) method args kwargs

def receiveFrame (s : Session) (payload : Bytes) : Session :=
  match s.connection with
  | none   => s
  | some _ =>
    match Record.decode payload with
    | .ok r    => s.receiveRecord r
    | .error e => s.receiveMalformed e

/-- The stream of the agent from the start of a frame on, as far as it came. Every whole frame is
handled, the beginning of one is kept. A header that is not accepted ends the connection, and
what follows the end of a connection is lost. -/
def serve (s : Session) (stream : Bytes) : Session :=
  match s.connection with
  | none   => s
  | some c =>
    match _h : Frame.head Frame.defaultLimit stream with
    | .frame payload rest => (s.receiveFrame payload).serve rest
    | .rejected _ _       => s.detach
    | .incomplete         => { s with connection := some { c with inbox := stream } }
  termination_by stream.length
  decreasing_by exact Frame.length_rest_lt_of_head _h

/-- More bytes of the agent. -/
def receiveBytes (s : Session) (bytes : Bytes) : Session :=
  match s.connection with
  | none   => s
  | some c => { s with connection := some { c with inbox := [] } }.serve (c.inbox ++ bytes)

/-- Whether a frame has begun whose rest is still to come. -/
def isMidFrame (s : Session) : Bool := s.connection.any fun c => !c.inbox.isEmpty

/-- The rest of a frame did not come in time. Between frames there is no hurry. -/
def expireFrame (s : Session) : Session := if s.isMidFrame then s.detach else s

end RemoteDebugger.Session
