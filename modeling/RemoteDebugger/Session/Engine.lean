import RemoteDebugger.Session.Operation

/-!
# Runs of a session

A session together with the operation that is under way, and everything that can happen to them:
the user begins an operation, the agent sends bytes or ends its stream, a wait is over. A run is
a list of such inputs in any order, with networks that may change in between.
-/

namespace RemoteDebugger

/-- A session and what the operation under way waits for. -/
structure Engine where
  session : Session := {}
  task    : Option Task := none

/-- Something that happens to a session. -/
inductive Input where
  /-- The user begins an operation. -/
  | start (operation : Operation)
  /-- The agent sends bytes. -/
  | bytes (bytes : Bytes)
  /-- The stream of the agent ends. -/
  | endOfStream
  /-- A frame that has begun took too long. -/
  | frameTimeout
  /-- The wait of the operation under way is over. -/
  | wake
  /-- How many more bytes the agent takes before it reads again. -/
  | room (bytes : Option Nat)

namespace Engine

/-- How many waits the operation under way may have before it. -/
def waits (e : Engine) : Nat := e.task.elim 0 Task.waits

/-- The engine after an operation came so far, and the answer if it is finished. -/
def after : Session × Progress → Engine × Option Answer
  | (session, .finished answer) => ({ session }, some answer)
  | (session, .waiting task)    => ({ session, task := some task }, none)

def modify (e : Engine) (f : Session → Session) : Engine := { e with session := f e.session }

/-- The engine after an operation was begun. While one is under way, another exclusive one is not
begun, and the others leave it alone. -/
def start (network : Network) (e : Engine) (operation : Operation) : Engine × Option Answer :=
  match e.task with
  | none      => after (e.session.start network operation)
  | some task =>
    if operation.isExclusive then (e, none)
    else
      let (e, answer) := after (e.session.start network operation)
      ({ e with task := some task }, answer)

/-- The engine after something happened, and the answer of an operation that finished. -/
def step (network : Network) (e : Engine) : Input → Engine × Option Answer
  | .start operation => e.start network operation
  | .bytes bytes     => (e.modify (·.receiveBytes bytes), none)
  | .endOfStream     => (e.modify .detach, none)
  | .frameTimeout    => (e.modify .expireFrame, none)
  | .wake            =>
    match e.task with
    | none      => (e, none)
    | some task => after (e.session.wake task)
  | .room room       => (e.modify (·.modifyConnection fun c => { c with room }), none)

/-- The engine after a list of things happened, each with the network as it was then, and the
answers of the operations that finished. -/
def run (e : Engine) : List (Network × Input) → Engine × List Answer
  | []                     => (e, [])
  | (network, input) :: is =>
    let (e, answer) := e.step network input
    let (e, answers) := e.run is
    (e, answer.toList ++ answers)

end Engine

end RemoteDebugger
