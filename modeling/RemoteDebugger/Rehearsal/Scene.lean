import RemoteDebugger.Console.Plan
import RemoteDebugger.Rehearsal.Stage

/-!
# Scenes

A rehearsal of a session is a row of scenes. In each of them the user asks something of the
session, by an operation or by a command, or the agent does something on its own account.
-/

namespace RemoteDebugger.Rehearsal

/-- What a scene is about. -/
inductive Subject where
  /-- An operation of the session. -/
  | operation (o : Operation)
  /-- A line that is read as a command. -/
  | command (line : String)
  /-- Actions of the agent. Either a frame that they leave unfinished is given up on, or more of
  it is to come in another scene. -/
  | actions (as : List Action) (complete : Bool)
  /-- The agent ends its stream. -/
  | close

/-- A scene. -/
structure Scene where
  subject   : Subject
  replies   : List (List Action) := []
  /-- Whether the agent takes no notice until the operation is over. -/
  stalled   : Bool := false
  /-- How the agent meets a connection. -/
  reception : Reception := .nobody

/-- What a scene comes to. -/
inductive Outcome where
  | answer (a : Answer)
  /-- The line was no command. -/
  | misread (e : Command.ParseError)

/-- The outcome of a command, whose value is shown and not told. -/
def Outcome.ofCommand : Outcome → Outcome
  | .answer a  => .answer (a.map fun _ => .null)
  | .misread e => .misread e

/-- What is told of a scene. -/
structure Report where
  outcome    : Outcome
  /-- What the session wrote. -/
  sent       : List Record
  /-- The events that it published. -/
  events     : List Event
  /-- What is shown for a command, and then for the events. -/
  printed    : String
  asides     : List Aside
  /-- What the agent tells of a connection that was made. -/
  impression : Option Impression
  /-- Whether a connection came to its end. -/
  closed     : Bool

/-- The bytes that an agent takes although it takes no notice. -/
def stalledRoom : Nat := 256 * 1024

/-- An operation together with what is shown for it. -/
structure Work where
  operation : Operation
  before    : String := ""
  report    : Session → Json → String := fun _ _ => ""

/-- The target of an operation that connects. -/
def target? : Operation → Option Target
  | .attach t | .attachRetrying t => some t
  | _                             => none

/-- What the agent tells of an operation. -/
def impressionFor (r : Reception) (s : Session) (o : Operation) : Option Impression :=
  if s.isAttached then none else (target? o).bind fun t => (r.encounter t).impression

/-- What is shown for the answer of an operation. -/
def Work.shown (w : Work) (s : Session) : Answer → String
  | .ok v    => w.before ++ w.report s v
  | .error _ => w.before

namespace Scene

def player (scene : Scene) : Player Engine := .engineAlone scene.reception.network

def stage (scene : Scene) (s : Session) : Stage Engine :=
  { actor := { session := s }, noted := s.sent.length, replies := scene.replies }

/-- An operation is carried out. -/
def workOn (scene : Scene) (o : Operation) (stage : Stage Engine) : Stage Engine :=
  let P := scene.player
  let begin := Stage.happen P Stage.keepAnswer (.start o)
  if scene.stalled then
    let stage := stage.happen P Stage.keepNone (.room (some stalledRoom))
    ((begin stage).stall P |>.happen P Stage.keepNone (.room none)).settle P
  else (begin stage).play P

/-- What is told of a scene that began with a session, from the stage at its end, and the session
then. -/
def conclude (s : Session) (stage : Stage Engine) (outcome : Outcome) (shown : String)
    (impression : Option Impression) : Session × Report :=
  let last := stage.actor.session
  let (events, queue) := last.events.drain
  let report : Report :=
    { outcome
      sent    := last.sent.drop s.sent.length
      events
      printed := shown ++ Console.renderEvents events
      asides  := stage.asides
      impression
      closed  := (s.isAttached || s.epoch < last.epoch) && !last.isAttached }
  ({ last with events := queue }, report)

/-- An operation is carried out in a scene of its own. -/
def work (scene : Scene) (s : Session) (w : Work) : Session × Report :=
  let stage := (scene.workOn w.operation (scene.stage s)).expire scene.player
  let answer := stage.answer.getD (.ok .null)
  conclude s stage (.answer answer) (w.shown stage.actor.session answer)
    (impressionFor scene.reception s w.operation)

/-- A scene without an operation. A frame that has begun is given up on. -/
def idle (scene : Scene) (s : Session) (stage : Stage Engine) (outcome : Outcome)
    (shown : String) :
    Session × Report :=
  conclude s (stage.expire scene.player) outcome shown none

/-- The session after a scene, and what is told of it. -/
def run (target : Target) (s : Session) (scene : Scene) : Session × Report :=
  let P := scene.player
  let stage := scene.stage s
  let done : Outcome := .answer (.ok .null)
  match scene.subject with
  | .operation o      => scene.work s { operation := o }
  | .command line     =>
    match Command.parse line with
    | .error e => scene.idle s stage (.misread e) ""
    | .ok cmd  =>
      match Console.plan target s cmd with
      | .say text                 => scene.idle s stage done text
      | .perform before op report =>
        let (s, r) := scene.work s { operation := op, before, report }
        (s, { r with outcome := r.outcome.ofCommand })
  | .actions as complete =>
    let stage := if s.isAttached then (stage.plan as).settle P else stage
    if complete then scene.idle s stage done "" else conclude s stage done "" none
  | .close            => scene.idle s (stage.happen P Stage.keepNone .endOfStream) done ""

end Scene

/-- The reports of a row of scenes, each with the session after it. -/
def run (target : Target) (s : Session) : List Scene → List (Session × Report)
  | []              => []
  | scene :: scenes =>
    let (s, report) := scene.run target s
    (s, report) :: run target s scenes

end RemoteDebugger.Rehearsal
