import RemoteDebugger.Json.Value

/-!
# Events

What a user interface is told about the debugged program, in a queue from which it takes the
events in the order in which they happened.
-/

namespace RemoteDebugger

/-- Something that a user interface is told. -/
inductive Event where
  /-- Output of the program. -/
  | write (text : String)
  /-- The program stopped at a line. The context is what the agent told about it. -/
  | markLine (file : String) (line : Nat) (context : Json)
  /-- The program runs on, or the connection is gone. -/
  | clearInteraction
  /-- An exception that nobody in the program handled. -/
  | exception (message : String)
  /-- The program waits for a line of input. -/
  | inputRequested (prompt : String)
deriving DecidableEq

/-- What handles events, with a function for each kind of them. -/
structure EventHook (σ : Type) where
  onWrite            : String → σ → σ
  onMarkLine         : String → Nat → Json → σ → σ
  onClearInteraction : σ → σ
  onException        : String → σ → σ
  onInputRequested   : String → σ → σ

/-- An event handed to the function for its kind. -/
def Event.deliver {σ : Type} (hook : EventHook σ) : Event → σ → σ
  | .write text                 => hook.onWrite text
  | .markLine file line context => hook.onMarkLine file line context
  | .clearInteraction           => hook.onClearInteraction
  | .exception message          => hook.onException message
  | .inputRequested prompt      => hook.onInputRequested prompt

/-- The events that wait to be taken, the oldest first. -/
structure EventQueue where
  queued : List Event := []
deriving DecidableEq

namespace EventQueue

def publish (q : EventQueue) (e : Event) : EventQueue := ⟨q.queued ++ [e]⟩

def next? (q : EventQueue) : Option (Event × EventQueue) :=
  match q.queued with
  | []      => none
  | e :: es => some (e, ⟨es⟩)

def drain (q : EventQueue) : List Event × EventQueue := (q.queued, {})

/-- All events handed to a hook, with their number, and the empty queue. -/
def dispatch {σ : Type} (q : EventQueue) (hook : EventHook σ) (state : σ) :
    (σ × Nat) × EventQueue :=
  let (events, q) := q.drain
  ((events.foldl (fun state e => e.deliver hook state) state, events.length), q)

end EventQueue

end RemoteDebugger
