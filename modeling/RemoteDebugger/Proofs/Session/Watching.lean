import Mathlib.Data.List.Flatten
import RemoteDebugger.Proofs.Session.Chronicle

/-!
# Watching a session

User interfaces take events one by one, all at once, or by a hook, while things go on to happen.
However they do, they are told what comes to happen, all of it once and in order.
-/

namespace RemoteDebugger

/-- The hook that writes down what it is handed. -/
def EventHook.recorder : EventHook (List Event) where
  onWrite text               := (· ++ [.write text])
  onMarkLine file line value := (· ++ [.markLine file line value])
  onClearInteraction         := (· ++ [.clearInteraction])
  onException message        := (· ++ [.exception message])
  onInputRequested prompt    := (· ++ [.inputRequested prompt])

/-- A session with the events that were taken from it, the oldest first. -/
structure Watch where
  engine : Engine
  taken  : List Event := []

/-- Something that happens to a session that is watched. -/
inductive Turn where
  /-- Something happens to the session itself. -/
  | happens (network : Network) (input : Input)
  /-- The oldest event is taken, if there is one. -/
  | next
  /-- All events are taken. -/
  | drain
  /-- All events are handed to a hook. -/
  | dispatch

namespace Watch

def turn (w : Watch) : Turn → Watch
  | .happens network input => { w with engine := (w.engine.step network input).1 }
  | .next                  =>
    match w.engine.session.events.next? with
    | none             => w
    | some (e, events) =>
        { engine := w.engine.modify ({ · with events }), taken := w.taken ++ [e] }
  | .drain                 =>
    let (es, events) := w.engine.session.events.drain
    { engine := w.engine.modify ({ · with events }), taken := w.taken ++ es }
  | .dispatch              =>
    let ((taken, _), events) := w.engine.session.events.dispatch .recorder w.taken
    { engine := w.engine.modify ({ · with events }), taken }

def run (w : Watch) (turns : List Turn) : Watch := turns.foldl turn w

/-- The events that were taken, and those that wait to be. -/
def history (w : Watch) : List Event := w.taken ++ w.engine.session.events.queued

/-- What comes to happen by a turn. -/
def occurrences (w : Watch) : Turn → List Occurrence
  | .happens network input => w.engine.occurrences network input
  | .next | .drain | .dispatch => []

/-- What comes to happen over some turns. -/
def chronicle (w : Watch) : List Turn → List Occurrence
  | []      => []
  | t :: ts => w.occurrences t ++ (w.turn t).chronicle ts

/-- A recorder keeps what it is told, in order. -/
lemma foldl_deliver_recorder (es taken : List Event) :
    es.foldl (fun taken e => e.deliver .recorder taken) taken = taken ++ es := by
  induction es generalizing taken with
  | nil => exact (List.append_nil _).symm
  | cons e es ih =>
    have hfirst : e.deliver .recorder taken = taken ++ [e] := by cases e <;> rfl
    rw [List.foldl_cons, hfirst, ih, List.append_assoc, List.singleton_append]

/-- Taking events neither loses nor repeats any, and what happens adds the events of what comes
to happen. -/
lemma history_turn (w : Watch) (t : Turn) :
    (w.turn t).history = w.history ++ (w.occurrences t).flatMap Occurrence.events := by
  cases t with
  | happens network input =>
    have hevents := (Engine.undergoes_step w.engine network input).events
    rw [history, turn, hevents, history, List.append_assoc]
    rfl
  | next =>
    rw [occurrences, List.flatMap_nil, List.append_nil, turn, EventQueue.next?]
    cases hqueued : w.engine.session.events.queued with
    | nil => rfl
    | cons e es =>
      show w.taken ++ [e] ++ es = w.taken ++ w.engine.session.events.queued
      rw [hqueued, List.append_assoc, List.singleton_append]
  | drain => rfl
  | dispatch =>
    rw [occurrences, List.flatMap_nil, List.append_nil, turn, EventQueue.dispatch, history]
    dsimp only [EventQueue.drain]
    rw [foldl_deliver_recorder]
    exact List.append_nil _

/-- The history grows by the events of what comes to happen. -/
lemma history_run (w : Watch) (turns : List Turn) :
    (w.run turns).history = w.history ++ (w.chronicle turns).flatMap Occurrence.events := by
  induction turns generalizing w with
  | nil => exact (List.append_nil _).symm
  | cons t ts ih =>
    rw [chronicle, List.flatMap_append, ← List.append_assoc, ← history_turn]
    exact ih (w.turn t)

end Watch

/-! ### Transitions -/

namespace Session

/-- A session that is detached is not detached again. -/
lemma detach_of_detached {s : Session} (h : s.connection = none) : s.detach = s := by
  rw [detach, h]

end Session

/-- The events that were taken, however they were, and those that wait are those of what came to
happen, in order. The end of a connection is told once, when the session has gone from attached
to detached; detaching again, or from an earlier connection, changes nothing. A stop that follows
an answer by which the program runs on is told after that. -/
theorem told_once_in_order (config : SessionConfig) (turns : List Turn) :
    let fresh : Watch := { engine := { session := { config } } }
    (fresh.run turns).history = (fresh.chronicle turns).flatMap Occurrence.events ∧
      (∀ (e : Engine) (network : Network) (input : Input), .closed ∉ e.happenings network input ∧
        e.occurrences network input = e.happenings network input ++
          if e.session.isAttached && !(e.step network input).1.session.isAttached
            then [.closed] else []) ∧
      (∀ s : Session, s.detach.detach = s.detach) ∧
      (∀ (s : Session) (epoch : Nat), s.connection.map Connection.epoch ≠ some epoch →
        s.drop epoch = s) ∧
      ∀ location mark,
        [.moved .run, .moved (.stop location (some mark))].Sublist (fresh.chronicle turns) →
        [.clearInteraction, mark].Sublist (fresh.run turns).history := by
  intro fresh
  have htold : (fresh.run turns).history = (fresh.chronicle turns).flatMap Occurrence.events :=
    fresh.history_run turns
  refine ⟨htold, ?_, ?_, ?_, ?_⟩
  · intro e network input
    refine ⟨e.closed_notMem_happenings network input, ?_⟩
    rw [← Engine.closes_eq, Engine.occurrences]
  · intro s
    exact Session.detach_of_detached (Session.connection_detach s)
  · intro s epoch hstale
    rw [Session.drop, if_neg hstale]
  · intro location mark h
    rw [htold]
    exact h.flatMap Occurrence.events

/-- The program stops, runs on when it is told to, and stops again. Events are taken in all three
ways. -/
def Watch.stepping : List Turn :=
  let stop (line : Nat) : Bytes := Frame.encode (Record.notification "interaction"
    [.string "/a.py", Json.nat line, .string "x"] []).encode
  [.happens (fun _ _ => .ok ()) (.start (.attach {})),
    .happens Network.nowhere (.bytes (stop 1)), .next,
    .happens Network.nowhere (.start .step),
    .happens Network.nowhere
      (.bytes (Frame.encode (Record.response 1 (.ok .null)).encode ++ stop 2)),
    .dispatch, .happens Network.nowhere (.start .detach), .drain]

/-- The stop that is left is cleared before the next one is marked. -/
theorem told_once_in_order_stepping :
    (Watch.run { engine := { session := { config := {} } } } Watch.stepping).taken
        = [.markLine "/a.py" 1 (.object []), .clearInteraction, .markLine "/a.py" 2 (.object []),
          .clearInteraction] ∧
      [.clearInteraction, .markLine "/a.py" 2 (.object [])].Sublist
        (Watch.run { engine := { session := { config := {} } } } Watch.stepping).history ∧
      ({} : Session).drop 1 = {} := by
  obtain ⟨htold, -, -, hstale, horder⟩ := told_once_in_order {} Watch.stepping
  refine ⟨?_, ?_, ?_⟩
  · decide +kernel
  · apply horder (some ⟨"/a.py", 2, "x"⟩)
    decide +kernel
  · apply hstale
    decide

end RemoteDebugger
