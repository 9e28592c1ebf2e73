import RemoteDebugger.Proofs.Session.Quitting
import RemoteDebugger.Proofs.Session.Scenes

/-!
# Breakpoints of a program that runs

A command on breakpoints interrupts a program that runs, is carried out while the program stands
still, and lets it run on. Of all that, user interfaces are told no more than that the program
does not stand at a line.
-/

namespace RemoteDebugger

open Session

/-- The request that a command on breakpoints makes of the program, if it is one. -/
def Operation.forced? (directory : String) : Operation → Option Forced
  | .setBreakpoint b   => some (.setBreakpoint b)
  | .clearBreakpoint b => some (.clearBreakpoint b)
  | .clearFile file    => some (.clearFile (FileName.canonical directory file))
  | _                  => none

/-- A program that runs is interrupted, and the stop that comes of it is not to be shown. -/
def Scene.interrupts (x : Scene) : Scene :=
  { x with
    connection := { x.connection with suppressNext := true }
    sent       := x.sent ++ [.notify .interrupt] }

namespace Scene

variable (x : Scene) (f : Forced) (outcome : Except RemoteError Json)
    (es₀ es₁ es₂ es₃ : List Event)

end Scene

namespace Session

variable {s : Session} {x : Scene} {operation : Operation} {f : Forced} {a : Answer}

/-- A forced operation begins as such, but for the note in the registry. -/
lemma start_of_forced? (h : operation.forced? s.config.directory = some f)
    (hattached : s.isAttached) (network : Network) :
    ∃ breakpoints, s.start network operation = { s with breakpoints }.force f := by
  have hforce : ∀ breakpoints detached,
      { s with breakpoints }.forceIfAttached f detached = { s with breakpoints }.force f :=
    fun _ _ => if_pos hattached
  cases operation with
  | setBreakpoint b =>
    cases h
    show ∃ breakpoints, s.setBreakpoint b = _
    rw [setBreakpoint]
    split_ifs
    · exact ⟨_, hforce s.breakpoints _⟩
    · exact ⟨_, hforce _ _⟩
  | clearBreakpoint b =>
    cases h
    exact ⟨_, hforce _ _⟩
  | clearFile file =>
    cases h
    exact ⟨_, hforce _ _⟩
  | _ => cases h

/-- The answer of a command on breakpoints is the one to its request, in short. -/
lemma conclude_of_forced? {directory : String} (h : operation.forced? directory = some f)
    (s : Session) (a : Answer) :
    s.conclude f a = (s, .finished (a.map fun _ => .null)) := by
  cases operation with
  | setBreakpoint b => cases h; rfl
  | clearBreakpoint b => cases h; rfl
  | clearFile file => cases h; rfl
  | _ => cases h

/-- The request of a forced operation is made of a program that stands still. -/
lemma carryOut_of_takes (hs : s.scene? = some x)
    (htakes : s.takes [.ask s.nextId f.method f.args]) (interrupted : Bool) :
    ∃ s', s.carryOut f interrupted
      = (s', .waiting (.answer x.nextId f.method (.forced f interrupted))) ∧
        s'.scene? = some (x.asks f.method f.args) := by
  have hcarried : (s.carryOut f interrupted).1.isAttached :=
    (isAttached_carryOut (isAttached_of_scene? hs) f interrupted).trans htakes
  obtain ⟨hasked, heq⟩ := askFor_cases
    (fun s' e => stable_retains.firm.afterForced s' f interrupted (.error e)) hcarried
  rw [← nextId_of_scene? hs]
  exact ⟨_, heq, scene?_ask hs hasked⟩

lemma endWait_of_reply (h : s.reply = some a) (n : RequestId) (m : Method) :
    s.endWait n m = ({ s with reply := none }, a) := by
  rw [endWait, takeReply, h]

lemma scene?_takeReply (hs : s.scene? = some x) :
    ({ s with reply := none } : Session).scene? = some { x with reply := none } := by
  obtain ⟨c, hc, rfl⟩ := Option.map_eq_some_iff.mp hs
  rw [scene?, hc]
  rfl

end Session

/-! ### Waits that the agent ends -/

namespace Engine

variable {e : Engine} {x : Scene} {operation : Operation} {f : Forced} {m : Method}
    {n : RequestId} {goal : Goal} {network : Network} {inputs : List (Network × Input)}
    {P : Bytes → Prop} {earlier later : List Event} {outcome : Except RemoteError Json}

/-- While an operation waits, the agent tells what it is waited for in one payload, with news
before and after it of what the program writes and of exceptions. Then the wait is over, and
there is room for what follows. -/
def Brings (e : Engine) (P : Bytes → Prop) (earlier later : List Event)
    (inputs : List (Network × Input)) : Prop :=
  ∃ during network, inputs = during ++ [(network, .wake)] ∧
    e.Always (fun e input => e.spares input && e.waitsOn input) during ∧
      (e.run during).1.spares .wake ∧
    ∃ ps p qs, e.heard during = ps ++ p :: qs ∧ ps.mapM Record.notice? = some earlier ∧ P p ∧
      qs.mapM Record.notice? = some later

/-- News of what the program writes and of exceptions show no place. -/
lemma Brings.isPlace (h : e.Brings P earlier later inputs) :
    ∀ ev ∈ earlier ++ later, ev.isPlace = false := by
  obtain ⟨-, -, -, -, -, ps, p, qs, -, hps, -, hqs⟩ := h
  intro ev hev
  rcases List.mem_append.mp hev with hev | hev
  · exact Record.isPlace_of_notices hps ev hev
  · exact Record.isPlace_of_notices hqs ev hev

lemma run_cons (e : Engine) (i : Network × Input) (is : List (Network × Input)) : e.run (i :: is)
    = (((e.step i.1 i.2).1.run is).1,
      (e.step i.1 i.2).2.toList ++ ((e.step i.1 i.2).1.run is).2) := rfl

lemma run_append_eq (e : Engine) (is js : List (Network × Input)) :
    e.run (is ++ js) = (((e.run is).1.run js).1, (e.run is).2 ++ ((e.run is).1.run js).2) := by
  induction is generalizing e with
  | nil => rfl
  | cons i is ih => rw [List.cons_append, run_cons, run_cons, ih, List.append_assoc]

/-- What the agent brings comes to the scene as it does for any session, and then the wait is
over. -/
lemma Brings.run {y : Scene} (h : e.Brings P earlier later inputs)
    (hs : e.session.scene? = some x)
    (hkey : ∀ p, P p → ∀ s : Session, s.scene? = some (x.tells earlier) →
      (s.receiveFrame p).scene? = some y) :
    ∃ during network, e.Always (fun e input => e.spares input && e.waitsOn input) during ∧
      (e.run during).1.session.scene? = some (y.tells later) ∧ (e.run during).1.spares .wake ∧
      e.run inputs = (((e.run during).1.step network .wake).1,
        ((e.run during).1.step network .wake).2.toList) := by
  obtain ⟨during, network, rfl, hduring, hspares, ps, p, qs, hheard, hps, hp, hqs⟩ := h
  have hbecomes : Scene.Becomes x (e.heard during) (y.tells later) := by
    rw [hheard]
    exact (Scene.becomes_tells hps x).append (.cons (hkey p hp) (Scene.becomes_tells hqs y))
  obtain ⟨hscene, hanswers⟩ := scene?_run hs hduring hbecomes
  refine ⟨during, network, hduring, hscene, hspares, ?_⟩
  rw [run_append_eq, run_cons, hanswers, List.nil_append]
  exact Prod.ext rfl (List.append_nil _)

/-- Once the program stands still, the request is made. -/
lemma Brings.stop {pause : Duration} {pauses : Pauses}
    (h : e.Brings Record.IsStop earlier later inputs) (ht : e.task = some (.stop pause pauses f))
    (hs : e.session.scene? = some x) (hstart : x.connection.startContinue = false)
    (hsuppress : x.connection.suppressNext) :
    ∃ s : Session, e.run inputs
        = ({ session := s, task := some (.answer x.nextId f.method (.forced f true)) }, []) ∧
      s.scene? = some ((((x.tells earlier).stops).tells later).asks f.method f.args) := by
  obtain ⟨during, network, hduring, hscene, hspares, hrun⟩ :=
    h.run hs fun p hp s hs => scene?_of_isStop hp hs hstart hsuppress
  obtain ⟨pause', pauses', ht'⟩ := task_run_of_stop ht hduring
  rw [hrun]
  generalize (e.run during).1 = e' at *
  have hstate : e'.session.state = .interacting := state_of_scene? hscene
  rw [spares, ht', Option.all_some, continuation, if_pos hstate] at hspares
  obtain ⟨s, hcarry, hasks⟩ := carryOut_of_takes hscene hspares true
  have hstep : e'.step network .wake = after (e'.session.look pauses' f) := by
    rw [step, ht']
    rfl
  have hlook : e'.session.look pauses' f = e'.session.carryOut f true := by rw [look, hstate]
  refine ⟨s, ?_, hasks⟩
  rw [hstep, hlook, hcarry]
  rfl

/-- The request that a command waits for has an entry. -/
lemma lookup_of_waiting (h : e.Sound) (ht : e.task = some (.answer n m goal))
    (hs : e.session.scene? = some x) (hreply : x.reply = none) :
    x.connection.pending.lookup n = some { method := m, awaited := true } := by
  have hserves := h.serves
  rw [ht] at hserves
  rw [← reply_of_scene? hs] at hreply
  rcases hserves with hwaits | ⟨a, hanswered⟩
  · obtain ⟨c, hc, rfl⟩ := Option.map_eq_some_iff.mp hs
    have hpending := hwaits.pending? h.books
    rw [pending?_books hc] at hpending
    exact hpending
  · have hanswer : e.session.reply = some a := hanswered.1
    rw [hreply] at hanswer
    cases hanswer

/-- Once the answer has come, the operation goes on with it. -/
lemma Brings.answer (h : e.Brings (Record.IsAnswer n outcome) earlier later inputs)
    (hsound : e.Sound) (ht : e.task = some (.answer n m goal)) (hs : e.session.scene? = some x)
    (hreply : x.reply = none) :
    ∃ s : Session,
      s.scene? = some { ((x.tells earlier).hears n m outcome).tells later with reply := none } ∧
      s.takes (s.sequel goal (resultOf m outcome)) ∧
      e.run inputs = ((after (s.proceed (resultOf m outcome) goal)).1,
        (after (s.proceed (resultOf m outcome) goal)).2.toList) := by
  have hpending := lookup_of_waiting hsound ht hs hreply
  obtain ⟨during, network, hduring, hscene, hspares, hrun⟩ :=
    h.run hs fun p hp s hs => scene?_of_isAnswer hp hs hpending
  have ht' := task_run_of_answer ht hduring
  rw [hrun]
  generalize (e.run during).1 = e' at *
  have hreply' : e'.session.reply = some (resultOf m outcome) := by
    rw [reply_of_scene? hscene]
    show ((x.tells earlier).hears n m outcome).reply = _
    rw [Scene.reply_hears, show (x.tells earlier).reply = none from hreply]
    rfl
  rw [spares, ht', Option.all_some, continuation, endWait_of_reply hreply'] at hspares
  have hstep : e'.step network .wake
      = after ({ e'.session with reply := none }.proceed (resultOf m outcome) goal) := by
    rw [step, ht']
    dsimp only
    rw [Session.wake, endWait_of_reply hreply']
  rw [hstep]
  exact ⟨_, scene?_takeReply hscene, hspares, rfl⟩

/-- Once the program has answered to that, the operation is over. -/
lemma Brings.resumed {a : Answer} {directory : String}
    (h : e.Brings (Record.IsAnswer n outcome) earlier later inputs) (hsound : e.Sound)
    (ht : e.task = some (.answer n .resume (.resumed f a)))
    (hforced : operation.forced? directory = some f) (hs : e.session.scene? = some x)
    (hreply : x.reply = none) :
    ∃ s : Session, e.run inputs = ({ session := s }, [a.map fun _ => .null]) ∧
      s.scene? = some
        { ((x.tells earlier).hears n .resume outcome).tells later with reply := none } := by
  obtain ⟨s, hscene, -, hrun⟩ := h.answer hsound ht hs hreply
  rw [show s.proceed (resultOf .resume outcome) (.resumed f a) = s.conclude f a from rfl,
    conclude_of_forced? hforced] at hrun
  exact ⟨s, hrun, hscene⟩

def twentieth : Breakpoint := Breakpoint.build "/" "a.py" (some 20) false

end Engine

end RemoteDebugger
