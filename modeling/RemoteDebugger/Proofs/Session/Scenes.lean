import RemoteDebugger.Proofs.Session.Correlation
import RemoteDebugger.Proofs.Session.Occurrences
import RemoteDebugger.Proofs.Session.Performing

/-!
# Scenes

What an operation on the program goes by is how the connection stands, what was written and what
was told, and the answer that came. While an operation waits, only the payloads of the agent
change that, however they are cut up into bytes.
-/

namespace RemoteDebugger

open Session

/-- A connection apart from the bytes that are on their way. -/
def Connection.bare (c : Connection) : Connection := { c with room := none, inbox := [] }

/-- What an operation on the program goes by. -/
structure Scene where
  connection : Connection
  sent : List Record
  events : List Event
  nextId : RequestId
  reply : Option Answer

namespace Scene

/-- User interfaces are told of events. -/
def tells (x : Scene) (es : List Event) : Scene := { x with events := x.events ++ es }

/-- The program stops, which is not shown. -/
def stops (x : Scene) : Scene :=
  { x with
    connection := { x.connection with interaction := .interacting, suppressNext := false } }

/-- The program runs on. -/
def runs (x : Scene) : Scene :=
  { x with
    connection := { x.connection with interaction := .running }
    events     := x.events ++ [.clearInteraction] }

/-- A request is written whose answer is waited for. -/
def asks (x : Scene) (m : Method) (args : List Json) : Scene :=
  { x with
    connection := { x.connection with
      pending := x.connection.pending ++ [(x.nextId, { method := m, awaited := true })] }
    sent       := x.sent ++ [.ask x.nextId m args]
    nextId     := x.nextId + 1
    reply      := none }

/-- The answer to the request `n` comes, which is waited for. -/
def hears (x : Scene) (n : RequestId) (m : Method) (outcome : Except RemoteError Json) : Scene :=
  let x := if m.resumes && (resultOf m outcome).isOk then x.runs else x
  { x with
    connection := { x.connection with pending := without n x.connection.pending }
    reply      := x.reply.or (some (resultOf m outcome)) }

/-- The first reply that is heard is kept. -/
lemma reply_hears (x : Scene) (n : RequestId) (m : Method) (outcome : Except RemoteError Json) :
    (x.hears n m outcome).reply = x.reply.or (some (resultOf m outcome)) := by
  rw [hears]
  split_ifs <;> rfl

lemma tells_nil (x : Scene) : x.tells [] = x := by rw [tells, List.append_nil]

lemma tells_tells (x : Scene) (es es' : List Event) :
    (x.tells es).tells es' = x.tells (es ++ es') := by
  rw [tells, tells, tells, List.append_assoc]

end Scene

/-! ### Sessions -/

namespace Session

variable {s : Session} {x : Scene}

def sceneOn (s : Session) (c : Connection) : Scene where
  connection := c.bare
  sent       := s.sent
  events     := s.events.queued
  nextId     := s.nextId
  reply      := s.reply

def scene? (s : Session) : Option Scene := s.connection.map s.sceneOn

lemma isAttached_of_scene? (h : s.scene? = some x) : s.isAttached := by
  obtain ⟨c, hc, -⟩ := Option.map_eq_some_iff.mp h
  rw [isAttached, hc]
  rfl

lemma state_of_scene? (h : s.scene? = some x) : s.state = x.connection.interaction.seen := by
  obtain ⟨c, hc, rfl⟩ := Option.map_eq_some_iff.mp h
  rw [state_of_connection hc]
  rfl

lemma nextId_of_scene? (h : s.scene? = some x) : s.nextId = x.nextId := by
  obtain ⟨c, -, rfl⟩ := Option.map_eq_some_iff.mp h
  rfl

lemma reply_of_scene? (h : s.scene? = some x) : s.reply = x.reply := by
  obtain ⟨c, -, rfl⟩ := Option.map_eq_some_iff.mp h
  rfl

/-- The bytes that are on their way do not matter. -/
lemma scene?_modifyConnection {f : Connection → Connection} (h : ∀ c, (f c).bare = c.bare) :
    (s.modifyConnection f).scene? = s.scene? := by
  rw [scene?, scene?, modifyConnection, Option.map_map]
  refine congrArg (s.connection.map ·) (funext fun c => ?_)
  show sceneOn _ (f c) = s.sceneOn c
  rw [sceneOn, sceneOn, h]
  rfl

end Session

/-! ### Payloads -/

namespace Record

variable {payload : Bytes} {ps : List Bytes} {e : Event} {es : List Event}

/-- The event that a payload tells of and nothing else, if it is a notification of what the
program wrote or of an exception. -/
def notice? (payload : Bytes) : Option Event :=
  match decode payload with
  | .ok (.notification method args _) => newsOfCall none method args
  | _                                 => none

/-- News that are no call for anything tell of no place. -/
lemma isPlace_of_notice? (h : notice? payload = some e) : e.isPlace = false := by
  rw [notice?] at h
  split at h
  · rw [newsOfCall.eq_def] at h
    split at h <;> cases h <;> rfl
  · cases h

/-- News are told one after another. -/
lemma notices_cons (h : (payload :: ps).mapM notice? = some es) :
    ∃ e es', notice? payload = some e ∧ ps.mapM notice? = some es' ∧ es = e :: es' := by
  rw [List.mapM_cons] at h
  obtain ⟨e, he, h⟩ := Option.bind_eq_some_iff.mp h
  obtain ⟨es', hes', h⟩ := Option.bind_eq_some_iff.mp h
  cases h
  exact ⟨e, es', he, hes', rfl⟩

lemma isPlace_of_notices (h : ps.mapM notice? = some es) : ∀ e ∈ es, e.isPlace = false := by
  induction ps generalizing es with
  | nil =>
    rw [List.mapM_nil] at h
    cases h
    exact fun _ he => nomatch he
  | cons p ps ih =>
    obtain ⟨e, es', he, hes', rfl⟩ := notices_cons h
    exact List.forall_mem_cons.mpr ⟨isPlace_of_notice? he, ih hes'⟩

/-- News of a stop. -/
def IsStop (payload : Bytes) : Prop :=
  ∃ args kwargs, decode payload = .ok (.notification Method.interaction.name args kwargs)

/-- An answer to a request. -/
def IsAnswer (n : RequestId) (outcome : Except RemoteError Json) (payload : Bytes) : Prop :=
  decode payload = .ok (.response n outcome)

end Record

namespace Session

variable {s : Session} {x : Scene} {payload : Bytes}

lemma receiveFrame_of_decode {c : Connection} (hc : s.connection = some c) {r : Record}
    (h : Record.decode payload = .ok r) : s.receiveFrame payload = s.receiveRecord r := by
  rw [receiveFrame, hc]
  dsimp only
  rw [h]

/-- News that come are told, and nothing else changes. -/
lemma scene?_of_notice? {ev : Event} (h : Record.notice? payload = some ev)
    (hs : s.scene? = some x) :
    (s.receiveFrame payload).scene? = some (x.tells [ev]) := by
  obtain ⟨c, hc, rfl⟩ := Option.map_eq_some_iff.mp hs
  rw [Record.notice?] at h
  split at h
  · next method args kwargs hdecode =>
    rw [receiveFrame_of_decode hc hdecode]
    show (s.receiveCall none method args kwargs).scene? = _
    rw [Record.newsOfCall.eq_def] at h
    rw [receiveCall]
    cases hname : Method.ofName? method with
    | none =>
      rw [hname] at h
      cases h
    | some m =>
      rw [hname] at h
      cases m with
      | write =>
        cases h
        show (s.publish _).scene? = _
        rw [scene?, publish, hc]
        rfl
      | exception =>
        cases h
        show (s.receiveException args).scene? = _
        rw [scene?, receiveException, publish, hc]
        rfl
      | _ => cases h
  · cases h

/-- The stop that a session asked for is not shown. -/
lemma scene?_of_isStop (h : Record.IsStop payload) (hs : s.scene? = some x)
    (hstart : x.connection.startContinue = false) (hsuppress : x.connection.suppressNext) :
    (s.receiveFrame payload).scene? = some x.stops := by
  obtain ⟨c, hc, rfl⟩ := Option.map_eq_some_iff.mp hs
  obtain ⟨args, kwargs, hdecode⟩ := h
  have hcall : s.receiveFrame payload = s.receiveInteraction args kwargs :=
    receiveFrame_of_decode hc hdecode
  have hnot : ¬ c.startContinue := Bool.eq_false_iff.mp hstart
  rw [hcall, receiveInteraction, hc]
  dsimp only
  rw [if_neg hnot, if_pos (show c.suppressNext from hsuppress)]
  rfl

/-- The answer to a command that waits is kept for it. -/
lemma scene?_of_isAnswer {n : RequestId} {m : Method} {outcome : Except RemoteError Json}
    (h : Record.IsAnswer n outcome payload) (hs : s.scene? = some x)
    (hpending : x.connection.pending.lookup n = some { method := m, awaited := true }) :
    (s.receiveFrame payload).scene? = some (x.hears n m outcome) := by
  obtain ⟨c, hc, rfl⟩ := Option.map_eq_some_iff.mp hs
  have hlookup : c.pending.lookup n = some { method := m, awaited := true } := hpending
  have hfinish : s.receiveFrame payload
      = ((s.modifyConnection fun c => { c with pending := without n c.pending }).settle m
          outcome).1.deliver (resultOf m outcome) := by
    rw [receiveFrame_of_decode hc h]
    show s.receiveResponse n outcome = _
    rw [receiveResponse, hc]
    dsimp only
    rw [hlookup]
    dsimp only
    rw [finish, ← (settle_eq _ m outcome).2]
    rfl
  rw [hfinish, settle, Scene.hears]
  cases hr : resultOf m outcome with
  | error e =>
    rw [Except.isOk, Except.toBool, Bool.and_false, if_neg Bool.false_ne_true,
      modifyConnection, hc]
    rfl
  | ok v =>
    rw [Except.isOk, Except.toBool, Bool.and_true]
    dsimp only
    split_ifs
    · rw [clearInteraction, modifyConnection, modifyConnection, hc]
      rfl
    · rw [modifyConnection, hc]
      rfl

/-- A request that is written changes the scene. -/
lemma scene?_ask (hs : s.scene? = some x) {m : Method} {args : List Json}
    (h : (s.ask m args).1.isAttached) :
    (s.ask m args).1.scene? = some (x.asks m args) := by
  obtain ⟨c, hc, rfl⟩ := Option.map_eq_some_iff.mp hs
  have hregistered : ({ s with reply := none }.register m true).connection
      = some { c with
               pending := c.pending ++ [(s.nextId, { method := m, awaited := true })] } := by
    rw [register, modifyConnection, hc]
    rfl
  rw [ask] at h ⊢
  rcases send_eq ({ s with reply := none }.register m true) (.ask s.nextId m args)
    with ⟨-, room, heq⟩ | ⟨e, heq⟩
  · rw [heq]
    refine Eq.trans (scene?_modifyConnection ?_) ?_
    · exact fun _ => rfl
    · rw [scene?, withLetter, hregistered, Option.map_some, sceneOn, sent, List.map_append]
      rfl
  · rw [heq] at h
    have hgone := isAttached_detach ({ s with reply := none }.register m true)
    rw [show ({ (detach _) with reply := none } : Session).isAttached = _ from hgone] at h
    cases h

end Session

/-! ### What the agent says -/

namespace Scene

variable {x y z : Scene} {p : Bytes} {ps qs : List Bytes}

/-- Whatever session hears the payloads, they lead from one scene to the other. -/
inductive Becomes : Scene → List Bytes → Scene → Prop
  | nil (x : Scene) : Becomes x [] x
  | cons {x y z : Scene} {p : Bytes} {ps : List Bytes}
      (h : ∀ s : Session, s.scene? = some x → (s.receiveFrame p).scene? = some y)
      (hrest : Becomes y ps z) :
      Becomes x (p :: ps) z

lemma Becomes.append (h : Becomes x ps y) (h' : Becomes y qs z) : Becomes x (ps ++ qs) z := by
  induction h with
  | nil => exact h'
  | cons hfirst _ ih => exact .cons hfirst (ih h')

/-- What the scene becomes over both stretches it becomes by way of the first. -/
lemma Becomes.of_append (h : Becomes x (ps ++ qs) z) : ∃ y, Becomes x ps y ∧ Becomes y qs z := by
  induction ps generalizing x with
  | nil => exact ⟨x, .nil x, h⟩
  | cons p ps ih =>
    cases h with
    | cons hfirst hrest =>
      obtain ⟨y, hy, hz⟩ := ih hrest
      exact ⟨y, .cons hfirst hy, hz⟩

/-- What the program writes and its exceptions are told and nothing else. -/
lemma becomes_tells {es : List Event} (h : ps.mapM Record.notice? = some es) (x : Scene) :
    Becomes x ps (x.tells es) := by
  induction ps generalizing x es with
  | nil =>
    rw [List.mapM_nil] at h
    cases h
    rw [tells_nil]
    exact .nil x
  | cons p ps ih =>
    obtain ⟨e, es', he, hes', rfl⟩ := Record.notices_cons h
    have hrest := ih hes' (x.tells [e])
    rw [tells_tells] at hrest
    exact .cons (fun s hs => scene?_of_notice? he hs) hrest

end Scene

namespace Session

variable {s : Session} {x y : Scene}

/-- Payloads change the scene as they say. -/
lemma scene?_foldl_receiveFrame {ps : List Bytes} (hs : s.scene? = some x)
    (h : Scene.Becomes x ((s.meetings ps).map Prod.snd) y) :
    (ps.foldl receiveFrame s).scene? = some y := by
  induction ps generalizing s x with
  | nil =>
    cases h
    exact hs
  | cons p ps ih =>
    rw [meetings_cons (isAttached_of_scene? hs), List.map_cons] at h
    cases h with
    | cons hfirst hrest => exact ih (hfirst s hs) hrest

/-- Bytes change the scene as their payloads say. -/
lemma scene?_receiveBytes {bytes : Bytes} (hs : s.scene? = some x)
    (h : Scene.Becomes x ((s.meetingsIn bytes).map Prod.snd) y)
    (hrejects : s.rejects bytes = false) :
    (s.receiveBytes bytes).scene? = some y := by
  obtain ⟨c, hc⟩ := Option.isSome_iff_exists.mp (isAttached_of_scene? hs)
  have hempty : ({ s with connection := some { c with inbox := [] } } : Session).scene?
      = some x := by
    rw [← hs, scene?, scene?, hc]
    rfl
  rw [meetingsIn, hc] at h
  have hframes := scene?_foldl_receiveFrame hempty h
  rw [rejects, hc, Option.any_some, Option.isNone_eq_false_iff, Option.isSome_iff_exists]
    at hrejects
  obtain ⟨inbox, hinbox⟩ := hrejects
  rw [receiveBytes_eq hc, hinbox, leave]
  refine Eq.trans (scene?_modifyConnection ?_) hframes
  exact fun _ => rfl

end Session

/-! ### While an operation waits -/

namespace Engine

variable {e : Engine} {input : Input} {x y : Scene} {during : List (Network × Input)}

/-- Whether something happens to an operation that waits while it goes on waiting: the user
begins nothing, and the wait is over only before another look at a program that runs. -/
def waitsOn (e : Engine) : Input → Bool
  | .start _ => false
  | .wake    => e.task.any fun
    | .stop _ pauses _ => e.session.state == .running && pauses.next?.isSome
    | .answer _ _ _    => false
  | _        => true

/-- Another look at a program that runs leaves all as it is. -/
lemma wake_of_waitsOn (h : e.waitsOn .wake) (network : Network) :
    ∃ pause pauses pause' pauses' operation, e.task = some (.stop pause pauses operation) ∧
      e.step network .wake
        = ({ e with task := some (.stop pause' pauses' operation) }, none) := by
  obtain ⟨task, ht, hwaits⟩ := (Option.any_eq_true _ _).mp h
  cases task with
  | answer => cases hwaits
  | stop pause pauses operation =>
    obtain ⟨hstate, hnext⟩ := Bool.and_eq_true_iff.mp hwaits
    obtain ⟨⟨pause', pauses'⟩, hnext⟩ := Option.isSome_iff_exists.mp hnext
    refine ⟨pause, pauses, pause', pauses', operation, ht, ?_⟩
    rw [step, ht]
    dsimp only
    rw [Session.wake, look, beq_iff_eq.mp hstate]
    dsimp only
    rw [hnext]
    rfl

/-- An operation that goes on waiting has no answer yet. -/
lemma answer_of_waitsOn (h : e.waitsOn input) (network : Network) :
    (e.step network input).2 = none := by
  cases input with
  | start operation => cases h
  | wake =>
    obtain ⟨_, _, _, _, _, -, hstep⟩ := wake_of_waitsOn h network
    rw [hstep]
  | _ => rfl

/-- What the agent says is all that changes the scene. -/
lemma scene?_step (hs : e.session.scene? = some x) (hspares : e.spares input)
    (hwaits : e.waitsOn input) (h : Scene.Becomes x ((e.meetings input).map Prod.snd) y)
    (network : Network) :
    (e.step network input).1.session.scene? = some y := by
  have hquiet : ∀ {s : Session}, s.scene? = e.session.scene? → Scene.Becomes x [] y →
      s.scene? = some y := by
    intro s hsame hnothing
    cases hnothing
    exact hsame.trans hs
  cases input with
  | start operation => cases hwaits
  | bytes bytes =>
    have hrejects : (!e.severs (.bytes bytes)) = true := hspares
    rw [severs, Bool.not_or, Bool.and_eq_true, Bool.not_eq_true'] at hrejects
    exact scene?_receiveBytes hs h (Bool.not_eq_true' _ ▸ hrejects.2)
  | endOfStream => cases hspares
  | frameTimeout =>
    refine hquiet ?_ h
    have hbetween : (!e.session.isMidFrame) = true := hspares
    show e.session.expireFrame.scene? = _
    rw [expireFrame, if_neg (by simpa using hbetween)]
  | wake =>
    obtain ⟨_, _, _, _, _, -, hstep⟩ := wake_of_waitsOn hwaits network
    rw [hstep]
    exact hquiet rfl h
  | room room => exact hquiet (scene?_modifyConnection fun _ => rfl) h

/-- While an operation waits, what the agent says is all that changes the scene, and there is no
answer. -/
lemma scene?_run (hs : e.session.scene? = some x)
    (hduring : e.Always (fun e input => e.spares input && e.waitsOn input) during)
    (h : Scene.Becomes x (e.heard during) y) :
    (e.run during).1.session.scene? = some y ∧ (e.run during).2 = [] := by
  induction during generalizing e x with
  | nil =>
    cases h
    exact ⟨hs, rfl⟩
  | cons i is ih =>
    obtain ⟨hfirst, hrest⟩ := hduring
    obtain ⟨hspares, hwaits⟩ := Bool.and_eq_true_iff.mp hfirst
    obtain ⟨z, hz, hy⟩ := Scene.Becomes.of_append h
    obtain ⟨hscene, hanswers⟩ := ih (scene?_step hs hspares hwaits hz i.1) hrest hy
    refine ⟨hscene, ?_⟩
    show (e.step i.1 i.2).2.toList ++ ((e.step i.1 i.2).1.run is).2 = []
    rw [answer_of_waitsOn hwaits, hanswers]
    rfl

/-- An operation that waits for an answer goes on waiting for it. -/
lemma task_run_of_answer {n : RequestId} {m : Method} {goal : Goal}
    (ht : e.task = some (.answer n m goal))
    (hduring : e.Always (fun e input => e.spares input && e.waitsOn input) during) :
    (e.run during).1.task = some (.answer n m goal) := by
  refine run_induct (I := fun e => e.task = some (.answer n m goal)) ?_ ht hduring
  intro e network input ht hinput
  obtain ⟨-, hwaits⟩ := Bool.and_eq_true_iff.mp hinput
  refine step_task ht network ?_
  rintro rfl
  obtain ⟨_, _, _, _, _, hstop, -⟩ := wake_of_waitsOn hwaits network
  rw [ht] at hstop
  cases hstop

/-- An operation that waits for the program to stop goes on waiting for that. -/
lemma task_run_of_stop {pause : Duration} {pauses : Pauses} {operation : Forced}
    (ht : e.task = some (.stop pause pauses operation))
    (hduring : e.Always (fun e input => e.spares input && e.waitsOn input) during) :
    ∃ pause pauses, (e.run during).1.task = some (.stop pause pauses operation) := by
  refine run_induct (I := fun e => ∃ pause pauses,
    e.task = some (.stop pause pauses operation)) ?_
    ⟨pause, pauses, ht⟩ hduring
  rintro e network input ⟨pause, pauses, ht⟩ hinput
  obtain ⟨-, hwaits⟩ := Bool.and_eq_true_iff.mp hinput
  by_cases hwake : input = .wake
  · subst hwake
    obtain ⟨_, _, pause', pauses', operation', hstop, hstep⟩ := wake_of_waitsOn hwaits network
    rw [ht] at hstop
    cases hstop
    rw [hstep]
    exact ⟨pause', pauses', rfl⟩
  · exact ⟨pause, pauses, step_task ht network hwake⟩

end Engine

end RemoteDebugger
