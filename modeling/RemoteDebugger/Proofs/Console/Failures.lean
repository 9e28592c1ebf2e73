import RemoteDebugger.Console.Loop
import RemoteDebugger.Proofs.Session.Fatality
import RemoteDebugger.Proofs.Session.Performing
import RemoteDebugger.Proofs.Session.Streaming

/-!
# What a console tells of failures

A console does to its session what can happen to any session. When a command fails, it says that
the session is detached only if it is, since errors are right about the connection.
-/

namespace RemoteDebugger

namespace Engine

/-- An engine becomes another one by things that happen. -/
def Reaches (e e' : Engine) : Prop := ∃ run, (e.run run).1 = e'

lemma Reaches.refl (e : Engine) : e.Reaches e := ⟨[], rfl⟩

lemma Reaches.trans {e e' e'' : Engine} (h : e.Reaches e') (h' : e'.Reaches e'') :
    e.Reaches e'' := by
  obtain ⟨is, rfl⟩ := h
  obtain ⟨js, rfl⟩ := h'
  exact ⟨is ++ js, run_append e is js⟩

lemma reaches_step (e : Engine) (network : Network) (input : Input) :
    e.Reaches (e.step network input).1 :=
  ⟨[(network, input)], rfl⟩

/-- A connection that is closed is one whose stream has ended. -/
lemma reaches_detach (e : Engine) : e.Reaches (e.modify Session.detach) :=
  reaches_step e Network.nowhere .endOfStream

end Engine

namespace Console

open Engine

/-- The operation of a plan, if there is one. -/
def Plan.operation? : Plan → Option Operation
  | .say _                 => none
  | .perform _ operation _ => some operation

namespace State

variable {c : State} {network : Network}

/-! ### The session of a console -/

lemma reaches_finish (c : State) : c.engine.Reaches c.finish.engine := reaches_detach c.engine

lemma reaches_conclude (c : State) (purpose : Purpose) (answer : Answer) :
    c.engine.Reaches (c.conclude purpose answer).1.engine := by
  cases purpose with
  | quitting => exact reaches_finish _
  | opening report => cases answer <;> exact Reaches.refl _
  | command report => cases answer <;> exact Reaches.refl _

/-- What a console does with an answer is at most to close the connection. -/
lemma reaches_advance (c : State) (purpose : Option Purpose) (r : Engine × Option Answer) :
    r.1.Reaches (c.advance purpose r).1.engine := by
  obtain ⟨engine, answer⟩ := r
  cases answer with
  | none => exact Reaches.refl _
  | some answer =>
    cases purpose with
    | none => exact Reaches.refl _
    | some purpose => exact reaches_conclude { c with engine } purpose answer

lemma reaches_begin (c : State) (network : Network) (purpose : Purpose) (operation : Operation) :
    c.engine.Reaches (c.begin network purpose operation).1.engine :=
  (reaches_step c.engine network (.start operation)).trans (reaches_advance c (some purpose) _)

/-- A plan begins an operation of the session, or none. -/
lemma reaches_pursue (c : State) (network : Network)
    (purpose : (Session → Json → String) → Purpose) (plan : Plan) :
    c.engine.Reaches (c.pursue network purpose plan).1.engine := by
  cases plan with
  | say text => exact Reaches.refl _
  | perform before operation report => exact reaches_begin c network (purpose report) operation

lemma reaches_command (c : State) (network : Network) (cmd : Command) :
    c.engine.Reaches (c.command network cmd).1.engine := by
  simp only [command]
  split
  · split_ifs
    · exact reaches_begin c network .quitting .quit
    · exact reaches_finish c
  · exact reaches_pursue c network .command _

lemma reaches_readLine (c : State) (network : Network) (text : String) :
    c.engine.Reaches (c.readLine network text).1.engine := by
  rw [readLine]
  split_ifs
  · exact Reaches.refl _
  · exact reaches_step c.engine network (.start (.input text))
  · split
    · exact reaches_command c network _
    · exact Reaches.refl _
    · exact Reaches.refl _

lemma reaches_interrupt (c : State) (network : Network) :
    c.engine.Reaches (c.interrupt network).1.engine := by
  rw [interrupt]
  split_ifs
  · exact Engine.reaches_step c.engine network (.start .interrupt)
  · exact Reaches.refl _

/-- What happens to a console happens to its session. -/
lemma reaches_step (c : State) (network : Network) (h : Happening) :
    c.engine.Reaches (c.step network h).1.engine := by
  simp only [step]
  split
  · exact Reaches.refl _
  · split_ifs
    · exact Reaches.refl _
    · next input _ _ =>
        exact (Engine.reaches_step c.engine network input).trans (reaches_advance c c.purpose _)
  -- what is read: a line, an interruption, or that there is no more
  · split_ifs
    · exact reaches_readLine c network _
    · exact Reaches.refl _
  · split_ifs
    · exact reaches_interrupt c network
    · exact Reaches.refl _
  · split_ifs
    · exact reaches_finish c
    · exact Reaches.refl _
  · split_ifs
    · exact reaches_finish c
    · exact Reaches.refl _

lemma reaches_run (c : State) (network : Network) (hs : List Happening) :
    c.engine.Reaches (c.run network hs).1.engine := by
  induction hs generalizing c with
  | nil => exact Reaches.refl _
  | cons h hs ih => exact (reaches_step c network h).trans (ih (c.step network h).1)

lemma reaches_launch (config : SessionConfig) (target : Target) (network : Network) :
    Reaches { session := { config } } (launch config target network).1.engine :=
  reaches_pursue { engine := { session := { config } }, target } network .opening
    (attachPlan target)

/-! ### Answers to commands -/

/-- The operation that a line begins for a command, if it does. What quitting comes to is not
told. -/
def ordered? (c : State) (text : String) : Option Operation :=
  if isBlankText text || c.engine.session.state == .blockedOnInput then none
  else match Command.parse text with
    | .ok .quit => none
    | .ok cmd   => (plan c.target c.engine.session cmd).operation?
    | .error _  => none

/-- The answer to a command that comes with something that happens to a console, if one does. -/
def answer? (c : State) (network : Network) : Happening → Option Answer
  | .line text          =>
    if c.isReading then (c.ordered? text).bind fun operation =>
      (c.engine.start network operation).2 else none
  | .session (.start _) => none
  | .session input      =>
    match c.purpose with
    | some (.command _) => if c.ended then none else (c.engine.step network input).2
    | _                 => none
  | _                   => none

/-- An operation of a plan that fails is told of, after what was shown before it. -/
lemma pursue_of_error {p : Plan} {operation : Operation} {err : SessionError}
    (hp : p.operation? = some operation)
    (h : (c.engine.start network operation).2 = some (.error err)) :
    (∃ before, (c.pursue network .command p).2 = before ++ failureText err) ∧
      (c.pursue network .command p).1.engine = (c.engine.start network operation).1 := by
  cases p with
  | say text => cases hp
  | perform before operation' report =>
    cases hp
    have hstart : c.engine.start network operation
        = ((c.engine.start network operation).1, some (.error err)) := Prod.ext rfl h
    rw [pursue, begin, hstart]
    exact ⟨⟨before, rfl⟩, rfl⟩

/-- A command that fails at once is told of. -/
lemma step_line_of_error {text : String} {err : SessionError}
    (herr : c.answer? network (.line text) = some (.error err)) :
    (∃ before, (c.step network (.line text)).2 = before ++ failureText err) ∧
      ∃ input, (c.engine.step network input).2 = some (.error err) ∧
        (c.step network (.line text)).1.engine = (c.engine.step network input).1 := by
  rw [answer?] at herr
  split_ifs at herr with hreading
  obtain ⟨operation, hordered, hstart⟩ := Option.bind_eq_some_iff.mp herr
  rw [ordered?] at hordered
  split_ifs at hordered with hskip
  rw [Bool.or_eq_true, beq_iff_eq, not_or] at hskip
  simp only [step, if_pos hreading, readLine, if_neg hskip.1, if_neg hskip.2]
  -- only a command begins an operation whose failure is told
  split at hordered
  · cases hordered
  · next cmd hquit hparse =>
    rw [hparse]
    have hcommand : c.command network cmd
        = c.pursue network .command (plan c.target c.engine.session cmd) := by
      rw [command]
      exact hquit
    dsimp only
    rw [hcommand]
    obtain ⟨htext, hengine⟩ := pursue_of_error hordered hstart
    exact ⟨htext, .start operation, hstart, hengine⟩
  · cases hordered

/-- So is one that fails after a wait. -/
lemma step_session_of_error {input : Input} {err : SessionError}
    (herr : c.answer? network (.session input) = some (.error err)) :
    (∃ before, (c.step network (.session input)).2 = before ++ failureText err) ∧
      (c.engine.step network input).2 = some (.error err) ∧
        (c.step network (.session input)).1.engine = (c.engine.step network input).1 := by
  have hnot : ∀ operation, input ≠ .start operation := by
    rintro operation rfl
    cases herr
  -- the answer is that of a command, and the console is still there
  have hcase : ∃ report, c.purpose = some (.command report) ∧ c.ended = false ∧
      (c.engine.step network input).2 = some (.error err) := by
    simp only [answer?] at herr
    split at herr
    · next report hpurpose =>
      split_ifs at herr with hended
      exact ⟨report, hpurpose, Bool.eq_false_iff.mpr hended, herr⟩
    · cases herr
  obtain ⟨report, hpurpose, hended, hinput⟩ := hcase
  have hresult : c.engine.step network input
      = ((c.engine.step network input).1, some (.error err)) := Prod.ext rfl hinput
  have hstep : c.step network (.session input)
      = c.advance (some (.command report)) (c.engine.step network input) := by
    cases input with
    | start operation => exact absurd rfl (hnot operation)
    | _ =>
      simp only [step]
      rw [hended, if_neg Bool.false_ne_true, hpurpose]
  rw [hstep, hresult]
  exact ⟨⟨"", rfl⟩, rfl, rfl⟩

/-- The error of a command is shown, and then the session is as the error left it. -/
lemma step_of_error {h : Happening} {err : SessionError}
    (herr : c.answer? network h = some (.error err)) :
    (∃ before, (c.step network h).2 = before ++ failureText err) ∧
      ∃ input, (c.engine.step network input).2 = some (.error err) ∧
        (c.step network h).1.engine = (c.engine.step network input).1 := by
  cases h with
  | line text => exact step_line_of_error herr
  | session input =>
    obtain ⟨htext, hinput, hengine⟩ := step_session_of_error herr
    exact ⟨htext, input, hinput, hengine⟩
  | interrupted => cases herr
  | unreadable => cases herr
  | endOfInput => cases herr

end State

/-- An operation that fails with an error which means that there is no connection leaves the
session detached, whatever the agent did. One that fails in another way leaves the connection
that there was, unless the agent or a write ended it. So a console that tells of the failure of a
command says that the session is detached only if it is. -/
theorem fatal_detached (config : SessionConfig) :
    (∀ run e network operation meanwhile err,
      (Engine.run { session := { config } } run).1 = e →
      e.perform? network operation meanwhile = some (.error err) →
      (err.isFatal → (e.run ((network, .start operation) :: meanwhile)).1.session.state
        = .detached) ∧
        (e.session.isAttached →
          e.Always (fun e input => e.spares input) ((network, .start operation) :: meanwhile) →
          err.isFatal = false ∧
            (e.run ((network, .start operation) :: meanwhile)).1.session.isAttached)) ∧
      ∀ target network happenings c h err,
        ((launch config target network).1.run network happenings).1 = c →
        c.answer? network h = some (.error err) →
        (∃ before, (c.step network h).2 = before ++ failureText err) ∧
          (err.isFatal → (c.step network h).1.engine.session.state = .detached) := by
  have hnew : Engine.Frank { session := { config } } := frank_of_task_eq_none rfl
  have hdetached : ∀ {s : Session} {err : SessionError}, s.Befits (.error err) → err.isFatal →
      s.state = .detached := by
    intro s err hbefits hfatal
    have hgone := hbefits err rfl hfatal
    rw [Session.isAttached_eq_state] at hgone
    simpa using hgone
  refine ⟨?_, ?_⟩
  · -- the session: errors are right about the connection, and the agent spared it
    rintro run e network operation meanwhile err rfl hperform
    have hfrank := hnew.run run
    have hbefits : ((Engine.run { session := { config } } run).1.run
        ((network, .start operation) :: meanwhile)).1.session.Befits (.error err) :=
      perform?_induct (I := Engine.Frank) (Q := fun e a => e.session.Befits a)
        (fun e network input h => h.step network input)
        (fun e network input answer h hanswer => h.befits network input hanswer) hfrank hperform
    refine ⟨hdetached hbefits, fun hattached hspares => ?_⟩
    have hstays := isAttached_of_perform? hattached hspares hperform
    exact ⟨hbefits.not_fatal hstays, hstays⟩
  · -- the console: what happens to it happens to its session
    rintro target network happenings c h err rfl herr
    obtain ⟨run, hrun⟩ := (State.reaches_launch config target network).trans
      (State.reaches_run (launch config target network).1 network happenings)
    have hfrank := hrun ▸ hnew.run run
    obtain ⟨htext, input, hinput, hengine⟩ := State.step_of_error herr
    refine ⟨htext, fun hfatal => ?_⟩
    rw [hengine]
    exact hdetached (hfrank.befits network input hinput) hfatal

/-- A session that is attached to an agent with no room for anything. -/
def crammed : List (Network × Input) :=
  [(fun _ _ => .ok (), .start (.attach {})), (fun _ _ => .ok (), .room (some 0))]

/-- An interrupt that is not written ends the connection, a step while the program runs does not,
and a console without an agent says that it is detached. -/
theorem fatal_detached_crammed :
    (((Engine.run { session := { config := {} } } crammed).1.run
        [(Network.nowhere, .start .interrupt)]).1.session.state = .detached) ∧
      ((Engine.run { session := { config := {} } } crammed).1.run
        [(Network.nowhere, .start .step)]).1.session.isAttached ∧
      (((launch {} {} Network.nowhere).1.run Network.nowhere []).1.step Network.nowhere
        (.line "step")).1.engine.session.state = .detached := by
  refine ⟨?_, ?_, ?_⟩
  · exact (((fatal_detached {}).1 crammed _ Network.nowhere .interrupt [] (.wire .stalled)
      rfl rfl).1) rfl
  · exact (((fatal_detached {}).1 crammed _ Network.nowhere .step [] .notInteracting rfl rfl).2
      (by decide +kernel) (by decide +kernel)).2
  · exact ((fatal_detached {}).2 {} Network.nowhere [] _ (.line "step") .notAttached rfl
      (by rfl)).2 rfl

end Console

end RemoteDebugger
