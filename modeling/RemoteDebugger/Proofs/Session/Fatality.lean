import RemoteDebugger.Proofs.Session.Occurrences

/-!
# Errors and connections

Some errors of operations mean that there is no connection. They are right about it, whichever
operation fails, at whichever of its requests and waits; and an operation that fails in another
way does not end the connection of its own accord.
-/

namespace RemoteDebugger

/-- Whether a forced operation has an answer already and the program is only to run on. -/
def Goal.isResumed : Goal → Bool
  | .resumed _ _ => true
  | _            => false

namespace Session

variable {s s' : Session} {answer : Answer}

/-! ### Answers that are right -/

/-- An answer does not deny a connection that there is. -/
def Befits (s : Session) (answer : Answer) : Prop :=
  ∀ err, answer = .error err → err.isFatal → s.isAttached = false

lemma befits_ok (s : Session) (v : Json) : s.Befits (.ok v) := by
  intro err h
  cases h

/-- Any answer befits a session that is detached. -/
lemma befits_of_detached (h : s.isAttached = false) (answer : Answer) : s.Befits answer :=
  fun _ _ _ => h

lemma befits_of_not_fatal {err : SessionError} (h : err.isFatal = false) :
    s.Befits (.error err) := by
  intro err' herr hfatal
  cases herr
  rw [h] at hfatal
  cases hfatal

lemma Befits.map (h : s.Befits answer) (f : Json → Json) : s.Befits (answer.map f) := by
  cases answer with
  | ok v => exact befits_ok s (f v)
  | error err => exact h

lemma Befits.mono (h : s.Befits answer) (hs : s.isAttached = false → s'.isAttached = false) :
    s'.Befits answer :=
  fun err herr hfatal => hs (h err herr hfatal)

/-- An error that befits an attached session is not fatal. -/
lemma Befits.not_fatal {err : SessionError} (h : s.Befits (.error err))
    (hattached : s.isAttached) :
    err.isFatal = false := by
  by_contra hfatal
  rw [h err rfl (Bool.of_not_eq_false hfatal)] at hattached
  cases hattached

lemma isAttached_of_state (h : s.state = .detached) : s.isAttached = false := by
  rw [isAttached_eq_state, h]
  rfl

/-! ### Operations that fail -/

/-- An operation that is over has an answer that is right, and one that lets the program run on
first keeps no answer that denies the connection. -/
structure Frank (r : Session × Progress) : Prop where
  finished : ∀ answer, r.2 = .finished answer → r.1.Befits answer
  waiting : ∀ n m operation own,
    r.2 = .waiting (.answer n m (.resumed operation (.error own))) → own.isFatal = false

lemma frank_finished (h : s.Befits answer) : Frank (s, .finished answer) := by
  refine ⟨fun answer' heq => ?_, fun n m operation own heq => ?_⟩
  · cases heq
    exact h
  · cases heq

/-- An operation that goes on is frank, if the error that it has in store is not fatal. -/
lemma frank_waiting {task : Task}
    (h : ∀ n m operation own, task = .answer n m (.resumed operation (.error own)) →
      own.isFatal = false) :
    Frank (s, .waiting task) := by
  refine ⟨fun answer heq => ?_, fun n m operation own heq => ?_⟩
  · cases heq
  · cases heq
    exact h n m operation own rfl

lemma isAttached_ask_of_error {m : Method} {args : List Json} {err : SessionError}
    (h : (s.ask m args).2 = .error err) : (s.ask m args).1.isAttached = false := by
  rcases ask_cases s m args with ⟨hr, -, -⟩ | ⟨-, hbooks⟩
  · rw [h] at hr
    cases hr
  · rw [← Bool.not_eq_true, isAttached_iff, hbooks]
    exact Bool.eq_false_iff.mp (congrArg Option.isSome (Books.table_close s.books))

lemma isAttached_send_of_error {r : Record} {err : SessionError}
    (h : (s.send r).2 = .error err) :
    (s.send r).1.isAttached = false := by
  rcases send_eq s r with ⟨-, room, heq⟩ | ⟨e, heq⟩
  · rw [heq] at h
    cases h
  · rw [heq]
    exact isAttached_detach s

/-- A request that was not written leaves no connection, so that whatever is done about it is
right. -/
lemma frank_askFor {m : Method} {args : List Json} {goal : Goal}
    {otherwise : Session → SessionError → Session × Progress}
    (hgoal : ∀ operation own, goal = .resumed operation (.error own) → own.isFatal = false)
    (hotherwise : ∀ s' err, s'.isAttached = false → Frank (otherwise s' err)) :
    Frank (s.askFor m args goal otherwise) := by
  have hgone : ∀ err, (s.ask m args).2 = .error err → (s.ask m args).1.isAttached = false :=
    fun err => isAttached_ask_of_error
  rw [askFor]
  split
  · apply frank_waiting
    intro n m' operation own heq
    cases heq
    exact hgoal operation own rfl
  · next s' err hs' =>
    rw [hs'] at hgone
    exact hotherwise s' err (hgone err rfl)

/-- A command is refused with what befits the session. -/
lemma befits_refusal? {err : SessionError} (h : s.refusal? = some err) :
    s.Befits (.error err) := by
  rw [refusal?] at h
  cases hstate : s.state with
  | interacting =>
    rw [hstate] at h
    cases h
  | detached => exact befits_of_detached (isAttached_of_state hstate) _
  | running =>
    rw [hstate] at h
    cases h
    exact befits_of_not_fatal rfl
  | blockedOnInput =>
    rw [hstate] at h
    cases h
    exact befits_of_not_fatal rfl

lemma frank_fail (hgone : s.isAttached = false) (err : SessionError) : Frank (s.fail err) :=
  frank_finished (befits_of_detached hgone _)

/-- A command is frank, whether it is refused, cannot be written or waits. -/
lemma frank_command (s : Session) (m : Method) (args : List Json) {goal : Goal}
    (hgoal : goal.isResumed = false) : Frank (s.command m args goal) := by
  rw [command]
  split
  · next err herr => exact frank_finished (befits_refusal? herr)
  · apply frank_askFor
    · intro operation own heq
      rw [heq] at hgoal
      cases hgoal
    · exact fun s' err hgone => frank_fail hgone err

/-! ### Forced operations -/

/-- A forced operation ends as its answer does. -/
lemma frank_conclude (operation : Forced) (h : s.Befits answer) :
    Frank (s.conclude operation answer) := by
  simp only [conclude]
  split
  · exact frank_finished (befits_ok _ _)
  · exact frank_finished (befits_ok _ _)
  · exact frank_finished (h.mono fun hgone => (isAttached_modifyConnection s _).trans hgone)
  · exact frank_finished (h.map _)

/-- An answer that comes before the program is let go on is kept only while the session is
attached. -/
lemma frank_afterForced (operation : Forced) (interrupted : Bool) (h : s.Befits answer) :
    Frank (s.afterForced operation interrupted answer) := by
  rw [afterForced]
  split_ifs with hresume
  · have hattached : s.isAttached := by
      rw [isAttached_eq_state, state_of_mustResume hresume]
      rfl
    apply frank_askFor
    · intro operation' own heq
      cases heq
      exact h.not_fatal hattached
    · exact fun s' err hgone => frank_conclude operation (befits_of_detached hgone answer)
  · exact frank_conclude operation h

lemma frank_carryOut (s : Session) (operation : Forced) (interrupted : Bool) :
    Frank (s.carryOut operation interrupted) := by
  apply frank_askFor
  · intro operation' own heq
    cases heq
  · exact fun s' err hgone =>
      frank_afterForced operation interrupted (befits_of_detached hgone _)

lemma frank_look (s : Session) (pauses : Pauses) (operation : Forced) :
    Frank (s.look pauses operation) := by
  rw [look]
  split
  · exact frank_carryOut s operation true
  · next hstate =>
      exact frank_conclude operation (befits_of_detached (isAttached_of_state hstate) _)
  · exact frank_conclude operation (befits_of_not_fatal rfl)
  · split
    · apply frank_waiting
      intro n m operation' own heq
      cases heq
    · exact frank_conclude operation (befits_of_not_fatal rfl)

/-- A forced operation is frank as it begins. -/
lemma frank_force (s : Session) (operation : Forced) : Frank (s.force operation) := by
  rw [force]
  split
  · next hstate =>
      exact frank_conclude operation (befits_of_detached (isAttached_of_state hstate) _)
  · exact frank_conclude operation (befits_of_not_fatal rfl)
  · exact frank_carryOut s operation false
  · have hgone : ∀ err,
        ((s.modifyConnection ({ · with suppressNext := true })).send (.notify .interrupt)).2
            = .error err →
          ((s.modifyConnection ({ · with suppressNext := true })).send
            (.notify .interrupt)).1.isAttached = false :=
      fun err => isAttached_send_of_error
    split
    · exact frank_look _ _ operation
    · next s' err hs' =>
      rw [hs'] at hgone
      have hgone' : s'.showNext.isAttached = false :=
        (isAttached_modifyConnection s' _).trans (hgone err rfl)
      exact frank_conclude operation (befits_of_detached hgone' _)

lemma frank_forceIfAttached (operation : Forced) {detached : Answer} (h : s.Befits detached) :
    Frank (s.forceIfAttached operation detached) := by
  rw [forceIfAttached]
  split_ifs
  · exact frank_force s operation
  · exact frank_finished h

lemma frank_quit (s : Session) : Frank s.quit := by
  rw [quit]
  split
  · next hc =>
    have hgone : s.isAttached = false := by rw [isAttached, hc]; rfl
    exact frank_fail hgone _
  · exact frank_force _ _

/-! ### All operations -/

/-- An attempt to attach is answered with what befits it, if one on an attached session is
refused. -/
lemma befits_of_attaches {r : Session × Answer} (h : s.Attaches r)
    (hbusy : s.isAttached → r.2 = .error .alreadyAttached) : r.1.Befits r.2 := by
  rcases h with ⟨-, heq⟩ | ⟨hok, -, -⟩
  · rw [heq]
    cases hattached : s.isAttached with
    | true =>
      rw [hbusy hattached]
      exact befits_of_not_fatal rfl
    | false => exact befits_of_detached hattached _
  · cases hr : r.2 with
    | ok v => exact befits_ok _ v
    | error err =>
      rw [hr] at hok
      cases hok

/-- A record that cannot be written ends the connection. -/
lemma befits_of_send (s : Session) (r : Record) :
    (s.send r).1.Befits (unitAnswer (s.send r).2) := by
  cases hr : (s.send r).2 with
  | ok u => exact befits_ok _ _
  | error err => exact befits_of_detached (isAttached_send_of_error hr) _

lemma befits_interrupt (s : Session) : s.interrupt.1.Befits s.interrupt.2 := by
  rw [interrupt]
  split
  · next hstate => exact befits_of_detached (isAttached_of_state hstate) _
  · exact befits_of_not_fatal rfl
  · exact befits_ok _ _
  · exact befits_of_send s _

lemma befits_provideInput (s : Session) (text : String) :
    (s.provideInput text).1.Befits (s.provideInput text).2 := by
  rw [provideInput]
  split
  · next hc =>
    have hgone : s.isAttached = false := by rw [isAttached, hc]; rfl
    exact befits_of_detached hgone _
  · split
    · exact befits_of_not_fatal rfl
    · exact befits_of_send _ _

lemma befits_checkException (s : Session) : s.Befits s.checkException := by
  rw [checkException]
  split
  · exact befits_of_not_fatal rfl
  · exact befits_ok _ _

/-- The beginning of an operation. -/
lemma frank_start (s : Session) (network : Network) (operation : Operation) :
    Frank (s.start network operation) := by
  cases operation with
  | attach target =>
    refine frank_finished
      (befits_of_attaches (attaches_attach s network target) fun hattached => ?_)
    show (s.attach network target).2 = _
    rw [Session.attach, if_pos hattached]
  | attachRetrying target =>
    refine frank_finished
      (befits_of_attaches (attaches_attachRetrying s network target) fun hattached => ?_)
    show (s.attachRetrying network target).2 = _
    rw [Session.attachRetrying, if_pos hattached]
  | detach => exact frank_finished (befits_ok _ _)
  | step => exact frank_command s _ _ rfl
  | next => exact frank_command s _ _ rfl
  | stepOut => exact frank_command s _ _ rfl
  | resume => exact frank_command s _ _ rfl
  | resumeTo file line => exact frank_command s _ _ rfl
  | jump line => exact frank_command s _ _ rfl
  | exec statement => exact frank_command s _ _ rfl
  | eval expression => exact frank_command s _ _ rfl
  | callStack => exact frank_command s _ _ rfl
  | environment => exact frank_command s _ _ rfl
  | setBreakpoint b => exact frank_forceIfAttached _ (befits_ok _ _)
  | clearBreakpoint b =>
    apply frank_forceIfAttached
    split_ifs
    · exact befits_ok _ _
    · exact befits_of_not_fatal rfl
  | clearFile file => exact frank_forceIfAttached _ (befits_ok _ _)
  | quit => exact frank_quit s
  | interrupt => exact frank_finished (befits_interrupt s)
  | input text => exact frank_finished (befits_provideInput s text)
  | checkException => exact frank_finished (befits_checkException s)

/-- How an operation goes on with an answer that is right. -/
lemma frank_proceed {goal : Goal} (h : s.Befits answer)
    (hgoal : ∀ operation own, goal = .resumed operation (.error own) → own.isFatal = false) :
    Frank (s.proceed answer goal) := by
  cases goal with
  | value => exact frank_finished h
  | unit => exact frank_finished (h.map _)
  | thenResume =>
    cases answer with
    | ok v =>
      apply frank_askFor
      · intro operation own heq
        cases heq
      · exact fun s' err hgone => frank_fail hgone err
    | error err => exact frank_finished h
  | forced operation interrupted => exact frank_afterForced operation interrupted h
  | resumed operation own =>
    apply frank_conclude
    cases own with
    | ok v => exact befits_ok s v
    | error err => exact befits_of_not_fatal (hgoal operation err rfl)

end Session

/-! ### The reply to a command that waits -/

namespace Books

open Session

variable {b b' : Books}

/-- The reply does not deny a connection that there is. -/
def Befits (b : Books) :
    Prop := ∀ err, b.reply = some (.error err) → err.isFatal → b.table = none

lemma befits_of_table_eq_none (h : b.table = none) : b.Befits := fun _ _ _ => h

lemma befits_of_reply_eq_none (h : b.reply = none) : b.Befits := by
  intro err herr
  rw [h] at herr
  cases herr

lemma Befits.map (h : b.Befits) (f : Table → Table) :
    { b with table := b.table.map f }.Befits := by
  intro err herr hfatal
  exact congrArg (Option.map f) (h err herr hfatal)

/-- A reply that is not fatal befits every session. -/
lemma Befits.deliver (h : b.Befits) (awaited : Bool) {a : Answer}
    (ha : ∀ err, a = .error err → err.isFatal = false) : (b.deliver awaited a).Befits := by
  cases awaited with
  | false => exact h
  | true =>
    intro err herr hfatal
    have hreply : b.reply.or (some a) = some (.error err) := herr
    cases hr : b.reply with
    | some a' =>
      rw [hr, Option.some_or] at hreply
      exact h err (hr.trans hreply) hfatal
    | none =>
      rw [hr, Option.none_or, Option.some.injEq] at hreply
      rw [ha err hreply] at hfatal
      cases hfatal

lemma Befits.calm (h : b.Befits) (hcalm : Calm b b') : b'.Befits := by
  induction hcalm with
  | refl => exact h
  | close _ _ => exact befits_of_table_eq_none (table_close _)
  | skip _ ih => exact ih
  | tell method _ ih => exact ih.map _

/-- What an agent answers does not mean that there is no connection. -/
lemma not_fatal_of_resultOf {method : Method} {outcome : Except RemoteError Json}
    {err : SessionError} (h : resultOf method outcome = .error err) : err.isFatal = false := by
  simp only [resultOf] at h
  split at h
  · split_ifs at h
    cases h
    rfl
  · cases h
  · cases h
    rfl

/-- A frame brings no reply that is fatal. -/
lemma Befits.onFrame (h : b.Befits) {payload : Bytes} (hframe : OnFrame b payload b') :
    b'.Befits := by
  cases hframe with
  | @answer id outcome _ =>
    rw [answer]
    split
    · next p _ =>
        exact Befits.deliver (h.map _) p.awaited fun _ herr => not_fatal_of_resultOf herr
    · exact h.map _
  | @reject id e _ _ =>
    rw [reject]
    split
    · next p _ =>
      refine Befits.deliver (h.map _) p.awaited fun err herr => ?_
      cases herr
      rfl
    · exact h
  | calm _ hcalm => exact h.calm hcalm

lemma Befits.hears (h : b.Befits) (hears : Hears b b') : b'.Befits := by
  induction hears with
  | refl => exact h
  | calm _ hcalm ih => exact ih.calm hcalm
  | frame _ hframe ih => exact ih.onFrame hframe
  | keep _ _ ih => exact ih.map _

end Books

/-- A wait ends with what befits the session, whether it had a reply or is given up on. -/
lemma Session.befits_endWait {s : Session} (h : s.books.Befits) (n : RequestId) (m : Method) :
    (s.endWait n m).1.Befits (s.endWait n m).2 := by
  have hreply : s.books.reply = s.reply := rfl
  intro err herr hfatal
  rw [(endWait_eq s n m).1, hreply] at herr
  rw [isAttached_of_room? (room?_endWait s n m)]
  cases hr : s.reply with
  | none =>
    rw [hr] at herr
    cases herr
    cases hfatal
  | some answer =>
    rw [hr, Option.getD_some] at herr
    rw [← Bool.not_eq_true, isAttached_iff, h err (hr.trans (congrArg some herr)) hfatal]
    exact Bool.false_ne_true

/-! ### Whatever happens -/

namespace Engine

open Books Session

variable {e : Engine}

/-- The reply to the command that waits is right, and no answer is kept that denies the
connection. -/
structure Frank (e : Engine) : Prop where
  reply : ∀ n m goal, e.task = some (.answer n m goal) → e.session.books.Befits
  waiting : ∀ n m operation own, e.task = some (.answer n m (.resumed operation (.error own))) →
    own.isFatal = false

lemma frank_of_task_eq_none (h : e.task = none) : e.Frank := by
  refine ⟨fun n m goal ht => ?_, fun n m operation own ht => ?_⟩
  · rw [h] at ht
    cases ht
  · rw [h] at ht
    cases ht

/-- An engine is frank after an act that is. -/
lemma frank_after {b : Books} {r : Session × Progress} (h : Session.Frank r)
    (hleads : Leads b r) :
    (after r).1.Frank := by
  cases hleads with
  | finished _ => exact frank_of_task_eq_none rfl
  | paused _ =>
    constructor
    · intro n m goal ht
      cases ht
    · intro n m operation own ht
      cases ht
  | @asked s b' method goal _ _ hs =>
    constructor
    · intro n m goal' ht
      apply befits_of_reply_eq_none
      show s.books.reply = none
      rw [hs]
      rfl
    · intro n m operation own ht
      cases ht
      exact h.waiting _ _ _ _ rfl

/-- How the operation under way goes on once its wait is over. -/
lemma Frank.wake {task : Task} (h : e.Frank) (ht : e.task = some task) :
    Session.Frank (e.session.wake task) := by
  cases task with
  | stop pause pauses operation => exact frank_look _ _ operation
  | answer n m goal =>
    apply frank_proceed (befits_endWait (h.reply n m goal ht) n m)
    rintro operation own rfl
    exact h.waiting n m operation own ht

/-- Everything that happens keeps this. -/
lemma Frank.step (h : e.Frank) (network : Network) (input : Input) :
    (e.step network input).1.Frank := by
  cases ht : e.task with
  | none =>
    cases input with
    | start operation =>
      rw [Engine.step, Engine.start, ht]
      exact frank_after (frank_start _ _ _) (leads_start e.session network operation)
    | wake =>
      rw [Engine.step, ht]
      exact h
    | _ => exact frank_of_task_eq_none ht
  | some task =>
    -- while a command waits, only a wake ends its wait
    by_cases hwake : input = .wake
    · subst hwake
      have hfrank := h.wake ht
      rw [Engine.step, ht]
      cases task with
      | stop pause pauses operation =>
        exact frank_after hfrank (leads_look e.session pauses operation)
      | answer n m goal => exact frank_after hfrank (leads_proceed _ _ goal)
    · obtain ⟨hsame, hears⟩ := step_hears ht network hwake
      have htask : (e.step network input).1.task = e.task := by rw [hsame]
      constructor
      · intro n m goal ht'
        exact (h.reply n m goal (htask ▸ ht')).hears hears
      · intro n m operation own ht'
        exact h.waiting n m operation own (htask ▸ ht')

lemma Frank.run (h : e.Frank) (run : List (Network × Input)) : (e.run run).1.Frank := by
  induction run generalizing e with
  | nil => exact h
  | cons i run ih => exact ih (h.step i.1 i.2)

lemma after_answer {r : Session × Progress} {answer : Answer} (h : (after r).2 = some answer) :
    r.2 = .finished answer := by
  obtain ⟨s, progress⟩ := r
  cases progress <;> cases h
  rfl

/-- Whatever an operation comes to, it is right about the connection. -/
lemma Frank.befits (h : e.Frank) (network : Network) (input : Input) {answer : Answer}
    (hanswer : (e.step network input).2 = some answer) :
    (e.step network input).1.session.Befits answer := by
  have hafter : ∀ {r : Session × Progress}, Session.Frank r → (after r).2 = some answer →
      (after r).1.session.Befits answer := by
    intro r hr heq
    rw [after_session]
    exact hr.finished answer (after_answer heq)
  cases input with
  | start operation =>
    simp only [Engine.step, Engine.start] at hanswer ⊢
    split at hanswer
    · exact hafter (frank_start _ _ _) hanswer
    · split_ifs at hanswer ⊢
      exact hafter (frank_start _ _ _) hanswer
  | wake =>
    rw [Engine.step] at hanswer ⊢
    cases ht : e.task with
    | none =>
      rw [ht] at hanswer
      cases hanswer
    | some task =>
      rw [ht] at hanswer
      exact hafter (h.wake ht) hanswer
  | _ => cases hanswer

end Engine

end RemoteDebugger
