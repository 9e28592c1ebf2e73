import RemoteDebugger.Proofs.Session.FirstStop
import RemoteDebugger.Proofs.Session.Quitting
import RemoteDebugger.Proofs.Session.Stops

/-!
# Suppressed stops

A session that stops the program for an operation does not show that stop: a flag of the
connection is up from the interruption on, and the stop takes it down. But a stop that is to be
run over anyway leaves it up, and so does a line of input that takes the program back to a stop.
Either is taken for the stop that is waited for, and the flag outlives the operation.
-/

namespace RemoteDebugger

open Outlook

namespace Session

variable {s s' : Session} {payload : Bytes}

/-- Whether the next stop is not to be shown, because the session itself stops the program. -/
def suppresses (s : Session) : Bool := s.connection.any Connection.suppressNext

/-- Whether a payload tells of a stop that is to be run over, while stops are suppressed. -/
def distracts (s : Session) (payload : Bytes) : Bool :=
  s.suppresses && s.connection.any Connection.startContinue &&
    Record.isCallOf .interaction payload

/-- Whether a line of input takes the program back to a stop, while stops are suppressed. -/
def relapses (s : Session) : Bool := s.suppresses && s.inputRequest?.any (·.2 == .interacting)

/-! ### Payloads -/

lemma state_of_keeps (h : Keeps s.outlook s'.outlook) (hstate : s'.state = .interacting) :
    s.state = .interacting := by
  obtain ⟨p', hp', hi⟩ := (state_eq_iff_posture s' .interacting).mp hstate
  rcases h with hnone | ⟨-, -, p, q, hp, hq⟩
  · rw [hnone] at hp'
    cases hp'
  · rw [hq] at hp'
    cases hp'
    exact (state_eq_iff_posture s .interacting).mpr ⟨p, hp, hi⟩

/-- A payload that stops the program is a call that tells of a stop. -/
lemma isCallOf_of_move_eq_stop {location : Option Location} {mark : Option Event}
    (h : s.move payload = .stop location mark) : Record.isCallOf .interaction payload := by
  rw [move] at h
  rw [Record.isCallOf]
  cases hdecode : Record.decode payload with
  | error e =>
    rw [hdecode] at h
    cases h
  | ok r =>
    rw [hdecode] at h
    cases r with
    | response n outcome =>
      dsimp only at h
      rw [moveOfAnswer] at h
      split at h
      · split_ifs at h
      · cases h
    | notification method args kwargs => exact beq_iff_eq.mpr (of_moveOfCall_eq_stop h).1
    | request n method args kwargs => exact beq_iff_eq.mpr (of_moveOfCall_eq_stop h).1

/-- The program gets to a stop by the news of one. -/
lemma state_of_receiveFrame (hattached : s.isAttached)
    (hstop : Record.isCallOf .interaction payload = false)
    (hstate : (s.receiveFrame payload).state = .interacting) : s.state = .interacting := by
  obtain ⟨p', hp', hi⟩ := (state_eq_iff_posture _ .interacting).mp hstate
  have hmoved := (steady_receiveFrame hattached payload).eq (by rw [hp']; rfl)
  rw [hmoved] at hp'
  cases hmove : s.move payload with
  | stay =>
    rw [hmove] at hp'
    exact (state_eq_iff_posture s .interacting).mpr ⟨p', hp', hi⟩
  | run =>
    rw [hmove] at hp'
    obtain ⟨p, -, rfl⟩ := Option.map_eq_some_iff.mp hp'
    cases hi
  | block n =>
    rw [hmove] at hp'
    obtain ⟨p, -, rfl⟩ := Option.map_eq_some_iff.mp hp'
    cases hi
  | stop location mark =>
    rw [isCallOf_of_move_eq_stop hmove] at hstop
    cases hstop

/-- Only stops change whether the next one is suppressed. -/
lemma spares_suppressNext_receiveFrame (hattached : s.isAttached)
    (hstop : Record.isCallOf .interaction payload = false) :
    Spares Connection.suppressNext s (s.receiveFrame payload) := by
  cases hstartup : Record.isCallOf .startup payload with
  | false => exact spares_receiveFrame isFlag_suppressNext hattached hstartup hstop
  | true =>
    obtain ⟨id, hreceived⟩ := receiveFrame_of_startup hattached hstartup
    have hreleased : ∀ t : Session, Spares Connection.suppressNext t t.released := by
      intro t
      refine Spares.trans ?_ (spares_send isFlag_suppressNext _ (.notify .run))
      split_ifs
      · exact spares_modifyConnection fun _ => rfl
      · exact Spares.refl t
    rw [hreceived, receiveStartup_eq]
    exact ((spares_loaded isFlag_suppressNext s).trans
      (spares_respond isFlag_suppressNext _ id _)).trans
      (hreleased _)

/-- After a stop the next one is suppressed only if this one was to be, and was run over. -/
lemma suppresses_receiveInteraction {args : List Json} {kwargs : Members}
    (hup : (s.receiveInteraction args kwargs).suppresses) :
    s.suppresses ∧ s.connection.any Connection.startContinue := by
  rw [suppresses, receiveInteraction] at hup
  rw [suppresses]
  cases hc : s.connection with
  | none =>
    rw [hc] at hup
    dsimp only at hup
    rw [hc] at hup
    cases hup
  | some c =>
    rw [hc] at hup
    dsimp only at hup
    cases hstart : c.startContinue with
    | true =>
      rw [hstart, if_pos rfl] at hup
      exact ⟨(spares_tell isFlag_suppressNext _ .resume []).any hup, hstart⟩
    | false =>
      rw [hstart, if_neg Bool.false_ne_true] at hup
      by_cases hsuppress : c.suppressNext
      · rw [if_pos hsuppress] at hup
        cases hup
      · rw [if_neg hsuppress] at hup
        refine absurd ?_ hsuppress
        split_ifs at hup <;> exact hup

/-- A payload suppresses no stop. -/
lemma suppresses_of_receiveFrame (hattached : s.isAttached)
    (hup : (s.receiveFrame payload).suppresses) :
    s.suppresses := by
  cases hstop : Record.isCallOf .interaction payload with
  | false => exact (spares_suppressNext_receiveFrame hattached hstop).any hup
  | true =>
    obtain ⟨id, name, args, kwargs, hdecode, hname⟩ := Record.decode_of_isCallOf hstop
    rw [receiveFrame_of_stop hattached hdecode hname] at hup
    exact (suppresses_receiveInteraction ((spares_respond isFlag_suppressNext _ id _).any hup)).1

/-- If the next stop is suppressed, it has not come, unless it was run over. -/
lemma state_ne_of_undistracted (hattached : s.isAttached) (hnot : s.distracts payload = false)
    (h : s.suppresses → s.state ≠ .interacting) (hup : (s.receiveFrame payload).suppresses) :
    (s.receiveFrame payload).state ≠ .interacting := by
  have hbefore := suppresses_of_receiveFrame hattached hup
  cases hstop : Record.isCallOf .interaction payload with
  | false => exact fun hstate => h hbefore (state_of_receiveFrame hattached hstop hstate)
  | true =>
    obtain ⟨id, name, args, kwargs, hdecode, hname⟩ := Record.decode_of_isCallOf hstop
    rw [receiveFrame_of_stop hattached hdecode hname] at hup
    have hstart :=
      (suppresses_receiveInteraction ((spares_respond isFlag_suppressNext _ id _).any hup)).2
    rw [distracts, hbefore, hstart, hstop] at hnot
    cases hnot

/-- A stop that is run over leaves the next one suppressed. -/
lemma suppressed_of_distracts (hattached : s.isAttached) (h : s.distracts payload)
    (hstands : (s.receiveFrame payload).isAttached) :
    (s.receiveFrame payload).suppresses ∧ (s.receiveFrame payload).state = .interacting := by
  rw [distracts, Bool.and_eq_true, Bool.and_eq_true] at h
  obtain ⟨⟨hsuppress, hstart⟩, hstop⟩ := h
  obtain ⟨id, name, args, kwargs, hdecode, hname⟩ := Record.decode_of_isCallOf hstop
  rw [receiveFrame_of_stop hattached hdecode hname] at hstands ⊢
  obtain ⟨c, hc⟩ := Option.isSome_iff_exists.mp hattached
  rw [hc, Option.any_some] at hstart
  rw [suppresses, hc, Option.any_some] at hsuppress
  rw [receiveInteraction, hc] at hstands ⊢
  dsimp only at hstands ⊢
  rw [if_pos hstart] at hstands ⊢
  have hspares := fun t : Session => (spares_tell isFlag_suppressNext t .resume []).trans
    (spares_respond isFlag_suppressNext _ id (.ok .null))
  have hsteady :=
    fun t : Session => (steady_tell t .resume []).trans (steady_respond _ id (.ok .null))
  refine ⟨(hspares _).stays hsuppress hstands, ?_⟩
  rw [isAttached_iff_posture] at hstands
  exact (state_eq_iff_posture _ .interacting).mpr
    ⟨_, congrArg posture ((hsteady _).eq hstands), rfl⟩

/-! ### Lines of input -/

/-- A line of input leaves a stop suppressed only if the program does not stand. -/
lemma state_ne_of_provideInput (hnot : s.relapses = false)
    (h : s.suppresses → s.state ≠ .interacting) {text : String}
    (hup : (s.provideInput text).1.suppresses) :
    (s.provideInput text).1.state ≠ .interacting := by
  intro hstate
  have hbefore : s.suppresses := (spares_provideInput isFlag_suppressNext s text).any hup
  obtain ⟨p', hp', hi⟩ := (state_eq_iff_posture _ .interacting).mp hstate
  have hanswered := (steady_provideInput s text).eq (by rw [hp']; rfl)
  rw [hanswered] at hp'
  obtain ⟨p, hp, rfl⟩ := Option.map_eq_some_iff.mp hp'
  cases hr : p.inputRequest with
  | none =>
    rw [hr] at hi
    exact h hbefore ((state_eq_iff_posture s .interacting).mpr ⟨p, hp, hi⟩)
  | some request =>
    rw [hr] at hi
    rw [relapses, hbefore, inputRequest?_eq, hp, Option.bind_some, hr, Option.any_some,
      Bool.true_and] at hnot
    exact beq_eq_false_iff_ne.mp hnot hi

/-- A line of input that takes the program back to a stop leaves the next one suppressed. -/
lemma suppressed_of_relapses (h : s.relapses) {text : String}
    (hstands : (s.provideInput text).1.isAttached) :
    (s.provideInput text).1.suppresses ∧ (s.provideInput text).1.state = .interacting := by
  rw [relapses, Bool.and_eq_true, Option.any_eq_true] at h
  obtain ⟨hsuppress, request, hr, hi⟩ := h
  refine ⟨(spares_provideInput isFlag_suppressNext s text).stays hsuppress hstands, ?_⟩
  rw [inputRequest?_eq] at hr
  obtain ⟨p, hp, hr⟩ := Option.bind_eq_some_iff.mp hr
  rw [isAttached_iff_posture] at hstands
  refine (state_eq_iff_posture _ .interacting).mpr
    ⟨{ p with interaction := request.2, inputRequest := none }, ?_, beq_iff_eq.mp hi⟩
  rw [(steady_provideInput s text).eq hstands, answer, hp, Option.map_some, hr]

end Session

namespace Engine

open Session

variable {e : Engine} {input : Input}

/-! ### Whoever suppresses a stop waits for it -/

/-- Stops are suppressed only while an operation waits for one, and none has come. -/
def Expects (e : Engine) : Prop :=
  e.session.suppresses → e.isPausing ∧ e.session.state ≠ .interacting

lemma exists_of_isPausing (h : e.isPausing) :
    ∃ pause pauses operation, e.task = some (.stop pause pauses operation) := by
  rw [isPausing] at h
  split at h
  · next pause pauses operation ht => exact ⟨pause, pauses, operation, ht⟩
  · cases h

lemma expects_of_not_suppresses (h : ¬ e.session.suppresses) :
    e.Expects := fun hup => absurd hup h

/-- An act that leaves the flag down expects nothing. -/
lemma expects_after_of_spares {s : Session} {r : Session × Progress} (h : ¬ s.suppresses)
    (hspares : Spares Connection.suppressNext s r.1) : (after r).1.Expects := by
  apply expects_of_not_suppresses
  rw [after_session]
  exact fun hup => h (hspares.any hup)

lemma not_suppresses_showNext (s : Session) : ¬ s.showNext.suppresses := by
  rw [suppresses, showNext, modifyConnection]
  cases s.connection <;> exact Bool.false_ne_true

/-- A look leaves the flag up only if the session looks again while the program runs. -/
lemma expects_look {s : Session} (h : s.suppresses → s.state ≠ .interacting) (pauses : Pauses)
    (operation : Forced) : (after (s.look pauses operation)).1.Expects := by
  have hgiveUp : ∀ answer, (after (s.showNext.conclude operation answer)).1.Expects := by
    intro answer
    exact expects_after_of_spares (not_suppresses_showNext s)
      (spares_conclude isFlag_suppressNext _ operation answer)
  rw [look]
  split
  · next hstate =>
    exact expects_after_of_spares (fun hup => h hup hstate)
      (spares_carryOut isFlag_suppressNext s operation true)
  · next hstate =>
    have hgone : ¬ s.suppresses := by
      have hdetached := isAttached_eq_state s
      rw [hstate] at hdetached
      rw [suppresses, connection_of_detached (Bool.eq_false_iff.mp hdetached)]
      exact Bool.false_ne_true
    exact expects_after_of_spares hgone (spares_conclude isFlag_suppressNext s operation _)
  · exact hgiveUp _
  · next hstate =>
    split
    · -- the session looks again later, and the program runs until then
      refine fun _ => ⟨rfl, ?_⟩
      show s.state ≠ .interacting
      rw [hstate]
      exact SessionState.noConfusion
    · exact hgiveUp _

/-- A forced operation puts the flag up as it begins to look. -/
lemma expects_force {s : Session} (h : ¬ s.suppresses) (operation : Forced) :
    (after (s.force operation)).1.Expects := by
  rw [force]
  split
  · exact expects_after_of_spares h (spares_conclude isFlag_suppressNext s operation _)
  · exact expects_after_of_spares h (spares_conclude isFlag_suppressNext s operation _)
  · exact expects_after_of_spares h (spares_carryOut isFlag_suppressNext s operation false)
  · next hstate =>
    have hsteady :=
      steady_send (s.modifyConnection ({ · with suppressNext := true })) (.notify .interrupt)
    have hsame : (s.modifyConnection ({ · with suppressNext := true })).state = s.state :=
      state_modifyConnection fun _ => rfl
    split
    · next s' hs' =>
      rw [hs'] at hsteady
      -- the flag is up from here on, but to write an interruption stops nothing by itself
      refine expects_look (fun _ hstops => ?_) _ operation
      have hstopped := state_of_keeps hsteady.keeps hstops
      rw [hsame, hstate] at hstopped
      cases hstopped
    · next s' e hs' =>
      exact expects_after_of_spares (not_suppresses_showNext s')
        (spares_conclude isFlag_suppressNext _ operation _)

/-- Only a forced operation puts the flag up as it begins. -/
lemma expects_start {s : Session} (h : ¬ s.suppresses) (network : Network)
    (operation : Operation) :
    (after (s.start network operation)).1.Expects := by
  have hcommand := fun m args goal =>
    expects_after_of_spares h (spares_command isFlag_suppressNext s m args goal)
  have hforced : ∀ (s' : Session) operation detached, ¬ s'.suppresses →
      (after (s'.forceIfAttached operation detached)).1.Expects := by
    intro s' operation detached h'
    rw [forceIfAttached]
    split_ifs
    · exact expects_force h' operation
    · exact expects_of_not_suppresses h'
  have hattaches : ∀ r, s.Attaches r → (after (done r)).1.Expects := by
    rintro r (⟨-, heq⟩ | ⟨-, -, remote, heq⟩)
    · refine expects_after_of_spares h ?_
      exact Spares.of_eq (congrArg connection heq)
    · apply expects_of_not_suppresses
      rw [after_session]
      show ¬ r.1.suppresses
      rw [heq]
      exact Bool.false_ne_true
  cases operation with
  | attach target => exact hattaches _ (attaches_attach s network target)
  | attachRetrying target => exact hattaches _ (attaches_attachRetrying s network target)
  | detach => exact expects_after_of_spares h (spares_detach s)
  | step => exact hcommand _ _ _
  | next => exact hcommand _ _ _
  | stepOut => exact hcommand _ _ _
  | resume => exact hcommand _ _ _
  | resumeTo file line => exact hcommand _ _ _
  | jump line => exact hcommand _ _ _
  | exec statement => exact hcommand _ _ _
  | eval expression => exact hcommand _ _ _
  | callStack => exact hcommand _ _ _
  | environment => exact hcommand _ _ _
  | setBreakpoint b =>
    show (after (s.setBreakpoint b)).1.Expects
    rw [setBreakpoint]
    split_ifs
    · exact hforced s _ _ h
    · exact hforced { s with breakpoints := s.breakpoints.insert b } _ _ h
  | clearBreakpoint b => exact hforced { s with breakpoints := s.breakpoints.erase b.key } _ _ h
  | clearFile file =>
    exact hforced { s with
      breakpoints :=
        (s.breakpoints.removeFile (FileName.canonical s.config.directory file)).2 } _ _ h
  | quit =>
    show (after s.quit).1.Expects
    rw [quit]
    split
    · exact expects_of_not_suppresses h
    · next c hc =>
      refine expects_force ?_ _
      rw [suppresses, hc] at h
      exact h
  | interrupt => exact expects_after_of_spares h (spares_interrupt isFlag_suppressNext s)
  | input text =>
    exact expects_after_of_spares h (spares_provideInput isFlag_suppressNext s text)
  | checkException => exact expects_of_not_suppresses h

/-! ### Runs -/

/-- Whether something that happens is a line of input. -/
def isLine : Input → Bool
  | .start (.input _) => true
  | _                 => false

/-- While a stop is suppressed, none is run over, and no line of input takes the program back to
one. -/
def Undistracted (e : Engine) (input : Input) : Prop :=
  (∀ m ∈ e.meetings input, m.1.distracts m.2 = false) ∧
    (isLine input → e.session.relapses = false)

instance (e : Engine) (input : Input) : Decidable (e.Undistracted input) :=
  inferInstanceAs (Decidable (_ ∧ _))

lemma Expects.keeps (h : e.Expects) {s : Session}
    (hspares : Spares Connection.suppressNext e.session s)
    (hkeeps : Keeps e.session.outlook s.outlook) : Expects { session := s, task := e.task } := by
  intro hup
  obtain ⟨htask, hstate⟩ := h (hspares.any hup)
  exact ⟨htask, fun hstops => hstate (state_of_keeps hkeeps hstops)⟩

lemma Expects.detach (h : e.Expects) : Expects { session := e.session.detach, task := e.task } :=
  h.keeps (spares_detach e.session) (stable_keeps.detach e.session)

lemma Expects.modify (h : e.Expects) {f : Connection → Connection}
    (hflag : ∀ c, (f c).suppressNext = c.suppressNext)
    (hposture : ∀ c, (f c).posture = c.posture) :
    Expects { session := e.session.modifyConnection f, task := e.task } :=
  h.keeps (spares_modifyConnection hflag) (keeps_of_eq (outlook_modifyConnection_of_eq hposture))

lemma Expects.wake (h : e.Expects) (network : Network) : (e.step network .wake).1.Expects := by
  rw [step]
  cases ht : e.task with
  | none => exact h
  | some task =>
    dsimp only
    cases task with
    | stop pause pauses operation => exact expects_look (fun hup => (h hup).2) pauses operation
    | answer id m goal =>
      have hdown : ¬ e.session.suppresses := by
        intro hup
        have hwaits := (h hup).1
        rw [isPausing, ht] at hwaits
        cases hwaits
      exact expects_after_of_spares hdown
        ((spares_endWait isFlag_suppressNext _ id m).trans
          (spares_proceed isFlag_suppressNext _ _ goal))

/-- Over an input that does not distract, the flag is up only while the session looks for a
stop. -/
lemma Expects.step (h : e.Expects) (network : Network) (hinput : e.Undistracted input) :
    (e.step network input).1.Expects := by
  cases input with
  | start operation =>
    rcases step_start_cases e network operation with ⟨hidle, heq⟩ | ⟨hfree, heq⟩ | ⟨-, heq⟩
    · rw [heq]
      refine expects_start (fun hup => ?_) network operation
      have hwaits := (h hup).1
      rw [isPausing, hidle] at hwaits
      cases hwaits
    · rw [heq]
      cases operation with
      | detach => exact h.detach
      | interrupt =>
        exact h.keeps (spares_interrupt isFlag_suppressNext _)
          (stable_keeps.firm.interrupt e.session)
      | input text =>
        intro hup
        have hbefore := (spares_provideInput isFlag_suppressNext e.session text).any hup
        exact ⟨(h hbefore).1, state_ne_of_provideInput (hinput.2 rfl) (fun hs => (h hs).2) hup⟩
      | checkException => exact h
      | _ => cases hfree
    · rw [heq]
      exact h
  | bytes bytes =>
    refine receiveBytes_induct
      (P := fun s => Expects { session := s, task := e.task }) ?_ ?_ ?_ h
    · exact fun s inbox hs => hs.modify (fun _ => rfl) fun _ => rfl
    · exact fun s hs => hs.detach
    · intro m hm hs hup
      have hmeets : m ∈ e.meetings (.bytes bytes) := hm
      have hattached := isAttached_of_mem_meetings hmeets
      have hbefore := suppresses_of_receiveFrame hattached hup
      exact ⟨(hs hbefore).1,
        state_ne_of_undistracted hattached (hinput.1 m hm) (fun hm => (hs hm).2) hup⟩
  | endOfStream => exact h.detach
  | frameTimeout =>
    show Expects { session := e.session.expireFrame, task := e.task }
    rw [expireFrame]
    split_ifs
    · exact h.detach
    · exact h
  | wake => exact h.wake network
  | room room => exact h.modify (fun _ => rfl) fun _ => rfl

/-- No stop is suppressed but those that operations wait for. -/
lemma Expects.run {run : List (Network × Input)} (h : e.Expects)
    (hrun : e.Always Undistracted run) :
    (e.run run).1.Expects :=
  run_induct (fun _ network _ he hinput => he.step network hinput) h hrun

/-- While no operation is under way for it, no stop is suppressed. -/
lemma Expects.not_suppresses (h : e.Expects) (hidle : e.task.bind Task.operation? = none) :
    ¬ e.session.suppresses := by
  intro hup
  obtain ⟨pause, pauses, operation, hstop⟩ := exists_of_isPausing (h hup).1
  rw [hstop] at hidle
  cases hidle

lemma spares_between (s : Session) : Spares Connection.suppressNext s s.between :=
  spares_modifyConnection fun _ => rfl

/-- A stop that is suppressed at a payload was to be so before. -/
lemma suppresses_of_mem_meetings {m : Session × Bytes} (hm : m ∈ e.meetings input)
    (hup : m.1.suppresses) :
    e.session.suppresses := by
  obtain ⟨ps, hps⟩ := meetings_eq_between e input
  rw [hps] at hm
  refine meetings_induct (P := fun s => s.suppresses → e.session.suppresses) ?_ ?_ m hm hup
  · exact fun s p hattached hs hup => hs (suppresses_of_receiveFrame hattached hup)
  · exact (spares_between e.session).any

/-! ### Stops that stay suppressed -/

/-- No operation begins, and the program does not stop. -/
def Uneventful (e : Engine) (input : Input) : Prop :=
  e.begun? input = none ∧ ∀ m ∈ e.meetings input, Record.isCallOf .interaction m.2 = false

instance (e : Engine) (input : Input) : Decidable (e.Uneventful input) :=
  inferInstanceAs (Decidable (_ ∧ _))

/-- The next stop is suppressed, if the connection stands, and nobody waits for one. -/
structure Lingers (e : Engine) : Prop where
  waits : e.waits ≤ 2
  suppresses : e.session.isAttached → e.session.suppresses

/-- An operation that takes a stop for the one it waited for leaves the next one suppressed. -/
lemma lingers_of_look {s : Session} (hstate : s.state = .interacting) (hup : s.suppresses)
    (pauses : Pauses) (operation : Forced) : (after (s.look pauses operation)).1.Lingers := by
  have hlook : s.look pauses operation = s.carryOut operation true := by rw [look, hstate]
  rw [hlook]
  constructor
  · rw [waits_after]
    exact waits_carryOut s operation true
  · rw [after_session]
    exact (spares_carryOut isFlag_suppressNext s operation true).lasts fun _ => hup

/-- An operation whose stop was run over ends with the flag still up. -/
lemma Lingers.wake (h : e.Lingers) (network : Network) : (e.step network .wake).1.Lingers := by
  cases ht : e.task with
  | none =>
    rw [step, ht]
    exact h
  | some task =>
    have hless := waits_step (by rw [ht]; rfl) network .wake
    refine ⟨Nat.le_trans (Nat.le_of_add_right_le hless) h.waits, ?_⟩
    rw [step, ht]
    dsimp only
    rw [after_session]
    cases task with
    | stop pause pauses operation =>
      -- who waits for a stop has at least three waits to come
      have hmany : pauses.left + 3 ≤ 2 := by
        have hwaits := h.waits
        rw [Engine.waits, ht] at hwaits
        exact hwaits
      omega
    | answer id m goal =>
      have hspares := (spares_endWait isFlag_suppressNext e.session id m).trans
        (spares_proceed isFlag_suppressNext _ (e.session.endWait id m).2 goal)
      exact hspares.lasts h.suppresses

/-- The flag stays up over whatever is no event of the program. -/
lemma Lingers.step (h : e.Lingers) (network : Network) (hinput : e.Uneventful input) :
    (e.step network input).1.Lingers := by
  cases input with
  | start operation =>
    have hbegins : e.begins operation = false := by
      have hnone := hinput.1
      rw [begun?] at hnone
      split_ifs at hnone with hbegins
      exact Bool.eq_false_iff.mpr hbegins
    rw [step_of_not_begins hbegins]
    exact h
  | bytes bytes =>
    refine ⟨h.waits, ?_⟩
    refine receiveBytes_induct (P := fun s => s.isAttached → s.suppresses) ?_ ?_ ?_ h.suppresses
    · intro s inbox
      have hkeeps : Spares Connection.suppressNext s (s.modifyConnection ({ · with inbox })) :=
        spares_modifyConnection fun _ => rfl
      exact hkeeps.lasts
    · exact fun s => (spares_detach s).lasts
    · intro m hm
      have hmeets : m ∈ e.meetings (.bytes bytes) := hm
      exact (spares_suppressNext_receiveFrame (isAttached_of_mem_meetings hmeets)
        (hinput.2 m hm)).lasts
  | endOfStream => exact ⟨h.waits, (spares_detach e.session).lasts h.suppresses⟩
  | frameTimeout =>
    refine ⟨h.waits, ?_⟩
    show e.session.expireFrame.isAttached → e.session.expireFrame.suppresses
    rw [expireFrame]
    split_ifs
    · exact (spares_detach e.session).lasts h.suppresses
    · exact h.suppresses
  | wake => exact h.wake network
  | room room =>
    refine ⟨h.waits, ?_⟩
    have hkeeps : Spares Connection.suppressNext e.session
        (e.session.modifyConnection ({ · with room })) :=
      spares_modifyConnection fun _ => rfl
    exact hkeeps.lasts h.suppresses

lemma Lingers.run {run : List (Network × Input)} (h : e.Lingers)
    (hrun : e.Always Uneventful run) :
    (e.run run).1.Lingers :=
  run_induct (fun _ network _ he hinput => he.step network hinput) h hrun

/-- The first payload is met as the session stands between two frames. -/
lemma eq_between_of_meetings_eq {s : Session} {payload : Bytes} {after : List (Session × Bytes)}
    (hmet : e.meetings input = (s, payload) :: after) : s = e.session.between := by
  obtain ⟨ps, hps⟩ := meetings_eq_between e input
  rw [hps] at hmet
  cases ps with
  | nil => cases hmet
  | cons p ps =>
    rw [Session.meetings] at hmet
    split_ifs at hmet
    cases hmet
    rfl

/-- If no stop is run over, and no line of input takes the program back to one, while a stop is
suppressed, then stops are suppressed only for the operations that wait for them: otherwise a
stop in a file is shown, unless it is to be run over as the first one. But either of these leaves
the next stop suppressed. An operation that takes it for the one that it waited for does so too,
and the next stop is not shown, although nobody waits for it. -/
theorem suppression_over (config : SessionConfig) (run : List (Network × Input)) :
    let fresh : Engine := { session := { config } }
    let e := (fresh.run run).1
    (fresh.Always Undistracted run → e.task.bind Task.operation? = none →
      ¬ e.session.suppresses ∧
        ∀ input before s payload after id name args kwargs,
          e.meetings input = before ++ (s, payload) :: after →
          Record.decode payload = .ok (.call id name args kwargs) →
            Method.ofName? name = some .interaction →
          FileName.isPseudo (argText args 0) = false →
          ¬ (config.runWithoutPausing ∧ IsStarting (fresh.journal run ++ incidentsIn before)) →
          (s.receiveFrame payload).events.queued = s.events.queued
            ++ [.markLine (argText args 0) (argLine args 1) (contextOf args kwargs)]
            ++ if (s.receiveFrame payload).isAttached then [] else [.clearInteraction]) ∧
      (∀ (s : Session) payload, s.isAttached → s.distracts payload →
        (s.receiveFrame payload).isAttached →
        (s.receiveFrame payload).suppresses ∧ (s.receiveFrame payload).state = .interacting) ∧
      (∀ (s : Session) text, s.relapses → (s.provideInput text).1.isAttached →
        (s.provideInput text).1.suppresses ∧ (s.provideInput text).1.state = .interacting) ∧
      ∀ (e : Engine) network later input s payload after,
        e.isPausing → e.session.suppresses → e.session.state = .interacting →
        (e.step network .wake).1.Always Uneventful later →
        ((e.step network .wake).1.run later).1.meetings input = (s, payload) :: after →
        Record.isCallOf .interaction payload → ¬ s.connection.any Connection.startContinue →
        (s.receiveFrame payload).events.queued
          = s.events.queued ++ if (s.receiveFrame payload).isAttached then []
            else [.clearInteraction] := by
  intro fresh e
  refine ⟨fun hrun hidle => ?_, fun s payload => suppressed_of_distracts,
    fun s text hrelapses => suppressed_of_relapses hrelapses, ?_⟩
  · -- without distractions the flag is down, so that the stop is shown
    have hexpects : e.Expects := Expects.run (e := fresh) nofun hrun
    have hdown := hexpects.not_suppresses hidle
    refine ⟨hdown, ?_⟩
    intro input before s payload after id name args kwargs hmet hdecode hname hfile hnotFirst
    have hmem : (s, payload) ∈ e.meetings input :=
      hmet ▸ List.mem_append_right before List.mem_cons_self
    have hattached : s.isAttached := isAttached_of_mem_meetings hmem
    have hawaits := awaits_of_meetings_eq hmet
    have hstart : ¬ s.connection.any Connection.startContinue :=
      fun hup => hnotFirst ((hawaits.2 hattached).mp hup)
    have hsuppress : ¬ s.connection.any Connection.suppressNext := fun hup =>
      hdown (suppresses_of_mem_meetings hmem hup)
    exact events_receiveFrame_of_stop hattached hdecode hname
      (moveOfStop_of_shown hstart hsuppress kwargs hfile)
  · -- the flag is still up as the wait ends, and nothing takes it down
    intro e network later input s payload after hwaits hup hstate hlater hmet hstop hstart
    obtain ⟨pause, pauses, operation, ht⟩ := exists_of_isPausing hwaits
    have hlingers : (e.step network .wake).1.Lingers := by
      rw [step, ht]
      exact lingers_of_look hstate hup pauses operation
    have hattached : s.isAttached := isAttached_of_mem_meetings (hmet ▸ List.mem_cons_self)
    have hsuppresses : s.connection.any Connection.suppressNext := by
      rw [eq_between_of_meetings_eq hmet] at hattached ⊢
      exact (spares_between _).lasts (hlingers.run hlater).suppresses hattached
    obtain ⟨id, name, args, kwargs, hdecode, hname⟩ := Record.decode_of_isCallOf hstop
    obtain ⟨location, hmove⟩ := moveOfStop_of_hidden (.inr hsuppresses) args kwargs
    rw [events_receiveFrame_of_stop hattached hdecode hname hmove, Option.toList_none,
      List.append_nil]

/-- A session that runs without pausing sets a breakpoint before the program stops for the first
time. -/
def breakingEarly : List (Network × Input) :=
  [(fun _ _ => .ok (), .start (.attach {})),
    (Network.nowhere, .bytes (Frame.encode announcement)),
    (Network.nowhere, .start (.setBreakpoint (Breakpoint.build "/" "a.py" (some 20) false))),
      stopAt 1]

/-- The breakpoint is set, and the program runs on. -/
def settling : List (Network × Input) :=
  [answering 3 (.ok .null), (Network.nowhere, .wake), answering 4 (.ok .null),
    (Network.nowhere, .wake)]

/-- A breakpoint is set on a program that was stopped for it, and the stop there is shown. If the
program is to run over its first stop, and was stopped for the breakpoint before it came to one,
the stop there is not shown. -/
theorem suppression_over_breaking :
    let e := (Engine.run { session := { config := {} } } (breaking.take 8)).1
    let shown := e.session.between.receiveFrame (stopNews 20)
    let e' :=
      (Engine.run { session := { config := { runWithoutPausing := true } } } breakingEarly).1
    let s' := ((e'.step Network.nowhere .wake).1.run settling).1.session.between
    ¬ e.session.suppresses ∧
      shown.events.queued = e.session.between.events.queued ++
        [.markLine "a.py" 20 (.object [])] ∧
      (s'.receiveFrame (stopNews 20)).events.queued = s'.events.queued := by
  intro e shown e' s'
  have hmeet : ∀ e : Engine, e.inbox? = some [] →
      e.meetings (.bytes ([stopNews 20].flatMap Frame.encode))
        = [(e.session.between, stopNews 20)] := by
    intro e hinbox
    obtain ⟨c, hc, -⟩ := Option.map_eq_some_iff.mp hinbox
    have hattached : e.session.between.isAttached :=
      (isAttached_modifyConnection e.session _).trans (congrArg Option.isSome hc)
    rw [meetings_frames hinbox (by decide +kernel), meetings_cons hattached]
    rfl
  have hcalm : Always Undistracted { session := { config := {} } } (breaking.take 8) ∧
      e.task.bind Task.operation? = none ∧ e.inbox? = some [] ∧ shown.isAttached := by
    decide +kernel
  obtain ⟨hrun, hidle, hinbox, hstands⟩ := hcalm
  have hdecode : Record.decode (stopNews 20)
      = .ok (.call none "interaction" [.string "a.py", Json.nat 20, .string "x"] []) := by
    decide +kernel
  have hfar : e'.isPausing ∧ e'.session.suppresses ∧ e'.session.state = .interacting ∧
      (e'.step Network.nowhere .wake).1.Always Uneventful settling ∧
      ((e'.step Network.nowhere .wake).1.run settling).1.inbox? = some [] ∧
      ¬ s'.connection.any Connection.startContinue ∧
        (s'.receiveFrame (stopNews 20)).isAttached := by decide +kernel
  obtain ⟨hwaits, hup, hstate, hlater, hinbox', hstart, hstands'⟩ := hfar
  obtain ⟨hshows, -, -, -⟩ := suppression_over {} (breaking.take 8)
  obtain ⟨-, -, -, hhides⟩ := suppression_over { runWithoutPausing := true } breakingEarly
  obtain ⟨hdown, hshown⟩ := hshows hrun hidle
  refine ⟨hdown, ?_, ?_⟩
  · have hnews := hshown _ [] _ _ [] _ _ _ _ (hmeet e hinbox) hdecode
      (by decide) (by decide) nofun
    rw [if_pos hstands, List.append_nil] at hnews
    exact hnews
  · have hnews := hhides e' Network.nowhere settling _ _ _ [] hwaits hup hstate hlater
      (hmeet _ hinbox') (by decide +kernel) hstart
    rw [if_pos hstands', List.append_nil] at hnews
    exact hnews

/-- A stop that nobody waits for is not shown, although an earlier one was run over as the first
one. -/
theorem suppression_outlives_command :
    let e :=
      ((Engine.run { session := { config := { runWithoutPausing := true } } }
        breakingEarly).1.run
      ((Network.nowhere, .wake) :: settling)).1
    let e' := (e.run [stopAt 20]).1
    e.task = none ∧ e.session.suppresses ∧ ¬ e.session.connection.any Connection.startContinue ∧
      e'.session.state = .interacting ∧ e'.session.location = some ⟨"a.py", 20, "x"⟩ ∧
      e'.session.events.queued = e.session.events.queued := by
  decide +kernel

end Engine

end RemoteDebugger
