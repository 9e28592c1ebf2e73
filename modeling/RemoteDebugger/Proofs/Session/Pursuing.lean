import RemoteDebugger.Proofs.Session.Chronicle
import RemoteDebugger.Proofs.Session.Correlation
import RemoteDebugger.Proofs.Session.Fatality
import RemoteDebugger.Proofs.Session.Performing
import RemoteDebugger.Proofs.Session.Stops
import RemoteDebugger.Proofs.Session.Streaming

/-!
# While an operation is under way

As long as the user is quitting, the operation that ends the program is under way. While any
operation is, nobody begins to quit and no connection begins, and the answer that is waited for
comes with a payload or not at all.
-/

namespace RemoteDebugger

open Books

/-! ### Who is quitting -/

namespace Session

open Outlook

variable {s s' : Session}

lemma isAttached_of_quitting? {n : Nat} (h : s.quitting? = some n) : s.isAttached := by
  obtain ⟨c, hc, -⟩ := Option.bind_eq_some_iff.mp h
  rw [isAttached, hc]
  rfl

/-- Nobody begins or ends to quit while nothing changes but how the program stands. -/
lemma quitting?_of_steady {o : Outlook} (h : Steady o s'.outlook) (hattached : s'.isAttached)
    (ho : (o.posture.bind fun p => if p.quitting then some p.epoch else none) = s.quitting?) :
    s'.quitting? = s.quitting? := by
  rw [quitting?_eq, h.eq (isAttached_iff_posture.mp hattached), ho]

/-- Whatever the program does, the user goes on quitting or does not. -/
lemma quitting?_after (s : Session) (m : Move) : ((s.outlook.after m).posture.bind fun p =>
    if p.quitting then some p.epoch else none) = s.quitting? := by
  rw [quitting?_eq]
  cases m <;> cases ho : s.outlook.posture <;> simp [Outlook.after, ho]

lemma quitting?_answer (s : Session) : (s.outlook.answer.posture.bind fun p =>
    if p.quitting then some p.epoch else none) = s.quitting? := by
  rw [quitting?_eq, Outlook.answer]
  cases ho : s.outlook.posture with
  | none => rfl
  | some p => cases hr : p.inputRequest <;> simp [hr]

lemma quitting?_modifyConnection {f : Connection → Connection}
    (h : ∀ c, (f c).posture = c.posture) :
    (s.modifyConnection f).quitting? = s.quitting? := by
  rw [quitting?_eq, quitting?_eq, outlook_modifyConnection_of_eq h]

lemma quitting?_relent (s : Session) :
    (s.modifyConnection ({ · with quitting := false })).quitting? = none := by
  rw [quitting?, modifyConnection]
  cases s.connection <;> rfl

/-- Without exclusive operations, nobody begins or ends to quit. -/
lemma quitting?_start (s : Session) (network : Network) {operation : Operation}
    (h : operation.isExclusive = false) (hattached : (s.start network operation).1.isAttached) :
    (s.start network operation).1.quitting? = s.quitting? := by
  have hrefl : (s.outlook.posture.bind fun p => if p.quitting then some p.epoch else none)
      = s.quitting? :=
    (quitting?_eq s).symm
  cases operation with
  | detach =>
    have hgone : (s.start network .detach).1.isAttached = false := isAttached_detach s
    rw [hgone] at hattached
    cases hattached
  | interrupt =>
    have hsteady : Steady s.outlook s.interrupt.1.outlook := by
      rw [interrupt]
      cases s.state with
      | running => exact steady_send s _
      | _ => exact Steady.refl _
    exact quitting?_of_steady hsteady hattached hrefl
  | input text =>
    exact quitting?_of_steady (steady_provideInput s text) hattached (quitting?_answer s)
  | checkException => rfl
  | _ => cases h

end Session

namespace Engine

open Session Outlook

variable {e : Engine} {network : Network} {input : Input}

/-- As long as the connection stands, nobody begins or ends to quit but when an exclusive
operation begins and when a wait is over. -/
lemma quitting?_step (hstart : ∀ operation, input = .start operation → e.task.isSome)
    (hwake : input = .wake → e.task = none)
    (hattached : (e.step network input).1.session.isAttached) :
    (e.step network input).1.session.quitting? = e.session.quitting? := by
  cases input with
  | start operation =>
    rcases step_start_cases e network operation with ⟨hnone, -⟩ | ⟨hexclusive, heq⟩ | ⟨-, heq⟩
    · have hbusy := hstart operation rfl
      rw [hnone] at hbusy
      cases hbusy
    · rw [heq] at hattached ⊢
      exact quitting?_start e.session network hexclusive hattached
    · rw [heq]
  | bytes bytes =>
    refine receiveBytes_induct
      (P := fun s => s.isAttached → s.quitting? = e.session.quitting?) ?_ ?_ ?_
      (fun _ => rfl) hattached
    · intro s inbox hs hs'
      rw [isAttached_modifyConnection] at hs'
      rw [← hs hs']
      exact quitting?_modifyConnection fun _ => rfl
    · intro s _ hs'
      rw [isAttached_detach] at hs'
      cases hs'
    · intro m hm hs hs'
      have hmeets : m ∈ e.meetings (.bytes bytes) := hm
      have hstands := isAttached_of_mem_meetings hmeets
      rw [← hs hstands]
      exact quitting?_of_steady (steady_receiveFrame hstands m.2) hs' (quitting?_after m.1 _)
  | endOfStream =>
    have hgone : (e.step network .endOfStream).1.session.isAttached = false :=
      isAttached_detach _
    rw [hgone] at hattached
    cases hattached
  | frameTimeout =>
    have hexpired : (e.step network .frameTimeout).1.session = e.session.expireFrame := rfl
    rw [hexpired, expireFrame] at hattached ⊢
    split_ifs at hattached ⊢
    · rw [isAttached_detach] at hattached
      cases hattached
    · rfl
  | wake => rw [step, hwake rfl]
  | room room => exact quitting?_modifyConnection fun _ => rfl

/-- If the user is quitting, the operation that ends the program is under way. -/
def Pursuing (e : Engine) : Prop :=
  ∀ n, e.session.quitting? = some n → ∃ t, e.task = some t ∧ t.operation? = some (.quit n)

/-- Where nobody is quitting there is nothing to be pursued. -/
lemma pursuing_of_quitting?_eq_none (h : e.session.quitting? = none) : e.Pursuing := by
  intro n hn
  rw [h] at hn
  cases hn

/-- While no operation is under way, nobody is quitting. -/
lemma Pursuing.quitting?_of_idle (h : e.Pursuing) (hidle : e.task = none) :
    e.session.quitting? = none := by
  cases hq : e.session.quitting? with
  | none => rfl
  | some n =>
    obtain ⟨t, ht, -⟩ := h n hq
    rw [hidle] at ht
    cases ht

lemma pursuing_after {r : Session × Progress} (h : ∀ n, r.1.quitting? = some n → Pursues n r) :
    Pursuing (after r).1 := by
  intro n hn
  rw [after_session] at hn
  obtain ⟨t, ht, hop⟩ := h n hn hn
  exact ⟨t, after_task ht, hop⟩

/-- Only the operation that quits sets about to quit. -/
lemma pursuing_start (h : e.session.quitting? = none) (network : Network)
    (operation : Operation) :
    Pursuing (after (e.session.start network operation)).1 := by
  have hplain : ∀ {r : Session × Progress}, Retains e.session r.1 → Pursuing (after r).1 := by
    intro r hretains
    apply pursuing_of_quitting?_eq_none
    rw [after_session]
    cases hq : r.1.quitting? with
    | none => rfl
    | some n =>
      rw [hretains.quitting? hq] at h
      cases h
  have hattaches : ∀ {r : Session × Answer}, e.session.Attaches r →
      Pursuing (after (done r)).1 := by
    rintro r (⟨-, heq⟩ | ⟨-, -, remote, heq⟩)
    · exact hplain (Retains.of_eq (congrArg Session.connection heq))
    · apply pursuing_of_quitting?_eq_none
      rw [after_session]
      show r.1.quitting? = none
      rw [heq]
      rfl
  cases operation with
  | attach target => exact hattaches (attaches_attach e.session network target)
  | attachRetrying target => exact hattaches (attaches_attachRetrying e.session network target)
  | quit =>
    apply pursuing_after
    show ∀ n, e.session.quit.1.quitting? = some n → Pursues n e.session.quit
    intro n hn
    cases hc : e.session.connection with
    | none =>
      have hfail : e.session.quit = e.session.fail .notAttached := by rw [quit, hc]
      rw [hfail] at hn
      rw [show (e.session.fail .notAttached).1 = e.session from rfl, h] at hn
      cases hn
    | some c =>
      have hquit : e.session.quit
          = { e.session with connection := some { c with quitting := true } }.force
            (.quit c.epoch) := by
        rw [quit, hc]
      rw [hquit] at hn ⊢
      have hepoch : some c.epoch = some n :=
        (stable_retains.firm.force
          { e.session with connection := some { c with quitting := true } }
          (.quit c.epoch)).quitting? hn
      cases hepoch
      exact pursues_force _ c.epoch
  | input text => exact hplain (retains_provideInput e.session text)
  | _ => exact hplain (stable_retains.start e.session network rfl)

/-- A wait that is over leaves the user quitting only if the operation goes on. -/
lemma Pursuing.wake (h : e.Pursuing) {task : Task} (ht : e.task = some task) :
    Pursuing (after (e.session.wake task)).1 := by
  have hop : ∀ n, e.session.quitting? = some n → task.operation? = some (.quit n) := by
    intro n hn
    obtain ⟨t, ht', hop⟩ := h n hn
    rw [ht] at ht'
    cases ht'
    exact hop
  apply pursuing_after
  intro n hn
  cases task with
  | stop pause pauses operation =>
    cases hop n ((stable_retains.firm.look e.session pauses operation).quitting? hn)
    exact pursues_look e.session pauses n
  | answer id m goal =>
    have hwaited : (e.session.endWait id m).1.quitting? = e.session.quitting? := by
      rw [quitting?_eq, quitting?_eq, outlook_endWait]
    have hretains : Retains (e.session.endWait id m).1 (e.session.wake (.answer id m goal)).1 :=
      stable_retains.firm.proceed _ _ fun _ => retains_ask _ .resume []
    have hgoal := hop n (hwaited ▸ hretains.quitting? hn)
    cases goal with
    | forced operation interrupted =>
      cases hgoal
      exact pursues_afterForced _ n interrupted _
    | resumed operation own =>
      cases hgoal
      exact pursues_conclude _ n own
    | _ => cases hgoal

/-- Whatever happens, the user is quitting only while an operation is under way for it. -/
lemma Pursuing.step (h : e.Pursuing) (network : Network) (input : Input) :
    (e.step network input).1.Pursuing := by
  cases ht : e.task with
  | some task =>
    by_cases hwake : input = .wake
    · subst hwake
      rw [Engine.step, ht]
      exact h.wake ht
    · intro n hn
      rw [quitting?_step (fun _ _ => by rw [ht]; rfl) (fun hin => absurd hin hwake)
        (isAttached_of_quitting? hn)] at hn
      rw [step_task ht network hwake, ← ht]
      exact h n hn
  | none =>
    -- nobody is quitting, and only an operation may set about to
    have hnone := h.quitting?_of_idle ht
    by_cases hstart : ∃ operation, input = .start operation
    · obtain ⟨operation, rfl⟩ := hstart
      rw [Engine.step, Engine.start, ht]
      exact pursuing_start hnone network operation
    · apply pursuing_of_quitting?_eq_none
      by_contra hquits
      obtain ⟨n, hn⟩ := Option.ne_none_iff_exists'.mp hquits
      rw [quitting?_step (fun operation hin => absurd ⟨operation, hin⟩ hstart) (fun _ => ht)
        (isAttached_of_quitting? hn), hnone] at hn
      cases hn

/-- Over a run, the user is quitting only while an operation is under way for it. -/
lemma Pursuing.run (h : e.Pursuing) (run : List (Network × Input)) : (e.run run).1.Pursuing := by
  induction run generalizing e with
  | nil => exact h
  | cons i is ih => exact ih (h.step i.1 i.2)

end Engine

/-! ### The answer that is waited for -/

/-- What is said to a command that waits is its answer. If nothing is, it goes on waiting or the
connection ends. -/
def Books.Minds (b : Books) (n : RequestId) (method : Method) : Option Answer → Prop
  | some a => b.Answered a
  | none   => b.Waits n method ∨ b.Ended

namespace Session

variable {s : Session} {n : RequestId} {method : Method}

/-- A broken answer is not taken for the end of the connection. -/
lemma verdict?_ne_disconnected (n : RequestId) (method : Method) (payload : Bytes) :
    verdict? n method payload ≠ some (.error .disconnected) := by
  intro h
  rw [verdict?] at h
  split at h
  · next id outcome _ =>
    split_ifs at h
    cases not_fatal_of_resultOf (Option.some.inj h)
  · cases h
  · split_ifs at h
    cases h

/-- The first payload that says something to the command that waits is its answer. -/
lemma minds_foldl_receiveFrame (ps : List Bytes) (h : s.books.Waits n method)
    (hs : s.books.Sound) :
    (ps.foldl receiveFrame s).books.Minds n method
      ((s.meetings ps).findSome? fun m => verdict? n method m.2) := by
  induction ps generalizing s with
  | nil => exact .inl h
  | cons p ps ih =>
    have hattached := Engine.isAttached_of_waits h
    have hframe := onFrame_receiveFrame hattached p
    rw [meetings_cons hattached, List.findSome?_cons, List.foldl_cons]
    cases hv : verdict? n method p with
    | some a => exact (h.onFrame_some hs hv hframe).hears (hears_foldl_receiveFrame _ ps)
    | none =>
      rcases h.onFrame_none hv hframe with hwaits | hended
      · exact ih hwaits (hs.onFrame hframe)
      · have hgone : (s.receiveFrame p).isAttached = false := by
          rw [← Bool.not_eq_true, isAttached_iff, hended.1]
          decide
        rw [meetings_of_detached hgone,
          foldl_receiveFrame_of_detached (connection_of_detached (Bool.eq_false_iff.mp hgone))]
        exact .inr hended

lemma minds_leave {said? : Option Answer} (h : s.books.Minds n method said?)
    (tail : Option Bytes) :
    (s.leave tail).books.Minds n method said? := by
  cases said? with
  | some a => exact Answered.hears h (hears_leave s tail)
  | none =>
    cases tail with
    | none =>
      right
      rw [books_leave_none]
      rcases h with hwaits | hended
      · exact hwaits.close
      · exact hended.calm Calm.refl.close
    | some inbox =>
      rw [books_leave_some]
      rcases h with hwaits | hended
      · exact .inl (hwaits.keep inbox)
      · exact .inr ⟨by rw [keep, hended.1]; rfl, hended.2⟩

/-- Bytes answer a command that waits if one of their payloads does. -/
lemma minds_receiveBytes (h : s.books.Waits n method) (hs : s.books.Sound) (bytes : Bytes) :
    (s.receiveBytes bytes).books.Minds n method
      ((s.meetingsIn bytes).findSome? fun m => verdict? n method m.2) := by
  obtain ⟨c, hc⟩ := Option.isSome_iff_exists.mp (Engine.isAttached_of_waits h)
  have hkept := books_emptyInbox hc
  rw [receiveBytes_eq hc, meetingsIn, hc]
  exact minds_leave (minds_foldl_receiveFrame _ (hkept ▸ h.keep []) (hkept ▸ hs.keep [])) _

end Session

namespace Engine

variable {e : Engine} {network : Network} {input : Input} {n : RequestId} {method : Method}
    {goal : Goal}

/-- What the payloads that come with something that happens first say to the command that
waits. -/
def verdict? (e : Engine) (n : RequestId) (method : Method) (input : Input) : Option Answer :=
  (e.meetings input).findSome? fun m => Session.verdict? n method m.2

lemma verdict?_ne_disconnected (e : Engine) (n : RequestId) (method : Method) (input : Input) :
    e.verdict? n method input ≠ some (.error .disconnected) := by
  intro h
  obtain ⟨m, -, hm⟩ := List.exists_of_findSome?_eq_some h
  exact Session.verdict?_ne_disconnected n method m.2 hm

/-- A command that waits is answered by the first payload that says something to it. -/
lemma minds_step (h : e.Sound) (ht : e.task = some (.answer n method goal))
    (hwaits : e.session.books.Waits n method) (network : Network) (hwake : input ≠ .wake) :
    (e.step network input).1.session.books.Minds n method (e.verdict? n method input) := by
  cases input with
  | start operation =>
    rcases step_start_cases e network operation with ⟨hnone, -⟩ | ⟨hexclusive, heq⟩ | ⟨-, heq⟩
    · rw [ht] at hnone
      cases hnone
    · rw [heq]
      exact hwaits.calm (Session.calm_start e.session network hexclusive)
    · rw [heq]
      exact .inl hwaits
  | bytes bytes => exact Session.minds_receiveBytes hwaits h.books bytes
  | endOfStream =>
    right
    show e.session.detach.books.Ended
    rw [Session.books_detach]
    exact hwaits.close
  | frameTimeout =>
    show e.session.expireFrame.books.Waits n method ∨ e.session.expireFrame.books.Ended
    rw [Session.expireFrame]
    split_ifs
    · rw [Session.books_detach]
      exact .inr hwaits.close
    · exact .inl hwaits
  | wake => exact absurd rfl hwake
  | room room =>
    left
    have hsame : (e.session.modifyConnection fun c => { c with room }).books = e.session.books :=
      Session.books_modifyConnection_of_eq fun _ => rfl
    show (e.session.modifyConnection fun c => { c with room }).books.Waits n method
    rw [hsame]
    exact hwaits

end Engine

/-! ### No connection begins -/

namespace Books

variable {b b' : Books}

lemma KeepsInbox.table_eq_none (h : KeepsInbox b b') (hb : b.table = none) :
    b'.table = none := by
  rcases h with hnone | hsame
  · exact hnone
  · rw [hb, Option.map_none, Option.map_eq_none_iff] at hsame
    exact hsame

/-- No connection begins during a wait. -/
lemma Hears.table_eq_none (h : Hears b b') (hb : b.table = none) : b'.table = none := by
  induction h with
  | refl => exact hb
  | calm _ hcalm ih => exact KeepsInbox.table_eq_none hcalm.inbox ih
  | frame _ hframe ih => exact (Session.OnFrame.keepsInbox hframe).table_eq_none ih
  | keep inbox _ ih =>
    rw [Books.keep, ih]
    rfl

end Books

namespace Engine

open Session

variable {e : Engine} {network : Network} {input : Input}

/-- While an operation is under way, no connection begins. -/
lemma isAttached_of_step (hbusy : e.task.isSome)
    (h : (e.step network input).1.session.isAttached) :
    e.session.isAttached := by
  obtain ⟨task, ht⟩ := Option.isSome_iff_exists.mp hbusy
  by_cases hwake : input = .wake
  · subst hwake
    rw [step, ht] at h
    dsimp only at h
    rw [after_session] at h
    exact (quiet_wake e.session task).stands h
  · rw [isAttached_iff] at h ⊢
    by_contra hgone
    rw [(step_hears ht network hwake).2.table_eq_none (Option.not_isSome_iff_eq_none.mp hgone)]
      at h
    cases h

/-- Without a connection, and while an operation is under way, nothing comes to happen. -/
lemma occurrences_of_detached (hbusy : e.task.isSome) (hgone : e.session.isAttached = false) :
    e.occurrences network input = [] := by
  have hconnection := connection_of_detached (Bool.eq_false_iff.mp hgone)
  have hnothing : e.happenings network input = [] := by
    cases input with
    | start operation =>
      rw [happenings]
      split_ifs with hbegins
      · have hexclusive : operation.isExclusive = false := by
          obtain ⟨task, ht⟩ := Option.isSome_iff_exists.mp hbusy
          simpa [begins, ht] using hbegins
        cases operation with
        | input text =>
          rw [beginning, inputRequest?, hconnection]
          rfl
        | attach target => cases hexclusive
        | attachRetrying target => cases hexclusive
        | _ => rfl
      · rfl
    | bytes bytes =>
      rw [happenings, meetingsIn, hconnection]
      rfl
    | _ => rfl
  rw [occurrences, hnothing, closes, hgone]
  rfl

/-- Without a connection, nothing comes to happen while operations are under way. -/
lemma chronicle_of_detached {run : List (Network × Input)} (hgone : e.session.isAttached = false)
    (hbusy : e.Always (fun e _ => e.task.isSome) run) :
    e.chronicle run = [] ∧ (e.run run).1.session.isAttached = false := by
  induction run generalizing e with
  | nil => exact ⟨rfl, hgone⟩
  | cons i is ih =>
    obtain ⟨hfirst, hrest⟩ := hbusy
    have hstays : (e.step i.1 i.2).1.session.isAttached = false := by
      by_contra hattached
      rw [isAttached_of_step hfirst (by simpa using hattached)] at hgone
      cases hgone
    obtain ⟨hnothing, hend⟩ := ih hstays hrest
    rw [chronicle, occurrences_of_detached hfirst hgone, hnothing]
    exact ⟨rfl, hend⟩

/-- While operations are under way, a connection ends once at most, and nothing comes to happen
after that. -/
lemma chronicle_of_busy {run : List (Network × Input)} (hattached : e.session.isAttached)
    (hbusy : e.Always (fun e _ => e.task.isSome) run) :
    ∃ os, .closed ∉ os ∧ e.chronicle run = os ++ if (e.run run).1.session.isAttached then []
      else [.closed] := by
  induction run generalizing e with
  | nil =>
    refine ⟨[], List.not_mem_nil, ?_⟩
    rw [show (e.run []).1 = e from rfl, hattached]
    rfl
  | cons i is ih =>
    obtain ⟨hfirst, hrest⟩ := hbusy
    have hhappenings := closed_notMem_happenings e i.1 i.2
    have hcloses := closes_eq e i.1 i.2
    rw [hattached, Bool.true_and] at hcloses
    rw [chronicle, occurrences, hcloses,
      show (e.run (i :: is)).1 = ((e.step i.1 i.2).1.run is).1 from rfl]
    -- the connection stands and may end later, or it ends now and nothing comes after
    cases hstays : (e.step i.1 i.2).1.session.isAttached with
    | true =>
      obtain ⟨os, hos, hchronicle⟩ := ih hstays hrest
      refine ⟨e.happenings i.1 i.2 ++ os, ?_, ?_⟩
      · rw [List.mem_append, not_or]
        exact ⟨hhappenings, hos⟩
      · rw [hchronicle, Bool.not_true, if_neg Bool.false_ne_true, List.append_nil,
          List.append_assoc]
    | false =>
      obtain ⟨hnothing, hend⟩ := chronicle_of_detached hstays hrest
      refine ⟨e.happenings i.1 i.2, hhappenings, ?_⟩
      rw [hnothing, hend, Bool.not_false, if_pos rfl, if_neg Bool.false_ne_true, List.append_nil]

/-- The events of a run are those of what came to happen. -/
lemma events_run (e : Engine) (run : List (Network × Input)) :
    (e.run run).1.session.events.queued
    = e.session.events.queued ++ (e.chronicle run).flatMap Occurrence.events := by
  induction run generalizing e with
  | nil => exact (List.append_nil _).symm
  | cons i is ih =>
    rw [chronicle, List.flatMap_append, ← List.append_assoc]
    rw [← show _ = e.session.events.queued ++ _ from (undergoes_step e i.1 i.2).events]
    exact ih (e.step i.1 i.2).1

end Engine

end RemoteDebugger
