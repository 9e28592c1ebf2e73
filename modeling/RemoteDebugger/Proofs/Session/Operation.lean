import RemoteDebugger.Proofs.Session.Bookkeeping
import RemoteDebugger.Session.Operation

/-!
# What operations come to for the books

An operation that begins or goes on does so while no command waits for an answer. It may end the
connection or begin one, and it either is over, or pauses, or has written one request more, whose
answer it then waits for.
-/

namespace RemoteDebugger

open Books

namespace Books

/-- What an operation does to the books while no command waits for an answer. -/
inductive Works (b : Books) : Books → Prop
  | refl : Works b b
  | calm {b' b'' : Books} : Works b b' → Calm b' b'' → Works b b''
  | hush {b' : Books} : Works b b' → Works b b'.hush
  | connect {b' : Books} : Works b b' → Works b b'.connect

lemma Calm.works {b b' : Books} (h : Calm b b') : Works b b' := Works.refl.calm h

lemma Works.trans {a b c : Books} (h : Works a b) (h' : Works b c) : Works a c := by
  induction h' with
  | refl => exact h
  | calm _ hcalm ih => exact ih.calm hcalm
  | hush _ ih => exact ih.hush
  | connect _ ih => exact ih.connect

/-- How far an operation comes. -/
inductive Leads (b : Books) : Session × Progress → Prop
  | finished {s : Session} {a : Answer} (h : Works b s.books) : Leads b (s, .finished a)
  | paused {s : Session} {pause : Duration} {pauses : Pauses} {operation : Forced}
      (h : Works b s.books) : Leads b (s, .waiting (.stop pause pauses operation))
  | asked {s : Session} {b' : Books} {method : Method} {goal : Goal} (h : Works b b')
      (hattached : b'.table.isSome) (hs : s.books = b'.hush.issue method true) :
      Leads b (s, .waiting (.answer b'.nextId method goal))

/-- An operation may do more before it goes on. -/
lemma Works.leads {b b' : Books} {r : Session × Progress} (h : Works b b') (h' : Leads b' r) :
    Leads b r := by
  cases h' with
  | finished hs => exact .finished (h.trans hs)
  | paused hs => exact .paused (h.trans hs)
  | asked hb hattached hs => exact .asked (h.trans hb) hattached hs

end Books

namespace Session

variable {s : Session}

lemma works_of_eq {s' : Session} (h : s'.books = s.books) : Works s.books s'.books :=
  (calm_of_eq h).works

lemma leads_done {r : Session × Answer} {b : Books} (h : Works b r.1.books) : Leads b (done r) :=
  .finished h

lemma leads_fail (s : Session) (e : SessionError) : Leads s.books (s.fail e) := .finished .refl

/-! ### Attaching -/

lemma works_connected (s : Session) (remote : Bool) : Works s.books (s.connected remote).books :=
  Works.refl.connect

/-- To attach opens the books, if it succeeds. -/
lemma works_attach (s : Session) (network : Network) (target : Target) :
    Works s.books (s.attach network target).1.books := by
  simp only [attach]
  split
  · exact .refl
  · split
    · exact works_connected s _
    · exact .refl

lemma works_attachRetrying (s : Session) (network : Network) (target : Target) :
    Works s.books (s.attachRetrying network target).1.books := by
  unfold attachRetrying
  split
  · exact .refl
  · dsimp only
    split
    · exact works_connected s _
    · exact .refl

/-! ### Requests -/

/-- A request is written and its answer waited for, or else the operation goes on without the
connection. -/
lemma leads_askFor {method : Method} {args : List Json} {goal : Goal}
    {otherwise : Session → SessionError → Session × Progress}
    (h : ∀ s' e, Works s.books s'.books → Leads s.books (otherwise s' e)) :
    Leads s.books (s.askFor method args goal otherwise) := by
  simp only [askFor]
  rcases ask_cases s method args with ⟨hr, hattached, hbooks⟩ | ⟨⟨e, hr⟩, hbooks⟩
  · obtain ⟨s', hs'⟩ : ∃ s', s.ask method args = (s', .ok s.books.nextId) := ⟨_, Prod.ext rfl hr⟩
    rw [hs'] at hbooks ⊢
    exact .asked .refl (isAttached_iff.mp hattached) hbooks
  · obtain ⟨s', hs'⟩ : ∃ s', s.ask method args = (s', .error e) := ⟨_, Prod.ext rfl hr⟩
    rw [hs'] at hbooks ⊢
    apply h
    rw [hbooks]
    exact (Works.refl.calm Calm.refl.close.skip).hush

/-- A command writes one request and waits for its answer, or else it fails. -/
lemma leads_command (s : Session) (method : Method) (args : List Json) (goal : Goal) :
    Leads s.books (s.command method args goal) := by
  simp only [command]
  split
  · exact leads_fail s _
  · exact leads_askFor fun s' e h => h.leads (leads_fail s' e)

/-! ### Forced operations -/

lemma works_drop (s : Session) (epoch : Nat) : Works s.books (s.drop epoch).books := by
  simp only [drop]
  split
  · rw [books_detach]
    exact Calm.refl.close.works
  · exact .refl

/-- A forced operation may end the connection as it is concluded. -/
lemma leads_conclude (s : Session) (operation : Forced) (answer : Answer) :
    Leads s.books (s.conclude operation answer) := by
  simp only [conclude]
  split
  · exact .finished (works_drop s _)
  · exact .finished (works_drop s _)
  · exact .finished (works_of_eq (books_modifyConnection_of_eq fun _ => rfl))
  · exact .finished .refl

/-- After its answer a forced operation may ask the program to run on. -/
lemma leads_afterForced (s : Session) (operation : Forced) (interrupted : Bool)
    (answer : Answer) :
    Leads s.books (s.afterForced operation interrupted answer) := by
  simp only [afterForced]
  split
  · exact leads_askFor fun s' _ h => h.leads (leads_conclude s' operation answer)
  · exact leads_conclude s operation answer

lemma leads_carryOut (s : Session) (operation : Forced) (interrupted : Bool) :
    Leads s.books (s.carryOut operation interrupted) :=
  leads_askFor fun s' _ h => h.leads (leads_afterForced s' operation interrupted _)

lemma works_showNext (s : Session) : Works s.books s.showNext.books :=
  works_of_eq (books_modifyConnection_of_eq fun _ => rfl)

/-- A look finds the program stopped, goes on waiting, or gives up. -/
lemma leads_look (s : Session) (pauses : Pauses) (operation : Forced) :
    Leads s.books (s.look pauses operation) := by
  simp only [look]
  split
  · exact leads_carryOut s operation true
  · exact leads_conclude s operation _
  · exact (works_showNext s).leads (leads_conclude _ operation _)
  · split
    · exact .paused .refl
    · exact (works_showNext s).leads (leads_conclude _ operation _)

/-- A forced operation begins with its command if the program stands still, and else with a
look. -/
lemma leads_force (s : Session) (operation : Forced) : Leads s.books (s.force operation) := by
  simp only [force]
  split
  · exact leads_conclude s operation _
  · exact leads_conclude s operation _
  · exact leads_carryOut s operation false
  · have hsent : Works s.books
        ((s.modifyConnection fun c => { c with suppressNext := true }).send
          (.notify .interrupt)).1.books := by
      refine Works.calm (works_of_eq (books_modifyConnection_of_eq ?_)) (calm_send rfl)
      exact fun _ => rfl
    split
    · next s' hs' =>
      rw [hs'] at hsent
      exact hsent.leads (leads_look s' _ operation)
    · next s' e hs' =>
      rw [hs'] at hsent
      exact (hsent.trans (works_showNext s')).leads (leads_conclude _ operation _)

lemma leads_forceIfAttached (s : Session) (operation : Forced) (detached : Answer) :
    Leads s.books (s.forceIfAttached operation detached) := by
  simp only [forceIfAttached]
  split
  · exact leads_force s operation
  · exact .finished .refl

lemma leads_quit (s : Session) : Leads s.books s.quit := by
  simp only [quit]
  split
  · exact leads_fail s _
  · next c hc =>
    have hsame : { s with connection := some { c with quitting := true } }.books = s.books :=
      books_of_connection hc rfl
    exact (works_of_eq hsame).leads (leads_force _ _)

/-! ### Operations at any time -/

lemma calm_interrupt (s : Session) : Calm s.books s.interrupt.1.books := by
  simp only [interrupt]
  split
  · exact .refl
  · exact .refl
  · exact .refl
  · exact calm_send rfl

/-- A line is given without a request. -/
lemma calm_provideInput (s : Session) (text : String) :
    Calm s.books (s.provideInput text).1.books := by
  simp only [provideInput]
  split
  · exact .refl
  · next c hc =>
    split
    · exact .refl
    · refine Calm.trans (calm_of_eq (books_of_connection hc ?_)) (calm_send rfl)
      rfl

/-! ### Carrying out operations -/

/-- The beginning of an operation. -/
lemma leads_start (s : Session) (network : Network) (operation : Operation) :
    Leads s.books (s.start network operation) := by
  cases operation with
  | attach target => exact leads_done (works_attach s network target)
  | attachRetrying target => exact leads_done (works_attachRetrying s network target)
  | detach =>
    refine .finished ?_
    rw [books_detach]
    exact Calm.refl.close.works
  | step => exact leads_command s .step [] .unit
  | next => exact leads_command s .next [] .unit
  | stepOut => exact leads_command s .stepOut [] .unit
  | resume => exact leads_command s .resume [] .unit
  | resumeTo file line => exact leads_command s .setBreakpoint _ .thenResume
  | jump line => exact leads_command s .jump _ .unit
  | exec statement => exact leads_command s .exec _ .value
  | eval expression => exact leads_command s .eval _ .value
  | callStack => exact leads_command s .callStack [] .value
  | environment => exact leads_command s .environment [] .value
  | setBreakpoint b =>
    refine Works.leads ?_ (leads_forceIfAttached _ (.setBreakpoint b) (.ok .null))
    apply works_of_eq
    split_ifs <;> rfl
  | clearBreakpoint b =>
    exact leads_forceIfAttached { s with breakpoints := s.breakpoints.erase b.key }
      (.clearBreakpoint b) _
  | clearFile file =>
    exact leads_forceIfAttached
      { s with breakpoints :=
          (s.breakpoints.removeFile (FileName.canonical s.config.directory file)).2 }
            (.clearFile _) _
  | quit => exact leads_quit s
  | interrupt => exact leads_done (calm_interrupt s).works
  | input text => exact leads_done (calm_provideInput s text).works
  | checkException => exact .finished .refl

/-- An operation that need not wait for another one is over at once. -/
lemma exists_finished_start (s : Session) (network : Network) {operation : Operation}
    (h : operation.isExclusive = false) :
    ∃ answer, (s.start network operation).2 = .finished answer := by
  cases operation with
  | detach => exact ⟨_, rfl⟩
  | interrupt => exact ⟨_, rfl⟩
  | input text => exact ⟨_, rfl⟩
  | checkException => exact ⟨_, rfl⟩
  | _ => cases h

/-- It hardly touches the books. -/
lemma calm_start (s : Session) (network : Network) {operation : Operation}
    (h : operation.isExclusive = false) :
    Calm s.books (s.start network operation).1.books := by
  cases operation with
  | detach =>
    have hclose : (s.start network .detach).1.books = s.books.close := books_detach s
    rw [hclose]
    exact Calm.refl.close
  | interrupt => exact calm_interrupt s
  | input text => exact calm_provideInput s text
  | checkException => exact .refl
  | _ => cases h

/-- How an operation goes on after a wait. -/
lemma leads_proceed (s : Session) (answer : Answer) (goal : Goal) :
    Leads s.books (s.proceed answer goal) := by
  cases goal with
  | value => exact .finished .refl
  | unit => exact .finished .refl
  | thenResume =>
    cases answer with
    | ok v => exact leads_askFor fun s' e h => h.leads (leads_fail s' e)
    | error e => exact leads_fail s e
  | forced operation interrupted => exact leads_afterForced s operation interrupted answer
  | resumed operation own => exact leads_conclude s operation own

/-! ### The end of a wait -/

/-- The end of the wait for an answer: the reply is taken, or else the request is given up on. -/
lemma endWait_eq (s : Session) (id : RequestId) (method : Method) :
    (s.endWait id method).2 = s.books.reply.getD (.error (.timeout method s.books.patience)) ∧
      (s.endWait id method).1.books =
        match s.books.reply, s.books.pending? id with
        | none, some _ => s.books.hush.giveUp id method
        | _, _         => s.books.hush := by
  have hreply : s.books.reply = s.reply := rfl
  rw [hreply]
  simp only [endWait, takeReply]
  cases hr : s.reply with
  | some a => exact ⟨rfl, rfl⟩
  | none =>
    have hpending : s.connection.bind (·.pending.lookup id) = s.books.pending? id := by
      cases hc : s.connection <;> simp [books, pending?, hc, Connection.table]
    dsimp only [giveUp]
    rw [hpending]
    cases hp : s.books.pending? id with
    | none => exact ⟨rfl, rfl⟩
    | some p => exact ⟨rfl, books_giveUp _ id method⟩

end Session

end RemoteDebugger
