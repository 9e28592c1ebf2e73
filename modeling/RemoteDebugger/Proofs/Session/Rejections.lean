import RemoteDebugger.Proofs.Session.Breakpoints
import RemoteDebugger.Proofs.Session.InputState
import RemoteDebugger.Proofs.Session.Quitting
import RemoteDebugger.Proofs.Time.Backoff

/-!
# Rejected operations

An operation that is not legal as a session stands is rejected on the spot: it fails with the
error that says why, and nothing changes but the registry, which has taken note of it.
-/

namespace RemoteDebugger

namespace Operation

/-- Whether an operation needs the program to stand still, and does not stop it itself. -/
def needsStop : Operation → Bool
  | .step | .next | .stepOut | .resume | .resumeTo _ _ | .jump _ => true
  | .exec _ | .eval _ | .callStack | .environment                => true
  | _                                                            => false

/-- Whether an operation stops a program that runs. -/
def interrupts : Operation → Bool
  | .setBreakpoint _ | .clearBreakpoint _ | .clearFile _ | .quit | .interrupt => true
  | _                                                                         => false

/-- Whether an operation is for an attached session only. -/
def needsAgent : Operation → Bool
  | .quit | .interrupt | .input _ => true
  | operation                     => operation.needsStop

/-- Whether an operation is to begin a connection. -/
def attaches : Operation → Bool
  | .attach _ | .attachRetrying _ => true
  | _                             => false

/-- What needs a stopped program edits no breakpoint. -/
lemma edits_of_needsStop {operation : Operation} (h : operation.needsStop) :
    operation.edits = false := by
  cases operation <;> first | rfl | cases h

lemma edits_of_needsAgent {operation : Operation} (h : operation.needsAgent) :
    operation.edits = false := by
  cases operation <;> first | rfl | cases h

lemma edits_of_attaches {operation : Operation} (h : operation.attaches) :
    operation.edits = false := by
  cases operation <;> first | rfl | cases h

end Operation

/-- Whether an agent was reached, but there is no trust. -/
def ConnectionError.isAuth : ConnectionError → Bool
  | .auth _ => true
  | _       => false

lemma ofConnection_of_not_isAuth {e : ConnectionError} (h : e.isAuth = false) :
    SessionError.ofConnection e = .connect e := by
  cases e with
  | auth a => cases h
  | _ => rfl

/-- An operation that edits no breakpoint leaves the registry as it is. -/
lemma Registry.note_of_not_edits (directory : String) (r : Registry) {operation : Operation}
    (h : operation.edits = false) : r.note directory operation = r := by
  cases operation with
  | setBreakpoint b => cases h
  | clearBreakpoint b => cases h
  | clearFile file => cases h
  | _ => rfl

/-- Without a breakpoint under a key there is none to take out. -/
lemma Registry.erase_of_not_contains {r : Registry} {k : Breakpoint.Key}
    (h : r.contains k = false) :
    r.erase k = r := by
  rw [Registry.contains, Registry.find?, ← Bool.not_eq_true, Option.not_isSome_iff_eq_none,
    List.find?_eq_none] at h
  have hall : r.entries.filter (·.key != k) = r.entries :=
    List.filter_eq_self.mpr fun b hb => by simpa using h b hb
  rw [Registry.erase, hall]

namespace Session

variable {s : Session} {network : Network} {operation : Operation} {error : SessionError}

/-- An attempt to attach that does not reach the agent. -/
def Misses (network : Network) (target : Target) (k : Nat) : Prop :=
  ∃ e, network target k = .error e ∧ e.isAuth = false

/-- Why an operation is not legal, as a session stands and as the network is. -/
inductive Rejects (s : Session) (network : Network) : Operation → SessionError → Prop
  | notAttached {operation : Operation} (hs : s.state = .detached) (h : operation.needsAgent) :
      Rejects s network operation .notAttached
  | notInteracting {operation : Operation} (hs : s.state = .running ∨ s.state = .blockedOnInput)
      (h : operation.needsStop) : Rejects s network operation .notInteracting
  | waitingForInput {operation : Operation} (hs : s.state = .blockedOnInput)
      (h : operation.interrupts) :
      Rejects s network operation .waitingForInput
  | notAsked {text : String} (hs : s.isAttached) (h : s.inputRequest? = none) :
      Rejects s network (.input text) .notInteracting
  | alreadyAttached {operation : Operation} (hs : s.isAttached) (h : operation.attaches) :
      Rejects s network operation .alreadyAttached
  | unreached {target : Target} {e : ConnectionError} (hs : s.isAttached = false)
      (h : network target 0 = .error e) (he : e.isAuth = false) :
        Rejects s network (.attach target) (.connect e)
  | untrusted {target : Target} {a : AuthError} (hs : s.isAttached = false)
      (h : network target 0 = .error (.auth a)) :
        Rejects s network (.attach target) (.auth (.auth a))
  /-- All attempts miss the agent, and there is at least one. -/
  | exhausted {target : Target} {e : ConnectionError} (hs : s.isAttached = false)
      (h : ∀ k ≤ s.config.attachRetry.attempts - 1, Misses network target k)
      (hlast : network target (s.config.attachRetry.attempts - 1) = .error e) :
      Rejects s network (.attachRetrying target)
        (.exhausted s.config.attachRetry.attempts (.connect e))
  /-- The first attempt that reaches the agent finds no trust. -/
  | untrustedAt {target : Target} {a : AuthError} {k : Nat} (hs : s.isAttached = false)
      (hk : k ≤ s.config.attachRetry.attempts - 1) (hbefore : ∀ i < k, Misses network target i)
      (h : network target k = .error (.auth a)) :
        Rejects s network (.attachRetrying target) (.auth (.auth a))
  | unknownBreakpoint {b : Breakpoint} (hs : s.isAttached = false)
      (h : s.breakpoints.contains b.key = false) :
      Rejects s network (.clearBreakpoint b) (.unknownBreakpoint b.display)

/-! ### Operations on their own -/

/-- What needs a stopped program is refused if it has not stopped. -/
lemma start_of_needsStop (h : operation.needsStop) (hrefusal : s.refusal? = some error) :
    s.start network operation = (s, .finished (.error error)) := by
  have hcommand : ∀ m args goal, s.command m args goal = (s, .finished (.error error)) := by
    intro m args goal
    rw [command, hrefusal]
    rfl
  cases operation with
  | step => exact hcommand _ _ _
  | next => exact hcommand _ _ _
  | stepOut => exact hcommand _ _ _
  | resume => exact hcommand _ _ _
  | resumeTo file line => exact hcommand _ _ _
  | jump line => exact hcommand _ _ _
  | exec statement => exact hcommand _ _ _
  | eval expression => exact hcommand _ _ _
  | callStack => exact hcommand _ _ _
  | environment => exact hcommand _ _ _
  | _ => cases h

/-- What needs an agent is refused without one. -/
lemma start_of_needsAgent (h : operation.needsAgent) (hs : s.state = .detached) :
    s.start network operation = (s, .finished (.error .notAttached)) := by
  have hnone := connection_of_detached (Bool.eq_false_iff.mp (isAttached_of_state hs))
  have hrefusal : s.refusal? = some .notAttached := by rw [refusal?, hs]
  cases operation with
  | quit =>
    show s.quit = _
    rw [quit, hnone]
    rfl
  | interrupt =>
    show done s.interrupt = _
    rw [interrupt, hs]
    rfl
  | input text =>
    show done (s.provideInput text) = _
    rw [provideInput, hnone]
    rfl
  | _ => exact start_of_needsStop h hrefusal

lemma force_of_blocked (hs : s.state = .blockedOnInput) (f : Forced) :
    s.force f = s.conclude f (.error .waitingForInput) := by
  rw [force, hs]

/-- The end of the program is not begun while it waits for input, and the user is not quitting
then. -/
lemma quit_of_blocked {c : Connection} (hc : s.connection = some c)
    (hs : s.state = .blockedOnInput) (hquitting : c.quitting = false) :
    s.quit = (s, .finished (.error .waitingForInput)) := by
  have hstate : { s with connection := some { c with quitting := true } }.state
      = .blockedOnInput := by
    rw [← hs, state_of_connection hc]
    rfl
  have hback : some { c with quitting := false } = s.connection := by
    rw [hc, ← hquitting]
  rw [quit, hc]
  dsimp only
  rw [force_of_blocked hstate, conclude_quit_error _ _ SessionError.noConfusion,
    modifyConnection, Option.map_some, hback]

/-- What would interrupt the program is refused while it waits for a line. -/
lemma start_of_interrupts (h : operation.interrupts) (hs : s.state = .blockedOnInput)
    (hquitting : ∀ c, operation = .quit → s.connection = some c → c.quitting = false) :
    s.start network operation
      = ({ s with breakpoints := s.breakpoints.note s.config.directory operation },
      .finished (.error .waitingForInput)) := by
  have hattached : s.isAttached := by
    rw [isAttached_eq_state, hs]
    rfl
  have hforced : ∀ breakpoints f detached,
      { s with breakpoints }.forceIfAttached f detached
        = { s with breakpoints }.conclude f (.error .waitingForInput) := by
    intro breakpoints f detached
    have hstands : { s with breakpoints }.isAttached := hattached
    have hblocked : { s with breakpoints }.state = .blockedOnInput := hs
    rw [forceIfAttached, if_pos hstands, force_of_blocked hblocked]
  cases operation with
  | setBreakpoint b =>
    show s.setBreakpoint b = _
    rw [setBreakpoint, Registry.note]
    split_ifs
    · exact hforced s.breakpoints _ _
    · exact hforced (s.breakpoints.insert b) _ _
  | clearBreakpoint b => exact hforced (s.breakpoints.erase b.key) _ _
  | clearFile file => exact hforced _ (.clearFile _) _
  | quit =>
    obtain ⟨c, hc⟩ := Option.isSome_iff_exists.mp hattached
    exact quit_of_blocked hc hs (hquitting c rfl hc)
  | interrupt =>
    show done s.interrupt = _
    rw [interrupt, hs]
    rfl
  | _ => cases h

lemma attempt_error (s : Session) (e : ConnectionError) :
    s.attempt (.error e) = .error (.ofConnection e) := rfl

lemma attach_of_error (hs : s.isAttached = false) {target : Target} {e : ConnectionError}
    (h : network target 0 = .error e) :
    s.attach network target = (s, .error (.ofConnection e)) := by
  rw [attach, hs, if_neg Bool.false_ne_true, h, attempt_error]

/-- A try that misses the agent may be made again. -/
lemma attempt_of_misses {target : Target} {k : Nat} (h : Misses network target k) :
    ∃ e, s.attempt (network target k) = .error e ∧ e.isUnreached := by
  obtain ⟨e, he, hauth⟩ := h
  rw [he, attempt_error, ofConnection_of_not_isAuth hauth]
  exact ⟨_, rfl, rfl⟩

/-- The attempts end with the first one that does not miss the agent, or with the last one. -/
lemma attachRetrying_of_misses (hs : s.isAttached = false) {target : Target} {k : Nat}
    {e : ConnectionError} (hk : k ≤ s.config.attachRetry.attempts - 1)
    (hbefore : ∀ i < k, Misses network target i) (h : network target k = .error e)
    (hlast : e.isAuth = false → k = s.config.attachRetry.attempts - 1) :
    s.attachRetrying network target = (s, .error (if e.isAuth then .ofConnection e
      else .exhausted s.config.attachRetry.attempts (.ofConnection e))) := by
  obtain ⟨j, hj, houtcome, hmissed, hends⟩ :=
    s.config.attachRetry.outcome_retry SessionError.isUnreached
    fun k => s.attempt (network target k)
  have hsame : j = k := by
    rcases Nat.lt_trichotomy j k with hless | heq | hmore
    · -- no try is the last one that misses the agent while one is left
      obtain ⟨e', he', hunreached⟩ := attempt_of_misses (s := s) (hbefore j hless)
      rw [hends (Nat.lt_of_lt_of_le hless hk) e' he'] at hunreached
      cases hunreached
    · exact heq
    · -- no try comes after one that reaches the agent
      obtain ⟨e', he', hunreached⟩ := hmissed k hmore
      cases hauth : e.isAuth with
      | false =>
        rw [hlast hauth] at hmore
        omega
      | true =>
        rw [h, attempt_error] at he'
        cases he'
        cases e with
        | auth a => cases hunreached
        | _ => cases hauth
  subst hsame
  rw [attachRetrying, hs, if_neg Bool.false_ne_true]
  dsimp only
  rw [houtcome, h, attempt_error]
  cases e <;> rfl

/-- An operation that is rejected fails at once, and only the registry takes note of it. -/
lemma start_of_rejects (h : s.Rejects network operation error)
    (hquitting : ∀ c, operation = .quit → s.connection = some c → c.quitting = false) :
    s.start network operation
      = ({ s with breakpoints := s.breakpoints.note s.config.directory operation },
        .finished (.error error)) := by
  have hunnoted : operation.edits = false →
      { s with breakpoints := s.breakpoints.note s.config.directory operation } = s := by
    intro hedits
    rw [Registry.note_of_not_edits _ _ hedits]
  -- one case for each way to be rejected
  cases h with
  | notAttached hs h =>
    rw [hunnoted (Operation.edits_of_needsAgent h)]
    exact start_of_needsAgent h hs
  | notInteracting hs h =>
    have hrefusal : s.refusal? = some .notInteracting := by
      rcases hs with hs | hs <;> rw [refusal?, hs]
    rw [hunnoted (Operation.edits_of_needsStop h)]
    exact start_of_needsStop h hrefusal
  | waitingForInput hs h => exact start_of_interrupts h hs hquitting
  | @notAsked text hs h =>
    obtain ⟨c, hc⟩ := Option.isSome_iff_exists.mp hs
    rw [inputRequest?, hc, Option.bind_some] at h
    rw [hunnoted rfl]
    show done (s.provideInput text) = _
    rw [provideInput, hc]
    dsimp only
    rw [h]
    rfl
  | alreadyAttached hs h =>
    cases operation with
    | attach target =>
      show done (s.attach network target) = _
      rw [attach, if_pos hs]
      rfl
    | attachRetrying target =>
      show done (s.attachRetrying network target) = _
      rw [attachRetrying, if_pos hs]
      rfl
    | _ => cases h
  | @unreached target e hs h he =>
    show done (s.attach network target) = _
    rw [attach_of_error hs h, ofConnection_of_not_isAuth he]
    rfl
  | @untrusted target a hs h =>
    show done (s.attach network target) = _
    rw [attach_of_error hs h]
    rfl
  | @exhausted target e hs h hlast =>
    have hauth : e.isAuth = false := by
      obtain ⟨e', he', hauth⟩ := h _ (Nat.le_refl _)
      rw [hlast] at he'
      cases he'
      exact hauth
    show done (s.attachRetrying network target) = _
    rw [attachRetrying_of_misses hs (Nat.le_refl _) (fun i hi => h i (Nat.le_of_lt hi)) hlast
      fun _ => rfl, hauth, if_neg Bool.false_ne_true, ofConnection_of_not_isAuth hauth]
    rfl
  | @untrustedAt target a k hs hk hbefore h =>
    have hreached : ConnectionError.isAuth (.auth a) = true := rfl
    show done (s.attachRetrying network target) = _
    rw [attachRetrying_of_misses hs hk hbefore h fun hauth =>
      absurd hreached (Bool.eq_false_iff.mp hauth)]
    rfl
  | @unknownBreakpoint b hs h =>
    show s.clearBreakpoint b = _
    have hgone : ¬ { s with breakpoints := s.breakpoints.erase b.key }.isAttached :=
      Bool.eq_false_iff.mp hs
    rw [clearBreakpoint, h]
    exact if_neg hgone

/-- Without a connection, a breakpoint is set and the breakpoints on a file are taken out at
once. -/
lemma start_of_offline_edits (hs : s.isAttached = false)
    (h : (∃ b, operation = .setBreakpoint b) ∨ ∃ file, operation = .clearFile file) :
    s.start network operation
      = ({ s with breakpoints := s.breakpoints.note s.config.directory operation },
        .finished (.ok .null)) := by
  have hgone : ∀ breakpoints f, { s with breakpoints }.forceIfAttached f (.ok .null)
      = ({ s with breakpoints }, .finished (.ok .null)) := by
    intro breakpoints f
    have hdetached : ¬ { s with breakpoints }.isAttached := Bool.eq_false_iff.mp hs
    rw [forceIfAttached, if_neg hdetached]
  rcases h with ⟨b, rfl⟩ | ⟨file, rfl⟩
  · show s.setBreakpoint b = _
    rw [setBreakpoint, Registry.note]
    split_ifs
    · exact hgone s.breakpoints _
    · exact hgone (s.breakpoints.insert b) _
  · exact hgone _ (.clearFile _)

/-- Only operations on breakpoints are noted, and what is rejected without a connection is
not. -/
lemma note_of_rejects (h : s.Rejects network operation error)
    (hs : operation.edits = false ∨ s.isAttached = false) :
    s.breakpoints.note s.config.directory operation = s.breakpoints := by
  rcases hs with hedits | hs
  · exact Registry.note_of_not_edits _ _ hedits
  · cases h with
    | notAttached _ h => exact Registry.note_of_not_edits _ _ (Operation.edits_of_needsAgent h)
    | notInteracting _ h => exact Registry.note_of_not_edits _ _ (Operation.edits_of_needsStop h)
    | waitingForInput hblocked _ =>
      rw [isAttached_eq_state, hblocked] at hs
      cases hs
    | alreadyAttached _ h => exact Registry.note_of_not_edits _ _ (Operation.edits_of_attaches h)
    | unknownBreakpoint _ h => exact Registry.erase_of_not_contains h
    | _ => rfl

end Session

namespace Engine

open Session

variable {e : Engine} {operation : Operation}

/-- An operation that finishes at once leaves no task. -/
lemma step_of_finished (hbegins : e.begins operation) {network : Network} {s : Session}
    {answer : Answer} (h : e.session.start network operation = (s, .finished answer)) :
    e.step network (.start operation) = ({ e with session := s }, some answer) := by
  rw [begins, Bool.or_eq_true] at hbegins
  rw [step, Engine.start]
  cases ht : e.task with
  | none =>
    rw [h]
    rfl
  | some task =>
    have hfree : ¬ operation.isExclusive := by
      rw [ht] at hbegins
      simpa using hbegins
    dsimp only
    rw [if_neg hfree, h]
    rfl

/-- An operation that is not legal fails at once with the error that says why, and nothing else
changes: nothing is written or told, no number is used up, and whatever is known of the program,
of its requests and of the connection is kept. Only operations on breakpoints change the
registry, even if they are rejected, but not without a connection. Then breakpoints are set and
those on a file are taken out at once. -/
theorem rejections_silent (config : SessionConfig) (run : List (Network × Input))
    (network : Network) (operation : Operation) (error : SessionError) :
    let e := (Engine.run { session := { config } } run).1
    let noted := e.session.breakpoints.note e.session.config.directory operation
    (e.begins operation → e.session.Rejects network operation error →
      e.step network (.start operation)
          = ({ e with session := { e.session with breakpoints := noted } },
            some (.error error)) ∧
        (operation.edits = false ∨ e.session.isAttached = false →
          noted = e.session.breakpoints)) ∧
      (e.begins operation → e.session.isAttached = false →
        ((∃ b, operation = .setBreakpoint b) ∨ ∃ file, operation = .clearFile file) →
        e.step network (.start operation)
          = ({ e with session := { e.session with breakpoints := noted } }, some (.ok .null))) ∧
      ∀ input, (∀ begun, e.begun? input = some begun → begun.edits = false) →
        (e.step network input).1.session.breakpoints = e.session.breakpoints := by
  intro e noted
  refine ⟨fun hbegins hrejects => ⟨?_, note_of_rejects hrejects⟩,
    fun hbegins hdetached hedits => ?_, ?_⟩
  · -- a rejected operation
    refine step_of_finished hbegins (start_of_rejects hrejects ?_)
    rintro c rfl hc
    have hidle : e.task = none := by
      rw [begins, Bool.or_eq_true] at hbegins
      simpa [Operation.isExclusive] using hbegins
    -- the user is quitting only while an operation pursues it, and none is under way
    have hpursuing : e.Pursuing :=
      (pursuing_of_quitting?_eq_none (e := { session := { config } }) rfl).run run
    exact quitting_of_quitting?_eq_none (hpursuing.quitting?_of_idle hidle) hc
  · -- an edit without a connection
    exact step_of_finished hbegins (start_of_offline_edits hdetached hedits)
  · intro input hunedited
    rw [(undergoes_step e network input).breakpoints]
    show e.noted input = e.session.breakpoints
    rw [Engine.noted]
    cases hbegun : e.begun? input with
    | none => rfl
    | some begun => exact Registry.note_of_not_edits _ _ (hunedited begun hbegun)

/-- A program that waits for input is not ended, and an agent that is nowhere is not reached. -/
theorem rejections_silent_asking :
    let e := (Engine.run { session := { config := {} } } asking).1
    let fresh : Engine := { session := { config := {} } }
    e.step Network.nowhere (.start .quit) = (e, some (.error .waitingForInput)) ∧
      fresh.step Network.nowhere (.start (.attachRetrying {}))
        = (fresh, some
          (.error (.exhausted 10 (.connect (.connect "127.0.0.1:6000" .unreachable))))) := by
  intro e fresh
  have hnowhere : ∀ k, Network.nowhere {} k
      = .error (.connect "127.0.0.1:6000" .unreachable) := by
    intro k
    rw [Network.nowhere]
    decide +kernel
  have hblocked : e.begins .quit ∧ e.session.state = .blockedOnInput := by decide +kernel
  obtain ⟨hquit, -, -⟩ := rejections_silent {} asking Network.nowhere .quit .waitingForInput
  obtain ⟨hattach, -, -⟩ := rejections_silent {} [] Network.nowhere (.attachRetrying {}) _
  constructor
  · obtain ⟨hstep, hnoted⟩ := hquit hblocked.1 (.waitingForInput hblocked.2 rfl)
    rw [hstep, hnoted (.inl rfl)]
  · obtain ⟨hstep, -⟩ :=
      hattach rfl (.exhausted rfl (fun k _ => ⟨_, hnowhere k, rfl⟩) (hnowhere _))
    exact hstep

end Engine

end RemoteDebugger
