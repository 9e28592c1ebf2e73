import RemoteDebugger.Proofs.Session.Chronicle
import RemoteDebugger.Proofs.Session.Correlation

/-!
# How long operations wait

An operation is over after a number of waits that is known when it begins, whatever the agent
does: each wait that is over leaves fewer to come.
-/

namespace RemoteDebugger

/-- How many waits there may still be. -/
def Progress.waits : Progress → Nat
  | .finished _   => 0
  | .waiting task => task.waits

/-- Whether a wait is over. -/
def Input.isWake : Input → Bool
  | .wake => true
  | _     => false

namespace Session

variable {s : Session}

/-- A request has no more waits than its goal, or than what is done without it. -/
lemma waits_askFor {m : Method} {args : List Json} {goal : Goal}
    {otherwise : Session → SessionError → Session × Progress} {n : Nat} (hgoal : goal.waits ≤ n)
    (hotherwise : ∀ s e, (otherwise s e).2.waits ≤ n) :
    (s.askFor m args goal otherwise).2.waits ≤ n := by
  rw [askFor]
  split
  · exact hgoal
  · exact hotherwise _ _

lemma waits_command (s : Session) (m : Method) (args : List Json) (goal : Goal) :
    (s.command m args goal).2.waits ≤ goal.waits := by
  rw [command]
  split
  · exact Nat.zero_le _
  · exact waits_askFor (Nat.le_refl _) fun _ _ => Nat.zero_le _

lemma waits_conclude (s : Session) (operation : Forced) (answer : Answer) (n : Nat) :
    (s.conclude operation answer).2.waits ≤ n := by
  simp only [conclude]
  split <;> exact Nat.zero_le n

lemma waits_afterForced (s : Session) (operation : Forced) (interrupted : Bool)
    (answer : Answer) :
    (s.afterForced operation interrupted answer).2.waits ≤ 1 := by
  rw [afterForced]
  split_ifs
  · exact waits_askFor (Nat.le_refl 1) fun s _ => waits_conclude s operation answer 1
  · exact waits_conclude s operation answer 1

lemma waits_carryOut (s : Session) (operation : Forced) (interrupted : Bool) :
    (s.carryOut operation interrupted).2.waits ≤ 2 :=
  waits_askFor (Nat.le_refl 2) fun s e =>
    Nat.le_succ_of_le (waits_afterForced s operation interrupted (.error e))

/-- A look has at most the pauses that are left before it, and then two waits. -/
lemma waits_look (s : Session) (pauses : Pauses) (operation : Forced) :
    (s.look pauses operation).2.waits ≤ pauses.left + 2 := by
  rw [look]
  split
  · exact Nat.le_trans (waits_carryOut s operation true) (Nat.le_add_left 2 _)
  · exact waits_conclude s operation _ _
  · exact waits_conclude _ operation _ _
  · split
    · next pause rest hnext =>
      rw [Pauses.next?] at hnext
      split at hnext
      · cases hnext
      · next n hleft =>
        cases hnext
        rw [hleft]
        exact Nat.le_refl (n + 3)
    · exact waits_conclude _ operation _ _

/-- A forced operation has at most as many pauses as are allowed, and then two waits. -/
lemma waits_force (s : Session) (operation : Forced) :
    (s.force operation).2.waits ≤ s.config.forceWait.attempts + 2 := by
  rw [force]
  split
  · exact waits_conclude s operation _ _
  · exact waits_conclude s operation _ _
  · exact Nat.le_trans (waits_carryOut s operation false) (Nat.le_add_left 2 _)
  · have hsent := quiet_send (s.modifyConnection ({ · with suppressNext := true }))
      (.notify .interrupt)
    split
    · next s' hs' =>
      rw [hs'] at hsent
      have hconfig : s'.config = s.config := hsent.undergoes.config
      have hlook := waits_look s' s'.config.forceWait.pauses operation
      rw [hconfig] at hlook ⊢
      exact Nat.le_trans hlook (Nat.add_le_add_right (Nat.sub_le _ 1) 2)
    · exact waits_conclude _ operation _ _

lemma waits_forceIfAttached (s : Session) (operation : Forced) (detached : Answer) :
    (s.forceIfAttached operation detached).2.waits ≤ s.config.forceWait.attempts + 2 := by
  rw [forceIfAttached]
  split_ifs
  · exact waits_force s operation
  · exact Nat.zero_le _

/-- When an operation begins, it has few waits before it. -/
lemma waits_start (s : Session) (network : Network) (operation : Operation) :
    (s.start network operation).2.waits ≤ s.config.forceWait.attempts + 2 := by
  have hcommand : ∀ m args goal, goal.waits ≤ 2 →
      (s.command m args goal).2.waits ≤ s.config.forceWait.attempts + 2 := by
    intro m args goal hgoal
    exact Nat.le_trans (Nat.le_trans (waits_command s m args goal) hgoal) (Nat.le_add_left 2 _)
  cases operation with
  | step => exact hcommand _ _ _ (by decide)
  | next => exact hcommand _ _ _ (by decide)
  | stepOut => exact hcommand _ _ _ (by decide)
  | resume => exact hcommand _ _ _ (by decide)
  | resumeTo file line => exact hcommand _ _ _ (by decide)
  | jump line => exact hcommand _ _ _ (by decide)
  | exec statement => exact hcommand _ _ _ (by decide)
  | eval expression => exact hcommand _ _ _ (by decide)
  | callStack => exact hcommand _ _ _ (by decide)
  | environment => exact hcommand _ _ _ (by decide)
  | setBreakpoint b =>
    show (s.setBreakpoint b).2.waits ≤ _
    rw [setBreakpoint]
    split_ifs
    · exact waits_forceIfAttached s _ _
    · exact waits_forceIfAttached { s with breakpoints := s.breakpoints.insert b } _ _
  | clearBreakpoint b =>
    exact waits_forceIfAttached { s with breakpoints := s.breakpoints.erase b.key } _ _
  | clearFile file =>
    exact waits_forceIfAttached { s with
      breakpoints :=
        (s.breakpoints.removeFile (FileName.canonical s.config.directory file)).2 } _ _
  | quit =>
    show s.quit.2.waits ≤ _
    rw [quit]
    split
    · exact Nat.zero_le _
    · next c _ =>
        exact waits_force { s with connection := some { c with quitting := true } }
          (.quit c.epoch)
  | _ => exact Nat.zero_le _

/-- A wait that is over leaves fewer to come. -/
lemma waits_wake (s : Session) (task : Task) : (s.wake task).2.waits < task.waits := by
  cases task with
  | stop pause pauses operation => exact Nat.lt_succ_of_le (waits_look s pauses operation)
  | answer n m goal =>
    show ((s.endWait n m).1.proceed (s.endWait n m).2 goal).2.waits < goal.waits
    cases goal with
    | value => exact Nat.one_pos
    | unit => exact Nat.one_pos
    | thenResume =>
      cases (s.endWait n m).2 with
      | ok v => exact Nat.lt_succ_of_le (waits_askFor (Nat.le_refl 1) fun _ _ => Nat.zero_le 1)
      | error e => exact Nat.two_pos
    | forced operation interrupted =>
      exact Nat.lt_succ_of_le (waits_afterForced _ operation interrupted _)
    | resumed operation own =>
      exact Nat.lt_succ_of_le (waits_conclude _ operation own 0)

end Session

namespace Engine

open Session

variable {e : Engine} {network : Network} {input : Input} {meanwhile : List (Network × Input)}

lemma waits_after (r : Session × Progress) : (after r).1.waits = r.2.waits := by
  obtain ⟨s, progress⟩ := r
  cases progress <;> rfl

/-- While operations are under way, each end of a wait leaves one wait less. -/
lemma waits_step (hbusy : e.task.isSome) (network : Network) (input : Input) :
    (e.step network input).1.waits + [input].countP Input.isWake ≤ e.waits := by
  obtain ⟨task, ht⟩ := Option.isSome_iff_exists.mp hbusy
  by_cases hwake : input = .wake
  · subst hwake
    have hless := waits_wake e.session task
    rw [step, ht]
    dsimp only
    rw [waits_after, waits, ht]
    exact hless
  · rw [waits, step_task ht network hwake, waits, ht]
    cases input with
    | wake => exact absurd rfl hwake
    | _ => exact Nat.le_refl _

/-- While operations are under way, no more waits get over than the operation had before it. -/
lemma countP_isWake_le (hbusy : e.Always (fun e _ => e.task.isSome) meanwhile) :
    (meanwhile.map Prod.snd).countP Input.isWake ≤ e.waits := by
  induction meanwhile generalizing e with
  | nil => exact Nat.zero_le _
  | cons i is ih =>
    obtain ⟨hfirst, hrest⟩ := hbusy
    have hstep := waits_step hfirst i.1 i.2
    rw [List.map_cons, ← List.singleton_append, List.countP_append]
    have hlater := ih hrest
    omega

/-- An operation that is begun has a bounded number of waits before it. -/
lemma waits_step_start (hidle : e.task = none) (network : Network) (operation : Operation) :
    (e.step network (.start operation)).1.waits ≤ e.session.config.forceWait.attempts + 2 := by
  rw [step, start, hidle]
  dsimp only
  rw [waits_after]
  exact waits_start e.session network operation

/-- An operation that is begun is over after a bounded number of waits. -/
lemma countP_isWake_of_start (hidle : e.task = none) {operation : Operation}
    (hbusy : (e.step network (.start operation)).1.Always (fun e _ => e.task.isSome) meanwhile) :
    (meanwhile.map Prod.snd).countP Input.isWake ≤ e.session.config.forceWait.attempts + 2 :=
  Nat.le_trans (countP_isWake_le hbusy) (waits_step_start hidle network operation)

end Engine

end RemoteDebugger
