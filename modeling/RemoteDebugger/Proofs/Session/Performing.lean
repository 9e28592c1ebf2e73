import RemoteDebugger.Proofs.Session.Ending

/-!
# From the beginning of an operation to its end

The user begins an operation, things happen, and the operation is over with an answer. If nothing
that happens ends the connection, only an operation that succeeds does.
-/

namespace RemoteDebugger

namespace Session

variable {s : Session}

/-- An operation that ends the connection by its answer succeeds. -/
lemma finished_of_hasQuit {operation : Forced} {answer : Answer}
    (h : s.hasQuit operation answer) :
    (s.conclude operation answer).2 = .finished (.ok .null) := by
  cases operation with
  | quit epoch =>
    cases answer with
    | ok v => rfl
    | error err =>
      cases err with
      | disconnected => rfl
      | _ => cases h
  | _ => cases h

lemma finished_of_leaves {task : Task} (h : s.leaves task) :
    (s.wake task).2 = .finished (.ok .null) := by
  cases task with
  | stop pause pauses operation => cases h
  | answer n m goal =>
    show ((s.endWait n m).1.proceed (s.endWait n m).2 goal).2 = _
    rw [leaves] at h
    cases goal with
    | forced operation interrupted =>
      obtain ⟨hresume, hquit⟩ := Bool.and_eq_true_iff.mp h
      rw [proceed, afterForced, if_neg (by simpa using hresume)]
      exact finished_of_hasQuit hquit
    | resumed operation own => exact finished_of_hasQuit h
    | _ => cases h

end Session

namespace Engine

variable {e : Engine} {answer : Answer} {network : Network} {operation : Operation}
    {meanwhile : List (Network × Input)}

/-! ### Answers of operations -/

/-- The answer of the operation under way, if it is over just after these things happened. -/
def finish? (e : Engine) : List (Network × Input) → Option Answer
  | []      => none
  | i :: is =>
    if (e.step i.1 i.2).1.task.isSome then (e.step i.1 i.2).1.finish? is
    else if is.isEmpty then (e.step i.1 i.2).2 else none

/-- The answer of an operation that is begun, if it is over just after these things happened. -/
def perform? (e : Engine) (network : Network) (operation : Operation)
    (meanwhile : List (Network × Input)) :
    Option Answer :=
  if meanwhile.isEmpty then (e.step network (.start operation)).2
  else if e.begins operation && (e.step network (.start operation)).2.isNone then
    (e.step network (.start operation)).1.finish? meanwhile
  else none

/-- An operation finishes with the input, or it goes on. -/
lemma finish?_cons {i : Network × Input} {is : List (Network × Input)}
    (h : e.finish? (i :: is) = some answer) :
    (e.step i.1 i.2).1.task.isSome ∧ (e.step i.1 i.2).1.finish? is = some answer ∨
      is = [] ∧ (e.step i.1 i.2).1.task = none ∧ (e.step i.1 i.2).2 = some answer := by
  rw [finish?] at h
  split_ifs at h with htask hlast
  · exact .inl ⟨htask, h⟩
  · exact .inr ⟨List.isEmpty_iff.mp hlast, Option.not_isSome_iff_eq_none.mp htask, h⟩

/-- An operation answers at once, or it finishes over what happens meanwhile. -/
lemma perform?_cases (h : e.perform? network operation meanwhile = some answer) :
    meanwhile = [] ∧ (e.step network (.start operation)).2 = some answer ∨
      e.begins operation ∧ (e.step network (.start operation)).2 = none ∧
        (e.step network (.start operation)).1.finish? meanwhile = some answer := by
  rw [perform?] at h
  split_ifs at h with hlast hwaits
  · exact .inl ⟨List.isEmpty_iff.mp hlast, h⟩
  · obtain ⟨hbegins, hnone⟩ := Bool.and_eq_true_iff.mp hwaits
    exact .inr ⟨hbegins, Option.isNone_iff_eq_none.mp hnone, h⟩

/-- What is kept by everything that happens, and holds of every answer that then comes, holds of
the answer of an operation. -/
lemma finish?_induct {I : Engine → Prop} {Q : Engine → Answer → Prop}
    (hstep : ∀ e network input, I e → I (e.step network input).1)
    (hanswer : ∀ e network input answer, I e → (e.step network input).2 = some answer →
      Q (e.step network input).1 answer)
    (h : I e) (hfinish : e.finish? meanwhile = some answer) : Q (e.run meanwhile).1 answer := by
  induction meanwhile generalizing e with
  | nil => cases hfinish
  | cons i is ih =>
    rcases finish?_cons hfinish with ⟨-, hrest⟩ | ⟨rfl, -, hlast⟩
    · exact ih (hstep e i.1 i.2 h) hrest
    · exact hanswer e i.1 i.2 answer h hlast

/-- What every step keeps, and an answer comes with, is true at the end of an operation. -/
lemma perform?_induct {I : Engine → Prop} {Q : Engine → Answer → Prop}
    (hstep : ∀ e network input, I e → I (e.step network input).1)
    (hanswer : ∀ e network input answer, I e → (e.step network input).2 = some answer →
      Q (e.step network input).1 answer)
    (h : I e) (hperform : e.perform? network operation meanwhile = some answer) :
    Q (e.run ((network, .start operation) :: meanwhile)).1 answer := by
  rcases perform?_cases hperform with ⟨rfl, hlast⟩ | ⟨-, -, hfinish⟩
  · exact hanswer e network _ answer h hlast
  · have hbegun : I (e.step network (.start operation)).1 := hstep e network _ h
    have hended := finish?_induct hstep hanswer hbegun hfinish
    exact hended

/-! ### What spares a connection -/

/-- Whether something that happens leaves the connection alone: what is to be written is written,
the agent neither ends its stream nor sends what is no frame nor stops in the middle of one, and
nobody closes the connection. -/
def spares (e : Engine) : Input → Bool
  | .wake => e.task.all fun task => e.session.takes (e.session.continuation task)
  | input => !e.severs input

/-- Once a wait has brought the answer of an operation, none is under way. -/
lemma task_of_wake (h : (e.step network .wake).2 = some answer) :
    (e.step network .wake).1.task = none := by
  rw [step] at h ⊢
  cases ht : e.task with
  | none =>
    rw [ht] at h
    cases h
  | some task =>
    rw [ht] at h
    dsimp only at h ⊢
    rcases hwake : e.session.wake task with ⟨s, progress⟩
    rw [hwake] at h
    cases progress with
    | finished answer => rfl
    | waiting task => cases h

/-- What leaves the connection alone does not end it, unless an operation succeeds by that. -/
lemma isAttached_of_spares (hattached : e.session.isAttached) {input : Input}
    (hspares : e.spares input)
    (hfails : input = .wake → ∀ v, (e.step network input).2 ≠ some (.ok v)) :
    (e.step network input).1.session.isAttached := by
  rw [isAttached_step hattached]
  cases input with
  | wake =>
    rw [severs]
    rw [spares] at hspares
    cases ht : e.task with
    | none => rfl
    | some task =>
      rw [ht, Option.all_some] at hspares
      rw [Option.any_some, hspares, Bool.not_true, Bool.false_or, Bool.not_eq_true',
        ← Bool.not_eq_true]
      intro hleaves
      apply hfails rfl .null
      have hquit : e.session.wake task = ((e.session.wake task).1, .finished (.ok .null)) :=
        Prod.ext rfl (Session.finished_of_leaves hleaves)
      rw [step, ht]
      dsimp only
      rw [hquit]
      rfl
  | _ => exact hspares

/-- An operation that fails leaves the connection there is, if all else does. -/
lemma isAttached_of_finish? {err : SessionError} (hattached : e.session.isAttached)
    (hspares : e.Always (fun e input => e.spares input) meanwhile)
    (hfinish : e.finish? meanwhile = some (.error err)) :
    (e.run meanwhile).1.session.isAttached := by
  induction meanwhile generalizing e with
  | nil => cases hfinish
  | cons i is ih =>
    obtain ⟨hfirst, hrest⟩ := hspares
    rcases finish?_cons hfinish with ⟨htask, hlater⟩ | ⟨rfl, -, hlast⟩
    · refine ih (isAttached_of_spares hattached hfirst ?_) hrest hlater
      intro hwake v hok
      rw [hwake] at htask hok
      rw [task_of_wake hok] at htask
      cases htask
    · apply isAttached_of_spares hattached hfirst
      intro _ v hok
      rw [hok] at hlast
      cases hlast

/-- An operation that fails leaves a session attached, if nothing else ends the connection. -/
lemma isAttached_of_perform? {err : SessionError} (hattached : e.session.isAttached)
    (hspares : e.Always (fun e input => e.spares input)
      ((network, .start operation) :: meanwhile))
    (hperform : e.perform? network operation meanwhile = some (.error err)) :
    (e.run ((network, .start operation) :: meanwhile)).1.session.isAttached := by
  obtain ⟨hfirst, hrest⟩ := hspares
  have hbegun : (e.step network (.start operation)).1.session.isAttached := by
    apply isAttached_of_spares hattached hfirst
    intro hwake
    cases hwake
  rcases perform?_cases hperform with ⟨rfl, -⟩ | ⟨-, -, hfinish⟩
  · exact hbegun
  · have hended := isAttached_of_finish? hbegun hrest hfinish
    exact hended

end Engine

end RemoteDebugger
