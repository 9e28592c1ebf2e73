import RemoteDebugger.Proofs.Session.Outlook

/-!
# Waiting for input

A session says that the program waits for input as long as there is a request for a line to be
answered, provided that the agent says nothing else of the program meanwhile. It must not: each
time it does, the two come apart, at once or with the next line.
-/

namespace RemoteDebugger

namespace Outlook

variable {o o' : Outlook}

/-- The program waits for input if and only if a request for a line is to be answered, and did
not wait before that request. -/
def Agrees (o : Outlook) : Prop :=
  ∀ p, o.posture = some p → (p.interaction = .blockedOnInput ↔ p.inputRequest.isSome) ∧
    ∀ id previous, p.inputRequest = some (id, previous) → previous ≠ .blockedOnInput

/-- Where no call is heard, the agreement lasts. -/
lemma Agrees.keeps (h : o.Agrees) (hkeeps : Keeps o o') : o'.Agrees := by
  intro p' hp'
  rcases hkeeps with hnone | ⟨-, -, p, q, hp, hq⟩
  · rw [hnone] at hp'
    cases hp'
  · rw [hq] at hp'
    cases hp'
    exact h p hp

/-- A new connection begins with the program running, and nothing is asked. -/
lemma agrees_connect (o : Outlook) (epoch : Nat) : (o.connect epoch).Agrees := by
  intro p hp
  cases hp
  exact ⟨by simp, fun _ _ h => nomatch h⟩

/-- With its line the program stands as it did before, when it did not wait. -/
lemma Agrees.answer (h : o.Agrees) : o.answer.Agrees := by
  intro p' hp'
  obtain ⟨p, hp, rfl⟩ := Option.map_eq_some_iff.mp hp'
  obtain ⟨hiff, hprevious⟩ := h p hp
  cases hr : p.inputRequest with
  | none => exact ⟨hiff, hprevious⟩
  | some request =>
    obtain ⟨id, previous⟩ := request
    dsimp only
    constructor
    · simpa using hprevious id previous hr
    · intro id' previous' h'
      cases h'

/-- Without a request to be answered, the program may stand in any other way. -/
lemma Agrees.stand (h : o.Agrees) {i : Interaction} (hi : i ≠ .blockedOnInput)
    (hnone : ∀ p, o.posture = some p → p.inputRequest = none) {location : Option Location}
    {told : Option Event} :
    Agrees { posture := o.posture.map ({ · with interaction := i }), location, told } := by
  intro p' hp'
  obtain ⟨p, hp, rfl⟩ := Option.map_eq_some_iff.mp hp'
  refine ⟨?_, (h p hp).2⟩
  dsimp only
  rw [hnone p hp]
  simpa using hi

/-- A program that does not wait may move in any way. -/
lemma Agrees.after (h : o.Agrees) {m : Move}
    (hm : ∀ p, o.posture = some p → p.inputRequest.isSome → m = .stay) : (o.after m).Agrees := by
  have hnone : m ≠ .stay → ∀ p, o.posture = some p → p.inputRequest = none := by
    intro hstay p hp
    by_contra hsome
    exact hstay (hm p hp (Option.isSome_iff_ne_none.mpr hsome))
  cases m with
  | stay => exact h
  | run => exact h.stand (by decide) (hnone (fun h => nomatch h))
  | stop location mark => exact h.stand (by decide) (hnone (fun h => nomatch h))
  | block id =>
    intro p' hp'
    obtain ⟨p, hp, rfl⟩ := Option.map_eq_some_iff.mp hp'
    refine ⟨by simp, ?_⟩
    intro id' previous hr hprevious
    cases hr
    have hsome : p.inputRequest.isSome := (h p hp).1.mp hprevious
    rw [hnone (fun h => nomatch h) p hp] at hsome
    cases hsome

end Outlook

namespace Session

/-- The session says that the program waits for input if and only if a line can be given to
it. -/
def InputAgrees (s : Session) : Prop := s.state = .blockedOnInput ↔ s.inputRequest?.isSome

variable {s : Session}

/-- A program is said to wait for a line if it has asked for one. -/
lemma inputAgrees_iff {p : Posture} (hp : s.outlook.posture = some p) :
    s.InputAgrees ↔ (p.interaction = .blockedOnInput ↔ p.inputRequest.isSome) := by
  have hstate : s.state = .blockedOnInput ↔ p.interaction = .blockedOnInput := by
    refine (state_eq_iff_posture s .blockedOnInput).trans ?_
    rw [hp]
    simp
  rw [InputAgrees, inputRequest?_eq, hp, Option.bind_some, hstate]

/-- What is said of a program that waits for input breaks the agreement, at once or when a line
is given. -/
lemma not_inputAgrees_of_move {payload : Bytes} (hblocked : s.state = .blockedOnInput)
    (hasked : s.inputRequest?.isSome) (hmove : s.move payload ≠ .stay)
    (hattached : (s.receiveFrame payload).isAttached) :
    ¬ (s.receiveFrame payload).InputAgrees ∨
      ∀ text, ((s.receiveFrame payload).provideInput text).1.isAttached →
        ¬ ((s.receiveFrame payload).provideInput text).1.InputAgrees := by
  obtain ⟨p, hp, hinteraction⟩ := (state_eq_iff_posture s .blockedOnInput).mp hblocked
  rw [inputRequest?_eq, hp, Option.bind_some] at hasked
  have hs : s.isAttached := by rw [isAttached_iff_posture, hp]; rfl
  have hafter : (s.receiveFrame payload).outlook = s.outlook.after (s.move payload) :=
    (steady_receiveFrame hs payload).eq (isAttached_iff_posture.mp hattached)
  -- a program that is said to stand in another way still has its request to be answered
  have hbreak : ∀ i, i ≠ .blockedOnInput → (s.receiveFrame payload).outlook.posture
      = some { p with interaction := i } → ¬ (s.receiveFrame payload).InputAgrees := by
    intro i hi hp' hagrees
    exact hi (((inputAgrees_iff hp').mp hagrees).mpr hasked)
  cases hm : s.move payload with
  | stay => exact absurd hm hmove
  | run =>
    left
    apply hbreak .running (by decide)
    rw [hafter, hm, Outlook.after, hp]
    rfl
  | stop location mark =>
    left
    apply hbreak .interacting (by decide)
    rw [hafter, hm, Outlook.after, hp]
    rfl
  | block id =>
    right
    intro text htext
    rw [hm] at hafter
    have hanswer : ((s.receiveFrame payload).provideInput text).1.outlook
        = (s.receiveFrame payload).outlook.answer :=
      (steady_provideInput _ text).eq (isAttached_iff_posture.mp htext)
    -- the line takes the program back to how it stood, which is waiting
    have hp' : ((s.receiveFrame payload).provideInput text).1.outlook.posture
        = some { p with interaction := .blockedOnInput, inputRequest := none } := by
      rw [hanswer, hafter, Outlook.answer, Outlook.after, hp, ← hinteraction]
      rfl
    rw [inputAgrees_iff hp']
    simp

end Session

namespace Engine

/-- While the program waits for a line of input, the agent says nothing of how it stands. -/
def Patient (e : Engine) (input : Input) : Prop :=
  ∀ m ∈ e.meetings input, m.1.inputRequest?.isSome → m.1.move m.2 = .stay

instance (e : Engine) (input : Input) : Decidable (e.Patient input) :=
  inferInstanceAs
    (Decidable (∀ m ∈ e.meetings input, m.1.inputRequest?.isSome → m.1.move m.2 = .stay))

/-- An agent that says nothing of a program that waits for a line keeps the agreement. -/
lemma agrees_run (config : SessionConfig) {run : List (Network × Input)}
    (hrun : Always Patient { session := { config } } run) :
    (Engine.run { session := { config } } run).1.session.outlook.Agrees := by
  refine run_induct (I := fun e => e.session.outlook.Agrees) ?_ (fun _ hp => nomatch hp) hrun
  intro e network input he hpatient
  apply outlook_step Outlook.Agrees.keeps Outlook.agrees_connect
    (fun _ => Outlook.Agrees.answer) network _ he
  intro m hm hagrees
  apply hagrees.after
  intro p hp hasked
  apply hpatient m hm
  rw [Session.inputRequest?_eq, hp]
  exact hasked

/-- As long as the agent says nothing of how the program stands while it waits for a line, an
attached session says that it waits if and only if the line can be given. Whatever else the agent
says of it then breaks that, at once or when a line is given. -/
theorem blocked_iff_asked (config : SessionConfig) (run : List (Network × Input)) :
    (Always Patient { session := { config } } run →
      (Engine.run { session := { config } } run).1.session.isAttached →
        (Engine.run { session := { config } } run).1.session.InputAgrees) ∧
      ∀ (s : Session) (payload : Bytes), s.state = .blockedOnInput → s.inputRequest?.isSome →
        s.move payload ≠ .stay → (s.receiveFrame payload).isAttached →
          ¬ (s.receiveFrame payload).InputAgrees ∨
            ∀ text, ((s.receiveFrame payload).provideInput text).1.isAttached →
              ¬ ((s.receiveFrame payload).provideInput text).1.InputAgrees := by
  constructor
  · intro hrun hattached
    obtain ⟨p, hp⟩ := Option.isSome_iff_exists.mp (Session.isAttached_iff_posture.mp hattached)
    rw [Session.inputAgrees_iff hp]
    exact ((agrees_run config hrun) p hp).1
  · intro s payload hblocked hasked hmove hattached
    exact Session.not_inputAgrees_of_move hblocked hasked hmove hattached

/-- The program stops, asks for a line and gets it, and asks for another one. -/
def asking : List (Network × Input) :=
  [(fun _ _ => .ok (), .start (.attach {})),
    (Network.nowhere, .bytes (Frame.encode
      (Record.notification "interaction" [.string "a.py", Json.nat 1, .string "x"] []).encode)),
    (Network.nowhere, .bytes (Frame.encode (Record.request 7 "readline" [] []).encode)),
    (Network.nowhere, .start (.input "one")),
    (Network.nowhere, .bytes (Frame.encode (Record.request 8 "readline" [] []).encode))]

/-- The program that has got its line waits for the next one. -/
theorem blocked_iff_asked_asking :
    (Engine.run { session := { config := {} } } asking).1.session.InputAgrees ∧
      (Engine.run { session := { config := {} } } asking).1.session.inputRequest?
        = some (8, .interacting) := by
  have hrun : Always Patient { session := { config := {} } } asking := by decide +kernel
  have hend : (Engine.run { session := { config := {} } } asking).1.session.isAttached ∧
      (Engine.run { session := { config := {} } } asking).1.session.inputRequest?
        = some (8, .interacting) := by decide +kernel
  exact ⟨(blocked_iff_asked {} asking).1 hrun hend.1, hend.2⟩

/-- The program asks for two lines and gets one. -/
def askingTwice : List (Network × Input) :=
  [(fun _ _ => .ok (), .start (.attach {})),
    (Network.nowhere, .bytes (Frame.encode (Record.request 7 "readline" [] []).encode
      ++ Frame.encode (Record.request 8 "readline" [] []).encode)),
    (Network.nowhere, .start (.input "one"))]

/-- The session says that it waits for another one, but none can be given. -/
theorem blocked_without_request :
    (Engine.run { session := { config := {} } } askingTwice).1.session.state = .blockedOnInput ∧
      (Engine.run { session := { config := {} } } askingTwice).1.session.inputRequest?
        = none := by
  decide +kernel

end Engine

end RemoteDebugger
