import RemoteDebugger.Proofs.Session.Retaining

/-!
# Hidden stops

A stop is hidden if the program stands at it and user interfaces were told something else last.
It gets hidden if the session is to let the program run on by itself: because it was to run over
the stop, or because it stopped the program for an operation. Here is what payloads and
operations do about that.
-/

namespace RemoteDebugger

/-! ### Stops and events -/

namespace Outlook

variable {o o' : Outlook}

/-- Whether the last that was told of the program is that it stands at a line. -/
def marks (o : Outlook) (l : Location) : Bool :=
  match o.told with
  | some (.markLine file line _) => file == l.file && line == l.line
  | _                            => false

/-- Whether there is a last stop, and something else was told last. -/
def isUntold (o : Outlook) : Bool := o.location.any fun l => !o.marks l

/-- Whether the program stands at a stop that is not shown. -/
def isHiding (o : Outlook) : Bool := o.posture.any (·.interaction == .interacting) && o.isUntold

/-- The stop that a line of input takes the program back to is shown, or the program stands
anyway. -/
def Returns (o : Outlook) : Prop :=
  ∀ p id, o.posture = some p → p.inputRequest = some (id, .interacting) →
    p.interaction = .interacting ∨ o.isUntold = false

lemma marks_iff {l : Location} :
    o.marks l ↔ ∃ context, o.told = some (.markLine l.file l.line context) := by
  rw [marks]
  split
  · next file line context htold =>
    rw [htold, Bool.and_eq_true, beq_iff_eq, beq_iff_eq]
    constructor
    · rintro ⟨rfl, rfl⟩
      exact ⟨context, rfl⟩
    · rintro ⟨context', h⟩
      cases h
      exact ⟨rfl, rfl⟩
  · next hnot =>
    constructor
    · intro h
      cases h
    · rintro ⟨context, h⟩
      exact absurd h (hnot _ _ _)

/-- A stop is hidden while the program stands at it and it was not told. -/
lemma isHiding_iff : o.isHiding ↔
    (∃ p, o.posture = some p ∧ p.interaction = .interacting) ∧ o.isUntold := by
  rw [isHiding, Bool.and_eq_true, Option.any_eq_true]
  simp only [beq_iff_eq]

lemma isUntold_congr (hlocation : o'.location = o.location) (htold : o'.told = o.told) :
    o'.isUntold = o.isUntold := by
  simp only [isUntold, marks, hlocation, htold]

/-- A stop is not hidden by what keeps the outlook. -/
lemma Keeps.isHiding (h : Keeps o o') (hhiding : o'.isHiding) : o.isHiding := by
  obtain ⟨⟨p', hp', hi⟩, huntold⟩ := isHiding_iff.mp hhiding
  rcases h with hnone | ⟨hlocation, htold, p, q, hp, hq⟩
  · rw [hnone] at hp'
    cases hp'
  · rw [hq] at hp'
    cases hp'
    rw [isUntold_congr hlocation htold] at huntold
    exact isHiding_iff.mpr ⟨⟨p, hp, hi⟩, huntold⟩

/-- Where no call is heard, the program goes back to the same place. -/
lemma Returns.keeps (h : o.Returns) (hkeeps : Keeps o o') : o'.Returns := by
  intro p' id hp' hr
  rcases hkeeps with hnone | ⟨hlocation, htold, p, q, hp, hq⟩
  · rw [hnone] at hp'
    cases hp'
  · rw [hq] at hp'
    cases hp'
    rw [isUntold_congr hlocation htold]
    exact h p id hp hr

lemma returns_connect (o : Outlook) (epoch : Nat) : (o.connect epoch).Returns := by
  intro p id hp hr
  cases hp
  cases hr

/-- After a line was given there is no place to go back to. -/
lemma returns_answer (o : Outlook) : o.answer.Returns := by
  intro p' id hp' hr'
  obtain ⟨p, hp, rfl⟩ := Option.map_eq_some_iff.mp hp'
  cases hr : p.inputRequest with
  | none =>
    rw [hr] at hr'
    dsimp only at hr'
    rw [hr] at hr'
    cases hr'
  | some request =>
    rw [hr] at hr'
    cases hr'

/-- A line of input hides no stop. -/
lemma Returns.isHiding_answer (h : o.Returns) (hhiding : o.answer.isHiding) : o.isHiding := by
  obtain ⟨⟨p', hp', hi⟩, huntold⟩ := isHiding_iff.mp hhiding
  obtain ⟨p, hp, rfl⟩ := Option.map_eq_some_iff.mp hp'
  have huntold' : o.isUntold := huntold
  refine isHiding_iff.mpr ⟨⟨p, hp, ?_⟩, huntold'⟩
  cases hr : p.inputRequest with
  | none =>
    rw [hr] at hi
    exact hi
  | some request =>
    obtain ⟨id, previous⟩ := request
    rw [hr] at hi
    dsimp only at hi
    subst hi
    rcases h p id hp hr with hstands | htold
    · exact hstands
    · rw [huntold'] at htold
      cases htold

/-- A program that asked for a line does not run on before it has it, and asks for none at a
hidden stop. -/
lemma Returns.after (h : o.Returns) {move : Move}
    (hrun : move = .run → ∀ p id, o.posture = some p → p.inputRequest ≠ some (id, .interacting))
    (hblock : ∀ id, move = .block id → o.isHiding = false) : (o.after move).Returns := by
  cases move with
  | stay => exact h
  | run =>
    intro p' id hp' hr
    obtain ⟨p, hp, rfl⟩ := Option.map_eq_some_iff.mp hp'
    exact absurd hr (hrun rfl p id hp)
  | stop location mark =>
    intro p' id hp' hr
    obtain ⟨p, hp, rfl⟩ := Option.map_eq_some_iff.mp hp'
    exact .inl rfl
  | block n =>
    intro p' id hp' hr
    obtain ⟨p, hp, rfl⟩ := Option.map_eq_some_iff.mp hp'
    have hi : p.interaction = .interacting := congrArg Prod.snd (Option.some.inj hr)
    cases huntold : o.isUntold with
    | false => exact .inr huntold
    | true =>
      have hhiding : o.isHiding := isHiding_iff.mpr ⟨⟨p, hp, hi⟩, huntold⟩
      rw [hblock n rfl] at hhiding
      cases hhiding

end Outlook

/-! ### Operations that end the program or let it run on -/

/-- The forced operation that a wait is for. -/
def Task.operation? : Task → Option Forced
  | .stop _ _ operation                 => some operation
  | .answer _ _ (.forced operation _)   => some operation
  | .answer _ _ (.resumed operation _)  => some operation
  | _                                   => none

/-- Whether the operation under way stops the program and is to let it run on. -/
def Task.interrupts : Task → Bool
  | .stop _ _ _                   => true
  | .answer _ _ (.forced _ true)  => true
  | _                             => false

namespace Session

open Outlook

variable {s s' : Session} {task : Option Task}

/-- If the user is still quitting on the connection `n`, the operation goes on. -/
def Pursues (n : Nat) (r : Session × Progress) : Prop :=
  r.1.quitting? = some n → ∃ t, r.2 = .waiting t ∧ t.operation? = some (.quit n)

/-- As an attempt to quit is concluded, the session quits no more. -/
lemma pursues_conclude (s : Session) (n : Nat) (answer : Answer) :
    Pursues n (s.conclude (.quit n) answer) := by
  have hdrop : (s.drop n).quitting? ≠ some n := by
    intro h
    rw [drop] at h
    split_ifs at h with hepoch
    · rw [quitting?, connection_detach] at h
      cases h
    · obtain ⟨c, hc, hq⟩ := Option.bind_eq_some_iff.mp h
      split_ifs at hq
      rw [hc, Option.map_some] at hepoch
      exact hepoch hq
  have hrelent : (s.modifyConnection ({ · with quitting := false })).quitting? ≠ some n := by
    intro h
    obtain ⟨c', hc', hq⟩ := Option.bind_eq_some_iff.mp h
    obtain ⟨c, -, rfl⟩ := Option.map_eq_some_iff.mp hc'
    cases hq
  intro h
  cases answer with
  | ok v => exact absurd h hdrop
  | error e =>
    cases e with
    | disconnected => exact absurd h hdrop
    | _ => exact absurd h hrelent

lemma pursues_askFor {n : Nat} {m : Method} {args : List Json} {goal : Goal}
    {otherwise : Session → SessionError → Session × Progress}
    (hgoal : ∀ id, (Task.answer id m goal).operation? = some (.quit n))
    (hotherwise : ∀ s' e, Pursues n (otherwise s' e)) :
    Pursues n (s.askFor m args goal otherwise) := by
  rw [askFor]
  split
  · next s' id hs' => exact fun _ => ⟨_, rfl, hgoal id⟩
  · exact hotherwise _ _

/-- An attempt to quit goes on until it is concluded. -/
lemma pursues_afterForced (s : Session) (n : Nat) (interrupted : Bool) (answer : Answer) :
    Pursues n (s.afterForced (.quit n) interrupted answer) := by
  rw [afterForced]
  split_ifs
  · exact pursues_askFor (fun _ => rfl) fun s' _ => pursues_conclude s' n answer
  · exact pursues_conclude s n answer

lemma pursues_carryOut (s : Session) (n : Nat) (interrupted : Bool) :
    Pursues n (s.carryOut (.quit n) interrupted) :=
  pursues_askFor (fun _ => rfl) fun s' _ => pursues_afterForced s' n interrupted _

lemma pursues_look (s : Session) (pauses : Pauses) (n : Nat) :
    Pursues n (s.look pauses (.quit n)) := by
  rw [look]
  split
  · exact pursues_carryOut s n true
  · exact pursues_conclude s n _
  · exact pursues_conclude s.showNext n _
  · split
    · exact fun _ => ⟨_, rfl, rfl⟩
    · exact pursues_conclude s.showNext n _

lemma pursues_force (s : Session) (n : Nat) : Pursues n (s.force (.quit n)) := by
  rw [force]
  split
  · exact pursues_conclude s n _
  · exact pursues_conclude s n _
  · exact pursues_carryOut s n false
  · split
    · exact pursues_look _ _ n
    · exact pursues_conclude _ n _

/-- A command for which the program was stopped is waited for. -/
lemma carryOut_interrupts {operation : Forced} (h : (s.carryOut operation true).1.isAttached) :
    ∃ t, (s.carryOut operation true).2 = .waiting t ∧ t.interrupts := by
  rw [carryOut] at h ⊢
  have hask :=
    askFor_cases (fun s' e => stable_retains.firm.afterForced s' operation true (.error e)) h
  rw [hask.2]
  exact ⟨_, rfl, rfl⟩

/-- A program that was stopped for an operation is told to run on, unless it is ended. -/
lemma isResuming_afterForced {operation : Forced} {answer : Answer}
    (hstate : s.state = .interacting) (hquits : ∀ n, s.quitting? = some n → operation = .quit n)
    (hends : ∀ n, operation = .quit n → ∃ v, answer = .ok v)
    (hattached : (s.afterForced operation true answer).1.isAttached) :
    (s.afterForced operation true answer).1.IsResuming := by
  rw [afterForced] at hattached ⊢
  obtain ⟨c, hc, hi⟩ := (state_eq_seen_iff s .interacting).mp hstate
  cases hq : c.quitting with
  | true =>
    -- only the attempt to quit goes on while the session is quitting, and it has ended the
    -- session
    have hop : operation = .quit c.epoch :=
      hquits _ (by rw [quitting?, hc, Option.bind_some, if_pos hq])
    obtain ⟨v, rfl⟩ := hends _ hop
    have hgone : (s.conclude operation (.ok v)).1.isAttached = false := by
      rw [hop]
      show (s.drop c.epoch).isAttached = false
      rw [drop, hc, Option.map_some, if_pos rfl]
      exact isAttached_detach s
    rw [mustResume, hc] at hattached
    simp [hq, hgone] at hattached
  | false =>
    have hmust : s.mustResume true := by
      rw [mustResume, hc]
      simp [hq, hi]
    rw [if_pos hmust] at hattached ⊢
    obtain ⟨hask, heq⟩ :=
      askFor_cases (fun s' _ => stable_retains.firm.conclude s' operation answer) hattached
    rw [heq]
    exact isResuming_ask hask

/-- A program that is to be ended is not told to run on. -/
lemma mustResume_of_quitting {n : Nat} (h : s.quitting? = some n) (interrupted : Bool) :
    s.mustResume interrupted = false := by
  obtain ⟨c, hc, hq⟩ := Option.bind_eq_some_iff.mp h
  split_ifs at hq with hquitting
  rw [mustResume, hc]
  simp [hquitting]

/-- An attempt to quit that failed leaves the session as it was, not quitting any more. -/
lemma conclude_quit_error (s : Session) (n : Nat) {error : SessionError}
    (h : error ≠ .disconnected) :
    s.conclude (.quit n) (.error error)
      = (s.modifyConnection ({ · with quitting := false }), .finished (.error error)) := by
  cases error with
  | disconnected => exact absurd rfl h
  | _ => rfl

/-! ### Frames -/

/-- Whether a payload leaves no stop hidden for good, given whether the session is `stopping` the
program. -/
def isCandid (s : Session) (stopping : Bool) (payload : Bytes) : Bool :=
  match s.move payload with
  -- the request to run on from a hidden stop is not refused
  | .stay               => !(s.outlook.isHiding && s.refuses .resume payload)
  -- a program that asked for a line at a stop does not run on before it has it
  | .run                => !s.inputRequest?.any (·.2 == .interacting)
  -- a stop at a line is hidden only if it was asked for or is to be run over
  | .stop (some _) none => stopping || s.connection.any Connection.startContinue
  | .stop _ _           => true
  -- no line is asked for at a hidden stop
  | .block _            => !s.outlook.isHiding

/-- News of a stop are of a stop at no line, or it is not shown, or it is shown where it is. -/
lemma moveOfStop_cases {args : List Json} {kwargs : Members} {location : Option Location}
    {mark : Option Event} (h : s.moveOfStop args kwargs = .stop location mark) :
    location = none ∨ ∃ l, location = some l ∧
      (mark = none ∨ ∃ context, mark = some (.markLine l.file l.line context)) := by
  simp only [moveOfStop] at h
  split_ifs at h
  · cases h
    exact .inl rfl
  · cases h
    exact .inr ⟨_, rfl, .inl rfl⟩
  · cases h
    exact .inr ⟨_, rfl, .inr ⟨_, rfl⟩⟩

/-- Only a call that tells of a stop stops the program. -/
lemma of_moveOfCall_eq_stop {id : Option RequestId} {method : String} {args : List Json}
    {kwargs : Members} {location : Option Location} {mark : Option Event}
    (h : s.moveOfCall id method args kwargs = .stop location mark) :
    Method.ofName? method = some .interaction ∧
      s.moveOfStop args kwargs = .stop location mark := by
  simp only [moveOfCall] at h
  split at h
  · next hm => exact ⟨hm, h⟩
  · cases h
  · cases h

/-- A payload that tells of a stop is a call. -/
lemma receiveFrame_of_move_eq_stop (hattached : s.isAttached) {payload : Bytes}
    {location : Option Location} {mark : Option Event}
    (h : s.move payload = .stop location mark) :
    ∃ id args kwargs, s.moveOfStop args kwargs = .stop location mark ∧
      s.receiveFrame payload = (s.receiveInteraction args kwargs).respond id (.ok .null) := by
  obtain ⟨c, hc⟩ := Option.isSome_iff_exists.mp hattached
  rw [move] at h
  rw [receiveFrame, hc]
  dsimp only
  cases hdecode : Record.decode payload with
  | error e =>
    rw [hdecode] at h
    cases h
  | ok r =>
    rw [hdecode] at h
    cases r with
    | response n outcome =>
      dsimp only at h
      rw [moveOfAnswer] at h
      split at h
      · split_ifs at h
      · cases h
    | notification method args kwargs =>
      obtain ⟨hm, hstop⟩ := of_moveOfCall_eq_stop h
      refine ⟨none, args, kwargs, hstop, ?_⟩
      show s.receiveCall none method args kwargs = _
      rw [receiveCall, hm]
    | request n method args kwargs =>
      obtain ⟨hm, hstop⟩ := of_moveOfCall_eq_stop h
      refine ⟨some n, args, kwargs, hstop, ?_⟩
      show s.receiveCall (some n) method args kwargs = _
      rw [receiveCall, hm]

lemma retains_respond (s : Session) (id : Option RequestId) (outcome : Except RemoteError Json) :
    Retains s (s.respond id outcome) := by
  cases id with
  | none => exact Retains.of_eq rfl
  | some id => exact retains_send s _

/-- A program that is to run over a stop is told so. -/
lemma isResuming_of_startContinue (hstart : s.connection.any Connection.startContinue)
    {payload : Bytes} {location : Option Location} {mark : Option Event}
    (hmove : s.move payload = .stop location mark)
    (hattached : (s.receiveFrame payload).isAttached) : (s.receiveFrame payload).IsResuming := by
  obtain ⟨c, hc, hstart⟩ := (Option.any_eq_true _ _).mp hstart
  obtain ⟨id, args, kwargs, -, heq⟩ :=
    receiveFrame_of_move_eq_stop (by rw [isAttached, hc]; rfl) hmove
  rw [heq] at hattached ⊢
  have hretains := retains_respond (s.receiveInteraction args kwargs) id (.ok .null)
  obtain ⟨c', hc'⟩ := Option.isSome_iff_exists.mp hattached
  obtain ⟨d, hd, -⟩ := hretains c' hc'
  refine hretains.isResuming hattached ?_
  have htold : (s.receiveInteraction args kwargs).isAttached := by rw [isAttached, hd]; rfl
  simp only [receiveInteraction, hc, hstart, if_true] at htold ⊢
  exact isResuming_tell htold

end Session

end RemoteDebugger
