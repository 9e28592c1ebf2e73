import RemoteDebugger.Proofs.Session.Hiding

/-!
# Stops are shown

As long as a stop is hidden, either the request to run on is pending, or the operation is under
way that is to send it. So no stop stays hidden, provided that the program runs on when it is
told to and ends when it is told to, and that it asks for lines of input at other times.
-/

namespace RemoteDebugger

namespace Session

open Outlook

variable {s s' : Session} {task : Option Task}

/-- Where the program stands is what user interfaces were told last. -/
def ShowsStop (s : Session) : Prop :=
  s.state = .interacting → ∀ l, s.location = some l →
    ∃ context, s.events.lastPlace? = some (.markLine l.file l.line context)

/-! ### Honest sessions -/

/-- A stop that is not shown is about to be left: the program was told to run on, or the
operation under way is to tell it so. Who is quitting still waits for the end of the program. -/
structure Honest (s : Session) (task : Option Task) : Prop where
  books : s.books.Sound
  quits : ∀ n, s.quitting? = some n → ∃ t, task = some t ∧ t.operation? = some (.quit n)
  returns : s.outlook.Returns
  resumes : s.outlook.isHiding → s.IsResuming ∨ ∃ t, task = some t ∧ t.interrupts

lemma isAttached_of_isHiding (h : s.outlook.isHiding) : s.isAttached := by
  obtain ⟨⟨p, hp, -⟩, -⟩ := isHiding_iff.mp h
  rw [isAttached_iff_posture, hp]
  rfl

/-- A stop is hidden while the state says that the program stands and no event tells of the
stop. -/
lemma isHiding_iff_state : s.outlook.isHiding ↔ s.state = .interacting ∧ s.outlook.isUntold := by
  rw [isHiding_iff, ← state_eq_iff_posture]
  rfl

/-- A stop is shown if it is not hidden. -/
lemma showsStop_iff : s.ShowsStop ↔ s.outlook.isHiding = false := by
  constructor
  · intro h
    by_contra hhiding
    obtain ⟨hstate, huntold⟩ := isHiding_iff_state.mp (by simpa using hhiding)
    obtain ⟨l, hl, hmarks⟩ := (Option.any_eq_true _ _).mp huntold
    obtain ⟨context, htold⟩ := h hstate l hl
    rw [marks_iff.mpr ⟨context, htold⟩] at hmarks
    cases hmarks
  · intro h hstate l hl
    have hlocation : s.outlook.location = some l := hl
    by_contra hmarks
    have huntold : s.outlook.isUntold := by
      rw [isUntold, hlocation, Option.any_some, Bool.not_eq_true', Bool.eq_false_iff]
      exact fun h => hmarks (marks_iff.mp h)
    rw [isHiding_iff_state.mpr ⟨hstate, huntold⟩] at h
    cases h

lemma isHiding_relent (s : Session) :
    (s.modifyConnection ({ · with quitting := false })).outlook.isHiding
      = s.outlook.isHiding := by
  rw [outlook_modifyConnection (g := ({ · with quitting := false })) fun _ => rfl]
  simp only [isHiding]
  cases s.outlook.posture <;> rfl

/-- A session stays honest where no call is heard and the requests to run on are retained. -/
lemma Honest.keeps (h : s.Honest task) (hbooks : s'.books.Sound)
    (hkeeps : Keeps s.outlook s'.outlook) (hretains : Retains s s') : s'.Honest task where
  books := hbooks
  quits n hn := h.quits n (hretains.quitting? hn)
  returns := h.returns.keeps hkeeps
  resumes hhiding := by
    rcases h.resumes (hkeeps.isHiding hhiding) with hresuming | htask
    · exact .inl (hretains.isResuming (isAttached_of_isHiding hhiding) hresuming)
    · exact .inr htask

/-- Without an operation under way, one may begin. -/
lemma Honest.begin (h : s.Honest none) (task : Option Task) : s.Honest task where
  books := h.books
  quits n hn := by
    obtain ⟨t, ht, -⟩ := h.quits n hn
    cases ht
  returns := h.returns
  resumes hhiding := by
    rcases h.resumes hhiding with hresuming | ⟨t, ht, -⟩
    · exact .inl hresuming
    · cases ht

/-- A session that is detached has no stop to be hidden. -/
lemma Honest.detach (h : s.Honest task) : s.detach.Honest task := by
  apply h.keeps
  · rw [books_detach]
    exact h.books.close
  · exact stable_keeps.detach s
  · exact stable_retains.detach s

/-- A session stays honest as a connection changes in what does not matter. -/
lemma Honest.modify (h : s.Honest task) {f : Connection → Connection}
    (hposture : ∀ c, (f c).posture = c.posture) (hpending : ∀ c, c.pending ⊆ (f c).pending)
    (hbooks : (s.modifyConnection f).books.Sound) : (s.modifyConnection f).Honest task := by
  apply h.keeps hbooks
  · exact keeps_of_eq (outlook_modifyConnection_of_eq hposture)
  · refine retains_modify (fun c => ⟨?_, ?_, hpending c⟩) s
    · exact congrArg Posture.epoch (hposture c).symm
    · intro hq
      have hquitting : (f c).quitting = c.quitting := congrArg Posture.quitting (hposture c)
      rw [← hquitting]
      exact hq

/-- Nobody begins or ends to quit with a payload. -/
lemma quitting?_receiveFrame (hattached : s.isAttached) {payload : Bytes} {n : Nat}
    (h : (s.receiveFrame payload).quitting? = some n) : s.quitting? = some n := by
  have hsame : ∀ o m,
      ((Outlook.after o m).posture.bind fun p => if p.quitting then some p.epoch else none)
        = o.posture.bind fun p => if p.quitting then some p.epoch else none := by
    intro o m
    cases m <;> cases ho : o.posture <;> simp [Outlook.after, ho]
  rw [quitting?_eq] at h ⊢
  rcases steady_receiveFrame hattached payload with heq | heq
  · rw [heq, hsame] at h
    exact h
  · rw [heq, posture_close] at h
    cases h

/-- A candid payload keeps a session honest. -/
lemma Honest.receiveFrame (h : s.Honest task) (hattached : s.isAttached) {stopping : Bool}
    (hstopping : stopping → ∃ t, task = some t ∧ t.interrupts) {payload : Bytes}
    (hcandid : s.isCandid stopping payload) : (s.receiveFrame payload).Honest task where
  books := h.books.onFrame (onFrame_receiveFrame hattached payload)
  quits n hn := h.quits n (quitting?_receiveFrame hattached hn)
  returns := by
    refine Returns.keeps (h.returns.after ?_ ?_) (steady_receiveFrame hattached payload).keeps
    · intro hm p id hp hr
      rw [isCandid, hm, inputRequest?_eq, hp, Option.bind_some, hr] at hcandid
      cases hcandid
    · intro id hm
      rw [isCandid, hm] at hcandid
      simpa using hcandid
  resumes hhiding := by
    have hattached' := isAttached_of_isHiding hhiding
    have houtlook : (s.receiveFrame payload).outlook = s.outlook.after (s.move payload) :=
      (steady_receiveFrame hattached payload).eq (isAttached_iff_posture.mp hattached')
    obtain ⟨⟨p', hp', hi⟩, huntold⟩ := isHiding_iff.mp hhiding
    rw [houtlook] at hhiding hp' huntold
    rw [isCandid] at hcandid
    -- only a stop that is not told can be hidden anew, and then the program is to be let go
    cases hm : s.move payload with
    | stay =>
      rw [hm] at hhiding hcandid
      have hhiding' : s.outlook.isHiding := hhiding
      rcases h.resumes hhiding' with hresuming | htask
      · left
        apply isResuming_receiveFrame h.books hresuming hattached'
        · simpa [hhiding'] using hcandid
        · intro hrun
          rw [hm] at hrun
          cases hrun
      · exact .inr htask
    | run =>
      rw [hm] at hp'
      obtain ⟨p, hp, rfl⟩ := Option.map_eq_some_iff.mp hp'
      cases hi
    | block id =>
      rw [hm] at hp'
      obtain ⟨p, hp, rfl⟩ := Option.map_eq_some_iff.mp hp'
      cases hi
    | stop location mark =>
      obtain ⟨id, args, kwargs, hstop, -⟩ := receiveFrame_of_move_eq_stop hattached hm
      rw [hm] at huntold hcandid
      rcases moveOfStop_cases hstop with rfl | ⟨l, rfl, rfl | ⟨context, rfl⟩⟩
      · cases huntold
      · rcases Bool.or_eq_true_iff.mp hcandid with hstop | hstart
        · exact .inr (hstopping hstop)
        · exact .inl (isResuming_of_startContinue hstart hm hattached')
      · have hmarks : (s.outlook.after
            (.stop (some l) (some (.markLine l.file l.line context)))).marks l :=
          marks_iff.mpr ⟨context, rfl⟩
        have hnot : (!(s.outlook.after
            (.stop (some l) (some (.markLine l.file l.line context)))).marks l) = true :=
          huntold
        rw [hmarks] at hnot
        cases hnot

/-! ### Operations -/

lemma retains_provideInput (s : Session) (text : String) :
    Retains s (s.provideInput text).1 := by
  rw [provideInput]
  split
  · exact Retains.of_eq rfl
  · next c hc =>
    split
    · exact Retains.of_eq rfl
    · next id previous hr =>
      refine Retains.trans ?_ (retains_send _ _)
      intro c' hc'
      cases hc'
      exact ⟨c, hc, rfl, fun hq => hq, List.Subset.refl _⟩

/-- A line of input keeps a session honest. -/
lemma Honest.provideInput (h : s.Honest task) (text : String) :
    (s.provideInput text).1.Honest task where
  books := h.books.calm (calm_provideInput s text)
  quits n hn := h.quits n ((retains_provideInput s text).quitting? hn)
  returns := (returns_answer s.outlook).keeps (steady_provideInput s text).keeps
  resumes hhiding := by
    have hhiding' :=
      h.returns.isHiding_answer ((steady_provideInput s text).keeps.isHiding hhiding)
    rcases h.resumes hhiding' with hresuming | htask
    · exact .inl ((retains_provideInput s text).isResuming
        (isAttached_of_isHiding hhiding) hresuming)
    · exact .inr htask

/-- A session that has just been attached is honest. -/
lemma Honest.connected (hbooks : s.books.Sound) (remote : Bool) (task : Option Task) :
    (s.connected remote).Honest task where
  books := hbooks.connect
  quits n hn := nomatch hn
  returns := returns_connect s.outlook _
  resumes hhiding := by
    have huntold := (isHiding_iff.mp hhiding).2
    cases huntold

/-- A session stays honest as the user sets about to quit. -/
lemma honest_quit (h : s.Honest none) (hbooks : s.quit.1.books.Sound) :
    s.quit.1.Honest (Engine.after s.quit).1.task := by
  cases hc : s.connection with
  | none =>
    have hquit : s.quit = s.fail .notAttached := by rw [quit, hc]
    rw [hquit]
    exact h
  | some c =>
    have hquit : s.quit
        = { s with connection := some { c with quitting := true } }.force (.quit c.epoch) := by
      rw [quit, hc]
    have hkeeps := stable_keeps.firm.quit s (keeps_quitting s true)
    have hretains :=
      stable_retains.firm.force { s with connection := some { c with quitting := true } }
        (.quit c.epoch)
    refine ⟨hbooks, ?_, h.returns.keeps hkeeps, ?_⟩
    · intro n hn
      rw [hquit] at hn ⊢
      have hepoch : some c.epoch = some n := hretains.quitting? hn
      cases hepoch
      obtain ⟨t, ht, hop⟩ := pursues_force _ c.epoch hn
      exact ⟨t, Engine.after_task ht, hop⟩
    · intro hhiding
      rcases h.resumes (hkeeps.isHiding hhiding) with hresuming | ⟨t, ht, -⟩
      · left
        rw [hquit] at hhiding ⊢
        apply hretains.isResuming (isAttached_of_isHiding hhiding)
        rw [IsResuming, pending, hc] at hresuming
        exact hresuming
      · cases ht

/-- A session stays honest as an operation begins. -/
lemma Honest.start (h : s.Honest none) (network : Network) (operation : Operation)
    (hbooks : (s.start network operation).1.books.Sound) :
    (s.start network operation).1.Honest (Engine.after (s.start network operation)).1.task := by
  cases operation with
  | attach target =>
    apply Honest.begin
    show (s.attach network target).1.Honest none
    rcases attaches_attach s network target with ⟨-, heq⟩ | ⟨-, -, remote, heq⟩ <;> rw [heq]
    · exact h
    · exact Honest.connected h.books remote none
  | attachRetrying target =>
    apply Honest.begin
    show (s.attachRetrying network target).1.Honest none
    rcases attaches_attachRetrying s network target with ⟨-, heq⟩ | ⟨-, -, remote, heq⟩ <;>
      rw [heq]
    · exact h
    · exact Honest.connected h.books remote none
  | quit => exact honest_quit h hbooks
  | input text => exact (h.provideInput text).begin _
  | _ =>
    exact (h.keeps hbooks (stable_keeps.start s network rfl)
      (stable_retains.start s network rfl)).begin _

/-- A session stays honest as it looks for a stop. -/
lemma Honest.look {pause : Duration} {pauses : Pauses} {operation : Forced}
    (h : s.Honest (some (.stop pause pauses operation)))
    (hbooks : (s.look pauses operation).1.books.Sound) :
    (s.look pauses operation).1.Honest (Engine.after (s.look pauses operation)).1.task where
  books := hbooks
  quits n hn := by
    obtain ⟨t, ht, hop⟩ := h.quits n ((stable_retains.firm.look s pauses operation).quitting? hn)
    cases ht
    cases hop
    obtain ⟨t, ht, hop⟩ := pursues_look s pauses n hn
    exact ⟨t, Engine.after_task ht, hop⟩
  returns := h.returns.keeps (stable_keeps.firm.look s pauses operation)
  resumes hhiding := by
    right
    have hstate :=
      (isHiding_iff_state.mp ((stable_keeps.firm.look s pauses operation).isHiding hhiding)).1
    have hcarry : s.look pauses operation = s.carryOut operation true := by
      rw [Session.look, hstate]
    rw [hcarry] at hhiding ⊢
    obtain ⟨t, ht, hinterrupts⟩ := carryOut_interrupts (isAttached_of_isHiding hhiding)
    exact ⟨t, Engine.after_task ht, hinterrupts⟩

/-- A session stays honest over what follows an answer, if a hidden stop is let go. -/
lemma Honest.proceed {n : RequestId} {m : Method} {goal : Goal} {answer : Answer}
    (h : s.Honest (some (.answer n m goal)))
    (hends : s.outlook.isHiding → ∀ k, goal = .forced (.quit k) true → ∃ v, answer = .ok v)
    (hbooks : (s.proceed answer goal).1.books.Sound) :
    (s.proceed answer goal).1.Honest (Engine.after (s.proceed answer goal)).1.task := by
  have hkeeps : Keeps s.outlook (s.proceed answer goal).1.outlook :=
    stable_keeps.firm.proceed s answer fun _ => (steady_ask s .resume []).keeps
  have hretains : Retains s (s.proceed answer goal).1 :=
    stable_retains.firm.proceed s answer fun _ => retains_ask s .resume []
  have hquits : ∀ k, s.quitting? = some k →
      (Task.answer n m goal).operation? = some (.quit k) := by
    intro k hk
    obtain ⟨t, ht, hop⟩ := h.quits k hk
    cases ht
    exact hop
  refine ⟨hbooks, ?_, h.returns.keeps hkeeps, ?_⟩
  · intro k hk
    have hop := hquits k (hretains.quitting? hk)
    have hpursues : Pursues k (s.proceed answer goal) := by
      cases goal with
      | forced operation interrupted =>
        cases hop
        exact pursues_afterForced s k interrupted answer
      | resumed operation own =>
        cases hop
        exact pursues_conclude s k own
      | _ => cases hop
    obtain ⟨t, ht, hop⟩ := hpursues hk
    exact ⟨t, Engine.after_task ht, hop⟩
  · intro hhiding
    left
    have hhiding' := hkeeps.isHiding hhiding
    rcases h.resumes hhiding' with hresuming | ⟨t, ht, hinterrupts⟩
    · exact hretains.isResuming (isAttached_of_isHiding hhiding) hresuming
    · cases ht
      cases goal with
      | forced operation interrupted =>
        cases interrupted with
        | false => cases hinterrupts
        | true =>
          apply isResuming_afterForced (isHiding_iff_state.mp hhiding').1
          · intro k hk
            exact Option.some.inj (hquits k hk)
          · intro k hk
            exact hends hhiding' k (hk ▸ rfl)
          · exact isAttached_of_isHiding hhiding
      | _ => cases hinterrupts

end Session

namespace Engine

open Session Outlook

variable {e : Engine}

/-! ### Runs -/

/-- Whether the operation under way stops the program. -/
def isStopping (e : Engine) : Bool := e.task.any Task.interrupts

/-- When the wait of an operation is over, a program that was stopped for its end agreed to that,
and one that was told to run on has answered, unless no stop is hidden. -/
def isHeeded (e : Engine) : Input → Bool
  | .wake => !e.session.outlook.isHiding ||
    match e.task with
    | some (.answer _ _ (.forced (.quit _) true)) => e.session.reply.any Except.isOk
    | some (.answer _ m _)                        => m != .resume || e.session.reply.isSome
    | _                                           => true
  | _     => true

/-- Nothing that happens leaves a stop hidden for good. -/
def Candid (e : Engine) (input : Input) : Prop :=
  (∀ m ∈ e.meetings input, m.1.isCandid e.isStopping m.2) ∧ e.isHeeded input

instance (e : Engine) (input : Input) : Decidable (e.Candid input) :=
  inferInstanceAs (Decidable (_ ∧ _))

/-- The session of an engine is honest, and its books are sound. -/
structure Honest (e : Engine) : Prop where
  sound : e.Sound
  session : e.session.Honest e.task

lemma exists_of_isStopping (h : e.isStopping) : ∃ t, e.task = some t ∧ t.interrupts :=
  (Option.any_eq_true _ _).mp h

/-- A session stays honest as a wait ends, if an answer to a request to run on is heeded. -/
lemma Honest.endWait (h : e.Honest) {n : RequestId} {m : Method} {goal : Goal}
    (ht : e.task = some (.answer n m goal))
    (hreply : e.session.outlook.isHiding → m = .resume → e.session.reply.isSome) :
    (e.session.endWait n m).1.Honest e.task where
  books := (h.sound.endWait ht).1
  quits k hk := by
    rw [quitting?_eq, outlook_endWait, ← quitting?_eq] at hk
    exact h.session.quits k hk
  returns := by
    rw [outlook_endWait]
    exact h.session.returns
  resumes hhiding := by
    rw [outlook_endWait] at hhiding
    rcases h.session.resumes hhiding with hresuming | htask
    · exact .inl (isResuming_endWait h.sound ht (hreply hhiding) hresuming)
    · exact .inr htask

/-- What is heeded at the end of a wait for an answer. -/
lemma of_isHeeded {n : RequestId} {m : Method} {goal : Goal}
    (ht : e.task = some (.answer n m goal)) (hheeded : e.isHeeded .wake)
    (hhiding : e.session.outlook.isHiding) :
    (m = .resume → e.session.reply.isSome) ∧
      ∀ k, goal = .forced (.quit k) true → ∃ v, e.session.reply = some (.ok v) := by
  rw [isHeeded, hhiding, Bool.not_true, Bool.false_or, ht] at hheeded
  split at hheeded
  · next hok =>
    obtain ⟨a, ha, hisOk⟩ := (Option.any_eq_true _ _).mp hheeded
    rw [ha]
    refine ⟨fun _ => rfl, fun k _ => ?_⟩
    cases a with
    | ok v => exact ⟨v, rfl⟩
    | error error => cases hisOk
  · next hnot heq =>
    cases heq
    refine ⟨?_, ?_⟩
    · rintro rfl
      exact hheeded
    · rintro k rfl
      exact (hnot k rfl).elim
  · next hnot => exact absurd rfl (hnot n m goal)

/-- An engine stays honest as a wait ends that is heeded. -/
lemma Honest.wake (h : e.Honest) (network : Network) (hheeded : e.isHeeded .wake) :
    (e.step network .wake).1.session.Honest (e.step network .wake).1.task := by
  have hbooks := (h.sound.step network .wake).books
  rw [step] at hbooks ⊢
  cases ht : e.task with
  | none =>
    dsimp only
    exact h.session
  | some task =>
    rw [ht] at hbooks
    dsimp only at hbooks ⊢
    rw [after_session] at hbooks ⊢
    have hsession := h.session
    rw [ht] at hsession
    cases task with
    | stop pause pauses operation => exact hsession.look hbooks
    | answer n m goal =>
      have hend := h.endWait ht fun hhiding => (of_isHeeded ht hheeded hhiding).1
      rw [ht] at hend
      refine hend.proceed ?_ hbooks
      intro hhiding k hk
      rw [outlook_endWait] at hhiding
      obtain ⟨v, hv⟩ := (of_isHeeded ht hheeded hhiding).2 k hk
      refine ⟨v, ?_⟩
      show (e.session.endWait n m).2 = _
      rw [(endWait_eq e.session n m).1]
      show e.session.reply.getD _ = _
      rw [hv]
      rfl

/-- An engine stays honest over every candid input. -/
lemma Honest.step (h : e.Honest) (network : Network) {input : Input} (hcandid : e.Candid input) :
    (e.step network input).1.Honest := by
  have hsound := h.sound.step network input
  refine ⟨hsound, ?_⟩
  cases input with
  | start operation =>
    rcases step_start_cases e network operation with ⟨ht, heq⟩ | ⟨hexclusive, heq⟩ | ⟨-, heq⟩
    · have hbooks := hsound.books
      have hsession := h.session
      rw [heq, after_session] at hbooks
      rw [ht] at hsession
      rw [heq, after_session]
      exact hsession.start network operation hbooks
    · rw [heq]
      have hbooks := h.session.books.calm (calm_start e.session network hexclusive)
      have hplain : operation.isPlain →
          (e.session.start network operation).1.Honest e.task := by
        intro hplain
        exact h.session.keeps hbooks (stable_keeps.start e.session network hplain)
          (stable_retains.start e.session network hplain)
      cases operation with
      | input text => exact h.session.provideInput text
      | detach => exact hplain rfl
      | interrupt => exact hplain rfl
      | checkException => exact hplain rfl
      | _ => cases hexclusive
    · rw [heq]
      exact h.session
  | bytes bytes =>
    apply receiveBytes_induct (P := fun s => s.Honest e.task) _ _ _ h.session
    · intro s inbox hs
      have hkeep : (s.modifyConnection ({ · with inbox })).books = s.books.keep inbox :=
        books_modifyConnection fun _ => rfl
      refine hs.modify ?_ ?_ ?_
      · exact fun _ => rfl
      · exact fun _ => List.Subset.refl _
      · rw [hkeep]
        exact hs.books.keep inbox
    · intro s hs
      exact hs.detach
    · intro m hm hs
      have hmeets : m ∈ e.meetings (.bytes bytes) := hm
      exact hs.receiveFrame (isAttached_of_mem_meetings hmeets) exists_of_isStopping
        (hcandid.1 m hm)
  | endOfStream => exact h.session.detach
  | frameTimeout =>
    show e.session.expireFrame.Honest e.task
    rw [expireFrame]
    split_ifs
    · exact h.session.detach
    · exact h.session
  | wake => exact h.wake network hcandid.2
  | room room => exact h.session.modify (fun _ => rfl) (fun _ => List.Subset.refl _) hsound.books

lemma honest_new (config : SessionConfig) : Honest { session := { config } } where
  sound := sound_new config
  session := {
    books := (sound_new config).books
    quits := fun _ hn => nomatch hn
    returns := fun _ _ hp => nomatch hp
    resumes := fun hhiding => nomatch hhiding }

/-- No operation is under way, and the program was not told to run on. -/
def AtRest (e : Engine) : Prop := e.task = none ∧ ¬ e.session.IsResuming

instance (e : Engine) : Decidable e.AtRest := inferInstanceAs (Decidable (_ ∧ ¬ _))

/-- An honest engine that is at rest hides no stop. -/
lemma Honest.showsStop (h : e.Honest) (hrest : e.AtRest) : e.session.ShowsStop := by
  rw [showsStop_iff]
  by_contra hhiding
  rcases h.session.resumes (by simpa using hhiding) with hresuming | ⟨t, ht, -⟩
  · exact hrest.2 hresuming
  · rw [hrest.1] at ht
    cases ht

/-- Whether a program that was stopped for its end has not agreed to that, although it is still
there. -/
def isDefied (e : Engine) : Bool :=
  match e.task, e.session.reply with
  | _,                                            some (.ok _)                => false
  | _,                                            some (.error .disconnected) => false
  | some (.answer _ _ (.forced (.quit n) true)),  _                           =>
    e.session.quitting? == some n
  | _,                                            _                           => false

/-- Such a program is left alone. -/
lemma step_of_isDefied (network : Network) (h : e.isDefied) :
    ∃ n m, (e.step network .wake).1 =
      { session :=
          (e.session.endWait n m).1.modifyConnection ({ · with quitting := false }) } := by
  rw [isDefied] at h
  split at h
  · cases h
  · cases h
  · next n m k ht hok hdisconnected =>
    refine ⟨n, m, ?_⟩
    have hmust : (e.session.endWait n m).1.mustResume true = false := by
      apply mustResume_of_quitting (n := k)
      rw [quitting?_eq, outlook_endWait, ← quitting?_eq]
      exact beq_iff_eq.mp h
    obtain ⟨error, hanswer, hne⟩ : ∃ error, (e.session.endWait n m).2 = .error error ∧
        error ≠ .disconnected := by
      rw [(endWait_eq e.session n m).1]
      show ∃ error, e.session.reply.getD _ = _ ∧ _
      cases hr : e.session.reply with
      | none =>
        refine ⟨_, rfl, ?_⟩
        intro hdown
        cases hdown
      | some a =>
        cases a with
        | ok v => exact absurd hr (hok v)
        | error error =>
          refine ⟨error, rfl, ?_⟩
          rintro rfl
          exact hdisconnected hr
    have hstep : (e.step network .wake).1
        = (after ((e.session.endWait n m).1.afterForced (.quit k) true
          (e.session.endWait n m).2)).1 := by
      rw [step, ht]
      rfl
    rw [hstep, hanswer, afterForced, hmust, if_neg Bool.false_ne_true,
      conclude_quit_error _ _ hne]
    rfl
  · cases h

/-- In every run in which nothing leaves a stop hidden for good: once no operation is under way
and the program is not told to run on, a stop at which it stands is shown. But if a program that
was stopped for its end does not agree to that, its stop stays hidden. -/
theorem stops_shown (config : SessionConfig) (run : List (Network × Input)) :
    (Always Candid { session := { config } } run →
      (Engine.run { session := { config } } run).1.AtRest →
        (Engine.run { session := { config } } run).1.session.ShowsStop) ∧
      ∀ (e : Engine) (network : Network), e.isDefied → ¬ e.session.IsResuming →
        ¬ e.session.ShowsStop →
        (e.step network .wake).1.AtRest ∧ ¬ (e.step network .wake).1.session.ShowsStop := by
  constructor
  · -- an honest engine stays so over a candid run
    intro hrun hrest
    have h : (Engine.run { session := { config } } run).1.Honest :=
      run_induct (fun _ network _ he hcandid => he.step network hcandid) (honest_new config) hrun
    exact h.showsStop hrest
  · -- a refusal leaves the stop as it was, and the program is not told to run on
    intro e network hdefied hresuming hshows
    obtain ⟨n, m, hstep⟩ := step_of_isDefied network hdefied
    rw [hstep]
    refine ⟨⟨rfl, ?_⟩, ?_⟩
    · rintro ⟨q, hq, hm⟩
      rw [pending_modifyConnection] at hq
      · exact hresuming ⟨q, mem_pending_of_endWait hq, hm⟩
      · exact fun _ => rfl
    · rw [showsStop_iff] at hshows ⊢
      rw [isHiding_relent, outlook_endWait]
      exact hshows

def stopAt (line : Nat) : Network × Input :=
  (Network.nowhere, .bytes (Frame.encode
    (Record.notification "interaction" [.string "a.py", Json.nat line, .string "x"] []).encode))

/-- An answer of the agent. -/
def answering (id : RequestId) (outcome : Except RemoteError Json) : Network × Input :=
  (Network.nowhere, .bytes (Frame.encode (Record.response id outcome).encode))

/-- A running program is stopped for a breakpoint, runs on, and stops at it. -/
def breaking : List (Network × Input) :=
  [(fun _ _ => .ok (), .start (.attach {})),
    (Network.nowhere, .start (.setBreakpoint (Breakpoint.build "/" "a.py" (some 20) false))),
    stopAt 9, (Network.nowhere, .wake), answering 1 (.ok .null), (Network.nowhere, .wake),
    answering 2 (.ok .null), (Network.nowhere, .wake), stopAt 20]

/-- A running program is stopped for its end, and refuses. -/
def refusing : List (Network × Input) :=
  [(fun _ _ => .ok (), .start (.attach {})), (Network.nowhere, .start .quit), stopAt 9,
    (Network.nowhere, .wake), answering 1 (.error { message := "no" })]

/-- The stop at the breakpoint is shown, and the one for an end that is refused is not. -/
theorem stops_shown_breaking :
    (∃ context, (Engine.run { session := { config := {} } } breaking).1.session.events.lastPlace?
        = some (.markLine "a.py" 20 context)) ∧
      ¬ ((Engine.run { session := { config := {} } } refusing).1.step Network.nowhere
        .wake).1.session.ShowsStop := by
  constructor
  · have hend : (Engine.run { session := { config := {} } } breaking).1.AtRest ∧
        (Engine.run { session := { config := {} } } breaking).1.session.state = .interacting ∧
        (Engine.run { session := { config := {} } } breaking).1.session.location
          = some ⟨"a.py", 20, "x"⟩ := by decide +kernel
    obtain ⟨hrest, hstate, hlocation⟩ := hend
    have hcandid : Always Candid { session := { config := {} } } breaking := by decide +kernel
    exact (stops_shown {} breaking).1 hcandid hrest hstate _ hlocation
  · have hend : (Engine.run { session := { config := {} } } refusing).1.isDefied ∧
        ¬ (Engine.run { session := { config := {} } } refusing).1.session.IsResuming ∧
        (Engine.run { session := { config := {} } } refusing).1.session.outlook.isHiding := by
      decide +kernel
    obtain ⟨hdefied, hresuming, hhiding⟩ := hend
    have hshows : ¬
        (Engine.run { session := { config := {} } } refusing).1.session.ShowsStop := by
      rw [showsStop_iff, hhiding]
      exact Bool.noConfusion
    exact ((stops_shown {} []).2 _ Network.nowhere hdefied hresuming hshows).2

/-- Once the program has refused to end, it stands at a stop that no event tells of. -/
theorem stop_hidden_by_refusal :
    (Engine.run { session := { config := {} } }
        (refusing ++ [(Network.nowhere, .wake)])).1.AtRest ∧
      (Engine.run { session := { config := {} } }
        (refusing ++ [(Network.nowhere, .wake)])).1.session.state = .interacting ∧
      (Engine.run { session := { config := {} } }
        (refusing ++ [(Network.nowhere, .wake)])).1.session.location = some ⟨"a.py", 9, "x"⟩ ∧
      (Engine.run { session := { config := {} } }
        (refusing ++ [(Network.nowhere, .wake)])).1.session.events.lastPlace? = none := by
  decide +kernel

end Engine

end RemoteDebugger
