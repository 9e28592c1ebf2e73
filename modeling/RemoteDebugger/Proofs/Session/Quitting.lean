import RemoteDebugger.Proofs.Session.Patience
import RemoteDebugger.Proofs.Session.Pursuing
import RemoteDebugger.Proofs.Session.Timely

/-!
# The end of a program

Who quits tells the program to end once it stands still, and stops it first if need be. That
succeeds if the program agrees, or if the connection ends during the waits for that, and then the
connection is gone. If it fails, the user is not quitting any more.
-/

namespace RemoteDebugger

open Books

/-- Whether a wait is one of the end of the program on a connection: for the program to stand
still, or for its answer to the request to end. -/
def Task.quits (k : Nat) : Task → Bool
  | .stop _ _ operation               => operation == .quit k
  | .answer _ _ (.forced operation _) => operation == .quit k
  | .answer _ _ _                     => false

namespace Session

variable {s : Session} {k : Nat} {settled : Bool}

/-! ### One step -/

/-- How far the end of the program on the connection `k` comes in one step from a session, if it
is `settled` by then whether it comes about: it is over, or there is a pause before another look,
or the program is told. -/
inductive Quits (k : Nat) (s : Session) (settled : Bool) : Session × Progress → Prop
  | ends {s' : Session} {a : Answer} (hletters : s'.letters = s.letters)
      (hrelents : s'.quitting? = none) (hok : a.isOk = settled)
      (hleaves : a.isOk → s'.isAttached = false) :
        Quits k s settled (s', .finished a)
  | pauses {pause : Duration} {pauses : Pauses} (hstate : s.state = .running)
      (hnot : settled = false) :
      Quits k s settled (s, .waiting (.stop pause pauses (.quit k)))
  | asks {interrupted : Bool} (hstate : s.state = .interacting)
      (hattached : (s.ask .quit []).1.isAttached) (hnot : settled = false) : Quits k s settled
        ((s.ask .quit []).1, .waiting (.answer s.nextId .quit (.forced (.quit k) interrupted)))

lemma quitting?_of_detached (h : s.isAttached = false) : s.quitting? = none := by
  rw [quitting?, connection_of_detached (Bool.eq_false_iff.mp h)]
  rfl

/-- A program that quits is dropped. -/
lemma isAttached_drop_of_quitting (h : s.isAttached → s.quitting? = some k) :
    (s.drop k).isAttached = false := by
  rw [isAttached_drop]
  cases hattached : s.isAttached with
  | false => rfl
  | true =>
    obtain ⟨c, hc, hq⟩ := Option.bind_eq_some_iff.mp (h hattached)
    split_ifs at hq
    rw [hc, Option.map_some, hq, beq_self_eq_true]
    rfl

lemma letters_drop (s : Session) (k : Nat) : (s.drop k).letters = s.letters := by
  rw [drop]
  split_ifs
  · exact letters_detach s
  · rfl

/-- Whether an answer to the request to end means that the program ends. -/
def isEnd : Answer → Bool
  | .ok _ | .error .disconnected => true
  | _                            => false

lemma isEnd_error {e : SessionError} (h : e ≠ .disconnected) : isEnd (.error e) = false := by
  cases e with
  | disconnected => exact absurd rfl h
  | _ => rfl

/-- An attempt to quit that is concluded has ended, whatever its answer is. -/
lemma quits_conclude (h : s.isAttached → s.quitting? = some k) (answer : Answer) :
    Quits k s (isEnd answer) (s.conclude (.quit k) answer) := by
  have hgone := isAttached_drop_of_quitting h
  have hdrop : Quits k s true (s.drop k, .finished (.ok .null)) :=
    .ends (letters_drop s k) (quitting?_of_detached hgone) rfl fun _ => hgone
  cases answer with
  | ok v => exact hdrop
  | error e =>
    by_cases he : e = .disconnected
    · subst he
      exact hdrop
    · rw [conclude_quit_error s k he, isEnd_error he]
      exact .ends rfl (quitting?_relent s) rfl fun hok => nomatch hok

/-- The request to end is written while the program stands still. -/
lemma quits_carryOut (hattached : s.isAttached) (hstate : s.state = .interacting)
    (htakes : s.takes [.ask s.nextId .quit []]) (interrupted : Bool) :
    Quits k s false (s.carryOut (.quit k) interrupted) := by
  have hcarried : (s.carryOut (.quit k) interrupted).1.isAttached :=
    (isAttached_carryOut hattached (.quit k) interrupted).trans htakes
  obtain ⟨hasked, heq⟩ := askFor_cases
    (fun s' e => stable_retains.firm.afterForced s' (.quit k) interrupted (.error e)) hcarried
  have hcarry : s.carryOut (.quit k) interrupted
      = ((s.ask .quit []).1,
        .waiting (.answer s.nextId .quit (.forced (.quit k) interrupted))) := heq
  rw [hcarry]
  exact .asks hstate hasked rfl

/-- A look asks for the end if the program stands still, waits on if it runs, and gives up in any
other case. -/
lemma quits_look (h : s.isAttached → s.quitting? = some k) (pauses : Pauses)
    (htakes : s.takes (if s.state = .interacting then [.ask s.nextId .quit []] else [])) :
    Quits k s (!s.isAttached) (s.look pauses (.quit k)) := by
  have hattached := isAttached_eq_state s
  have hrefused : ∀ e : SessionError, e ≠ .disconnected → s.isAttached →
      Quits k s (!s.isAttached) (s.showNext.conclude (.quit k) (.error e)) := by
    intro e he hstands
    rw [conclude_quit_error _ _ he, hstands]
    exact .ends rfl (quitting?_relent _) rfl fun hok => nomatch hok
  rw [look]
  cases hs : s.state with
  | interacting =>
    rw [hs] at hattached htakes
    rw [hattached]
    exact quits_carryOut hattached hs htakes true
  | detached =>
    rw [hs] at hattached
    rw [hattached]
    exact quits_conclude h (.error .disconnected)
  | blockedOnInput =>
    rw [hs] at hattached
    exact hrefused _ (by simp) hattached
  | running =>
    rw [hs] at hattached
    dsimp only
    split
    · rw [hattached]
      exact .pauses hs rfl
    · exact hrefused _ (by simp) hattached

/-- The answer to the request to end is the end of it, since a program that quits is not told to
run on. -/
lemma afterForced_quit (h : s.isAttached → s.quitting? = some k) (interrupted : Bool)
    (answer : Answer) :
    s.afterForced (.quit k) interrupted answer = s.conclude (.quit k) answer := by
  have hmust : s.mustResume interrupted = false := by
    cases hattached : s.isAttached with
    | true => exact mustResume_of_quitting (h hattached) interrupted
    | false => rw [mustResume, connection_of_detached (Bool.eq_false_iff.mp hattached)]
  rw [afterForced, hmust, if_neg Bool.false_ne_true]

lemma finished_conclude (s : Session) (operation : Forced) (answer : Answer) :
    ∃ a, (s.conclude operation answer).2 = .finished a := by
  simp only [conclude]
  split <;> exact ⟨_, rfl⟩

/-- The session that was told to interrupt the program and not to show where it stops. -/
def interrupting (s : Session) (room : Option Nat) : Session :=
  ((s.modifyConnection ({ · with suppressNext := true })).withLetter
    (.notify .interrupt)).modifyConnection
    ({ · with room })

lemma isAttached_interrupting (s : Session) (room : Option Nat) :
    (s.interrupting room).isAttached = s.isAttached := by
  rw [interrupting, isAttached_modifyConnection]
  exact isAttached_modifyConnection s _

lemma state_interrupting (s : Session) (room : Option Nat) :
    (s.interrupting room).state = s.state := by
  rw [state, state, interrupting, modifyConnection, withLetter, modifyConnection]
  cases s.connection <;> rfl

lemma quitting?_interrupting (s : Session) (room : Option Nat) :
    (s.interrupting room).quitting? = s.quitting? := by
  rw [quitting?, quitting?, interrupting, modifyConnection, withLetter, modifyConnection]
  cases s.connection <;> rfl

/-- A forced operation on a program that runs interrupts it and looks whether it has stopped. -/
lemma force_of_running (hattached : s.isAttached) (hs : s.state = .running)
    (htakes : s.takes [.notify .interrupt]) (operation : Forced) : ∃ room,
      s.force operation = (s.interrupting room).look s.config.forceWait.pauses operation := by
  have hroom : (s.modifyConnection ({ · with suppressNext := true })).room? = s.room? :=
    room?_modifyConnection fun _ => rfl
  have hsent :=
    (writes_send (s.modifyConnection ({ · with suppressNext := true }))
      (.notify .interrupt)).isAttached
    ((isAttached_modifyConnection s _).trans hattached)
  rw [takes_of_room? hroom, htakes] at hsent
  rcases send_eq (s.modifyConnection ({ · with suppressNext := true })) (.notify .interrupt)
    with ⟨-, room, heq⟩ | ⟨e, heq⟩
  · refine ⟨room, ?_⟩
    rw [force, hs]
    dsimp only
    rw [heq]
    rfl
  · rw [heq, isAttached_detach] at hsent
    cases hsent

/-- The end of the program begins with a look, after an interrupt if the program runs. -/
lemma quits_force (hattached : s.isAttached) (h : s.quitting? = some k)
    (htakes : s.takes (s.forcing (.quit k))) :
    ∃ s' : Session, s'.quitting? = some k ∧ Quits k s' false (s.force (.quit k)) ∧
      ∃ ls, s'.letters = s.letters ++ ls ∧
        (ls.map Letter.record).Sublist [.notify .interrupt] := by
  have hstill : Quits k s false (s.force (.quit k)) →
      ∃ s' : Session, s'.quitting? = some k ∧ Quits k s' false (s.force (.quit k)) ∧
        ∃ ls, s'.letters = s.letters ++ ls ∧
          (ls.map Letter.record).Sublist [.notify .interrupt] :=
    fun hquits => ⟨s, h, hquits, [], (List.append_nil _).symm, List.nil_sublist _⟩
  rw [forcing] at htakes
  cases hs : s.state with
  | detached =>
    rw [isAttached_eq_state, hs] at hattached
    cases hattached
  | blockedOnInput =>
    apply hstill
    have hforce : s.force (.quit k) = s.conclude (.quit k) (.error .waitingForInput) := by
      rw [force, hs]
    rw [hforce]
    exact quits_conclude (fun _ => h) (.error .waitingForInput)
  | interacting =>
    rw [hs] at htakes
    apply hstill
    have hforce : s.force (.quit k) = s.carryOut (.quit k) false := by rw [force, hs]
    rw [hforce]
    exact quits_carryOut hattached hs htakes false
  | running =>
    rw [hs] at htakes
    obtain ⟨room, hforce⟩ := force_of_running hattached hs htakes (.quit k)
    have hquitting := (quitting?_interrupting s room).trans h
    have hlook := quits_look (fun _ => hquitting) s.config.forceWait.pauses (by
      rw [state_interrupting, hs, if_neg (by decide)]
      exact takes_nil _)
    rw [isAttached_interrupting, hattached] at hlook
    rw [hforce]
    exact ⟨s.interrupting room, hquitting, hlook, _, rfl, List.Sublist.refl _⟩

/-- To quit is to force the end of the program, once the user is said to be quitting. -/
lemma quits_quit {c : Connection} (hc : s.connection = some c)
    (htakes : s.takes (s.opening .quit)) :
    ∃ s' : Session, s'.quitting? = some c.epoch ∧ Quits c.epoch s' false s.quit ∧
      ∃ ls, s'.letters = s.letters ++ ls ∧
        (ls.map Letter.record).Sublist [.notify .interrupt] := by
  have hquit : s.quit
      = { s with connection := some { c with quitting := true } }.force (.quit c.epoch) := by
    rw [quit, hc]
  have hroom : ({ s with connection := some { c with quitting := true } } : Session).room?
      = s.room? := by
    rw [room?, room?, hc, Option.map_some, Option.map_some]
  have hstate : ({ s with connection := some { c with quitting := true } } : Session).state
      = s.state := by
    rw [state, state, hc]
  rw [opening, hc] at htakes
  rw [hquit]
  refine quits_force rfl rfl ?_
  rw [takes_forcing hstate hroom rfl]
  exact htakes

end Session

namespace Engine

open Session

variable {e : Engine} {k : Nat} {network : Network} {input : Input}
    {meanwhile : List (Network × Input)}

/-! ### What decides about the end -/

/-- Something holds of one of the things that happen in a run, together with the engine to which
it happens. -/
def Sometime (P : Engine → Input → Prop) (e : Engine) : List (Network × Input) → Prop
  | []      => False
  | i :: is => P e i.2 ∨ (e.step i.1 i.2).1.Sometime P is

/-- Whether the agent grants the request whose answer is waited for: the first payload that says
something to it is a result. -/
def isGranted (e : Engine) (input : Input) : Bool :=
  match e.task with
  | some (.answer n method _) =>
    e.session.reply.isNone && (e.verdict? n method input).any (·.isOk)
  | _                         => false

/-- Whether the connection ends during a wait, before what is waited for is there. -/
def isForsaken (e : Engine) (input : Input) : Bool :=
  !input.isWake && e.closes input && match e.task with
    | some (.stop _ _ _)        => true
    | some (.answer n method _) => e.session.reply.isNone && (e.verdict? n method input).isNone
    | none                      => false

/-- Whether it is settled that an end of the program that is under way comes about. -/
def isSettled (e : Engine) : Bool :=
  match e.task with
  | some (.answer _ _ _) => e.session.reply.any isEnd
  | _                    => !e.session.isAttached

/-- Whether there is room for what an operation writes: when it begins, and when a wait is
over. -/
def hasRoom (e : Engine) : Input → Bool
  | .start operation => e.session.takes (e.session.opening operation)
  | .wake            => e.task.all fun task => e.session.takes (e.session.continuation task)
  | _                => true

/-- The letters that are written with something that happens. -/
def written (e : Engine) (network : Network) (input : Input) : List Letter :=
  (e.step network input).1.session.letters.drop e.session.letters.length

/-- The letters that operations write themselves after waits. -/
def writtenAfterWaits (e : Engine) : List (Network × Input) → List Letter
  | []      => []
  | i :: is => (match i.2 with
      | .wake => e.written i.1 .wake
      | _     => []) ++ (e.step i.1 i.2).1.writtenAfterWaits is

/-- What an input has written are the letters that are new. -/
lemma written_of_letters {ls : List Letter}
    (h : (e.step network input).1.session.letters = e.session.letters ++ ls) :
    e.written network input = ls := by
  rw [written, h, List.drop_left]

/-! ### Waits of the end -/

/-- The end of the program on the connection `k` is under way, and the user is quitting. -/
structure Leaving (k : Nat) (e : Engine) : Prop where
  sound : e.Sound
  task : e.task.any (Task.quits k)
  quitting : e.session.isAttached → e.session.quitting? = some k

lemma Leaving.cases (h : Leaving k e) :
    (∃ pause pauses, e.task = some (.stop pause pauses (.quit k))) ∨
    ∃ n method interrupted,
      e.task = some (.answer n method (.forced (.quit k) interrupted)) := by
  obtain ⟨task, ht, hquits⟩ := (Option.any_eq_true _ _).mp h.task
  cases task with
  | stop pause pauses operation =>
    cases beq_iff_eq.mp hquits
    exact .inl ⟨pause, pauses, ht⟩
  | answer n method goal =>
    cases goal with
    | forced operation interrupted =>
      cases beq_iff_eq.mp hquits
      exact .inr ⟨n, method, interrupted, ht⟩
    | _ => cases hquits

lemma not_isWake (h : input ≠ .wake) : input.isWake = false := by
  cases input with
  | wake => exact absurd rfl h
  | _ => rfl

/-- Before a wait is over, the end goes on being under way. -/
lemma Leaving.step (h : Leaving k e) (network : Network) (hwake : input ≠ .wake) :
    Leaving k (e.step network input).1 := by
  obtain ⟨task, ht, hquits⟩ := (Option.any_eq_true _ _).mp h.task
  have hbusy : e.task.isSome := by rw [ht]; rfl
  refine ⟨h.sound.step network input, ?_, fun hattached => ?_⟩
  · rw [step_task ht network hwake]
    exact hquits
  · rw [quitting?_step (fun _ _ => hbusy) (fun hin => absurd hin hwake) hattached]
    exact h.quitting (isAttached_of_step hbusy hattached)

/-- While the program is awaited, the end is settled as the agent grants it or is gone. -/
lemma isSettled_step_of_stop {pause : Duration} {pauses : Pauses} {operation : Forced}
    (ht : e.task = some (.stop pause pauses operation)) (network : Network)
    (hwake : input ≠ .wake) :
    (e.step network input).1.isSettled
      = (e.isSettled || (e.isGranted input || e.isForsaken input)) := by
  have hbusy : e.task.isSome := by rw [ht]; rfl
  rw [isForsaken, not_isWake hwake, isSettled, isSettled, isGranted,
    step_task ht network hwake, ht, closes_eq e network input]
  dsimp only
  cases hattached : (e.step network input).1.session.isAttached with
  | true =>
    rw [isAttached_of_step hbusy hattached]
    rfl
  | false => cases e.session.isAttached <;> rfl

/-- While the answer is awaited, the end is settled by it, or as the agent is gone. -/
lemma isSettled_step_of_answer {n : RequestId} {method : Method} {goal : Goal} (hsound : e.Sound)
    (ht : e.task = some (.answer n method goal)) (network : Network) (hwake : input ≠ .wake) :
    (e.step network input).1.isSettled
      = (e.isSettled || (e.isGranted input || e.isForsaken input)) := by
  rw [isForsaken, not_isWake hwake, isSettled, isSettled, isGranted,
    step_task ht network hwake, ht, closes_eq e network input]
  dsimp only
  have hserves := hsound.serves
  rw [ht] at hserves
  -- the answer has not come yet, or it has come and stays
  rcases hserves with hwaits | ⟨a, hanswered⟩
  · have hreply : e.session.reply = none := hwaits.1
    have hminds := minds_step hsound ht hwaits network hwake
    rw [hreply, isAttached_of_waits hwaits]
    cases hv : e.verdict? n method input with
    | some a =>
      rw [hv] at hminds
      obtain ⟨hreply', -⟩ := hminds
      rw [show (e.step network input).1.session.reply = some a from hreply']
      cases a with
      | ok v => rfl
      | error error =>
        have hne : error ≠ .disconnected := by
          rintro rfl
          exact verdict?_ne_disconnected e n method input hv
        simp [isEnd_error hne, Except.isOk, Except.toBool]
    | none =>
      rw [hv] at hminds
      rcases hminds with hwaits' | hended
      · rw [show (e.step network input).1.session.reply = none from hwaits'.1,
          isAttached_of_waits hwaits']
        rfl
      · have hgone : (e.step network input).1.session.isAttached = false := by
          rw [← Bool.not_eq_true, isAttached_iff, hended.1]
          decide
        rw [show (e.step network input).1.session.reply
          = some (.error .disconnected) from hended.2, hgone]
        rfl
  · have hreply : e.session.reply = some a := hanswered.1
    have hreply' : (e.step network input).1.session.reply = some a :=
      (hanswered.hears (step_hears ht network hwake).2).1
    rw [hreply, hreply']
    simp

/-- Before a wait is over, the end is settled by a result or by the end of the connection. -/
lemma Leaving.isSettled_step (h : Leaving k e) (network : Network) (hwake : input ≠ .wake) :
    (e.step network input).1.isSettled
      = (e.isSettled || (e.isGranted input || e.isForsaken input)) := by
  rcases h.cases with ⟨pause, pauses, ht⟩ | ⟨n, method, interrupted, ht⟩
  · exact isSettled_step_of_stop ht network hwake
  · exact isSettled_step_of_answer h.sound ht network hwake

/-! ### The end of a wait -/

/-- Whether the operation under way waits for the program to stand still. -/
def isPausing (e : Engine) : Bool :=
  match e.task with
  | some (.stop _ _ _) => true
  | _                  => false

/-- From an engine to one after a wait, the end of the program is over. -/
structure Leaves (e : Engine) (r : Engine × Option Answer) (a : Answer) : Prop where
  answer : r.2 = some a
  task : r.1.task = none
  letters : r.1.session.letters = e.session.letters
  relents : r.1.session.quitting? = none
  ok : a.isOk = e.isSettled
  gone : a.isOk → r.1.session.isAttached = false

/-- From an engine to one after a wait, the end of the program is not over. -/
structure Stays (k : Nat) (e : Engine) (r : Engine × Option Answer) (ls : List Letter) :
    Prop where
  answer : r.2 = none
  leaving : Leaving k r.1
  letters : r.1.session.letters = e.session.letters ++ ls
  unsettled : e.isSettled = false ∧ r.1.isSettled = false

/-- The only letter that the end of the program writes after a wait. -/
def lastWord (n : RequestId) : Letter := { record := .ask n .quit [], state := .interacting }

lemma reply_ask (s : Session) (m : Method) (args : List Json) :
    (s.ask m args).1.reply = none := by
  show (s.ask m args).1.books.reply = none
  rcases ask_cases s m args with ⟨-, -, hbooks⟩ | ⟨-, hbooks⟩ <;> rw [hbooks] <;> rfl

/-- After a step of its end from a session, a program goes on being left, or it is over. -/
lemma of_quits {s : Session} {r : Session × Progress} (hsound : (after r).1.Sound)
    (hs : s.letters = e.session.letters) (hquitting : s.isAttached → s.quitting? = some k)
    (h : Quits k s e.isSettled r) : (∃ a, e.Leaves (after r) a) ∨
      Stays k e (after r) [] ∧ (after r).1.isPausing ∨
      ∃ n, Stays k e (after r) [lastWord n] ∧ (after r).1.isPausing = false := by
  cases h with
  | ends hletters hrelents hok hleaves =>
    exact .inl ⟨_, rfl, rfl, hletters.trans hs, hrelents, hok, hleaves⟩
  | pauses hstate hnot =>
    right
    left
    have hattached : s.isAttached := by rw [isAttached_eq_state, hstate]; rfl
    refine ⟨⟨rfl, ⟨hsound, beq_self_eq_true _, hquitting⟩, ?_, hnot, ?_⟩, rfl⟩
    · rw [List.append_nil]
      exact hs
    · show (!s.isAttached) = false
      rw [hattached]
      rfl
  | @asks interrupted hstate hattached hnot =>
    right
    right
    have hstands : s.isAttached := by rw [isAttached_eq_state, hstate]; rfl
    have hpursues : (s.ask .quit []).1.quitting? = some k :=
      (quitting?_of_steady (steady_ask s .quit []) hattached (quitting?_eq s).symm).trans
        (hquitting hstands)
    have hletters : (s.ask .quit []).1.letters = s.letters ++ [lastWord s.nextId] := by
      rcases letters_ask s .quit [] with ⟨-, hletters⟩ | ⟨hgone, -⟩
      · rw [hletters, hstate]
        rfl
      · rw [hgone] at hattached
        cases hattached
    refine ⟨s.nextId, ⟨rfl, ⟨hsound, beq_self_eq_true _, fun _ => hpursues⟩,
      hletters.trans (hs ▸ rfl), hnot, ?_⟩, rfl⟩
    show (s.ask .quit []).1.reply.any isEnd = false
    rw [reply_ask]
    rfl

/-- Once the wait for the program to stand still is over, there is another pause, or the program
is told, or the end is over. -/
lemma Leaving.wake_of_stop (h : Leaving k e) (hpausing : e.isPausing) (hroom : e.hasRoom .wake)
    (network : Network) : (∃ a, e.Leaves (e.step network .wake) a) ∨
      Stays k e (e.step network .wake) [] ∧ (e.step network .wake).1.isPausing ∨
      ∃ n, Stays k e (e.step network .wake) [lastWord n] ∧
        (e.step network .wake).1.isPausing = false := by
  have hsound := h.sound.step network .wake
  rcases h.cases with ⟨pause, pauses, ht⟩ | ⟨n, method, interrupted, ht⟩
  · have hstep : e.step network .wake = after (e.session.look pauses (.quit k)) := by
      rw [Engine.step, ht]
      rfl
    rw [hstep] at hsound ⊢
    rw [hasRoom, ht] at hroom
    have hlook := quits_look h.quitting pauses hroom
    have hsettled : e.isSettled = !e.session.isAttached := by rw [isSettled, ht]
    rw [← hsettled] at hlook
    exact of_quits hsound rfl h.quitting hlook
  · rw [isPausing, ht] at hpausing
    cases hpausing

/-- Once the wait for the answer is over, so is the end of the program. -/
lemma Leaving.wake_of_answer (h : Leaving k e) (hpausing : e.isPausing = false)
    (network : Network) :
    ∃ a, e.Leaves (e.step network .wake) a := by
  rcases h.cases with ⟨pause, pauses, ht⟩ | ⟨n, method, interrupted, ht⟩
  · rw [isPausing, ht] at hpausing
    cases hpausing
  · have hstep : e.step network .wake
        = after ((e.session.endWait n method).1.afterForced (.quit k) interrupted
          (e.session.endWait n method).2) := by
      rw [Engine.step, ht]
      rfl
    have hquitting : (e.session.endWait n method).1.isAttached →
        (e.session.endWait n method).1.quitting? = some k := by
      have hsame : (e.session.endWait n method).1.quitting? = e.session.quitting? := by
        rw [quitting?_eq, quitting?_eq, outlook_endWait]
      rw [isAttached_of_room? (room?_endWait e.session n method), hsame]
      exact h.quitting
    have hsettled : isEnd (e.session.endWait n method).2 = e.isSettled := by
      rw [isSettled, ht, (endWait_eq e.session n method).1]
      show isEnd (e.session.reply.getD _) = e.session.reply.any isEnd
      cases e.session.reply <;> rfl
    have hquits := quits_conclude hquitting (e.session.endWait n method).2
    obtain ⟨a, ha⟩ :=
      finished_conclude (e.session.endWait n method).1 (.quit k) (e.session.endWait n method).2
    rw [hstep, afterForced_quit hquitting]
    rw [hsettled] at hquits
    generalize (e.session.endWait n method).1.conclude (.quit k) (e.session.endWait n method).2
      = r
      at hquits ha ⊢
    cases hquits with
    | ends hletters hrelents hok hleaves =>
      exact ⟨_, rfl, rfl, hletters.trans (letters_endWait _ _ _), hrelents, hok, hleaves⟩
    | pauses => cases ha
    | asks => cases ha

/-! ### Whole lives -/

/-- What happens during a wait does not change what is waited for. -/
lemma isPausing_step {task : Task} (ht : e.task = some task) (network : Network)
    (hwake : input ≠ .wake) :
    (e.step network input).1.isPausing = e.isPausing := by
  rw [isPausing, isPausing, step_task ht network hwake, ht]

/-- After an operation has ended no part of its run is left. -/
lemma eq_nil_of_idle (hidle : e.task = none)
    (hbusy : e.Always (fun e _ => e.task.isSome) meanwhile) :
    meanwhile = [] := by
  cases meanwhile with
  | nil => rfl
  | cons i is =>
    have hfirst : e.task.isSome := hbusy.1
    rw [hidle] at hfirst
    cases hfirst

/-- After its waits, the end of the program writes no more than the request to end, and nothing
once it has written that. -/
lemma Leaving.writtenAfterWaits (h : Leaving k e)
    (hbusy : e.Always (fun e _ => e.task.isSome) meanwhile)
    (hroom : e.Always (fun e input => e.hasRoom input) meanwhile) :
    e.writtenAfterWaits meanwhile = [] ∨
      e.isPausing ∧ ∃ n, e.writtenAfterWaits meanwhile = [lastWord n] := by
  induction meanwhile generalizing e with
  | nil => exact .inl rfl
  | cons i is ih =>
    obtain ⟨network, input⟩ := i
    obtain ⟨hfirst, hbusy⟩ := hbusy
    obtain ⟨hroom₁, hroom⟩ := hroom
    by_cases hwake : input = .wake
    · subst hwake
      have hover : (∃ a, e.Leaves (e.step network .wake) a) →
          e.writtenAfterWaits ((network, .wake) :: is) = [] := by
        rintro ⟨a, hleaves⟩
        have hnil := eq_nil_of_idle hleaves.task hbusy
        subst hnil
        have hwritten : e.written network .wake = [] :=
          written_of_letters (hleaves.letters.trans (List.append_nil _).symm)
        rw [Engine.writtenAfterWaits, hwritten]
        rfl
      cases hpausing : e.isPausing with
      | false => exact .inl (hover (h.wake_of_answer hpausing network))
      | true =>
        rcases h.wake_of_stop hpausing hroom₁ network
          with hleaves | ⟨hstays, hpausing'⟩ | ⟨n, hstays, hpausing'⟩
        · exact .inl (hover hleaves)
        · rw [Engine.writtenAfterWaits, written_of_letters hstays.letters]
          exact (ih hstays.leaving hbusy hroom).imp id fun ⟨_, hlast⟩ => ⟨rfl, hlast⟩
        · rw [Engine.writtenAfterWaits, written_of_letters hstays.letters]
          rcases ih hstays.leaving hbusy hroom with hnil | ⟨hpausing'', -⟩
          · right
            refine ⟨rfl, n, ?_⟩
            dsimp only
            rw [hnil]
            rfl
          · rw [hpausing'] at hpausing''
            cases hpausing''
    · obtain ⟨task, ht⟩ := Option.isSome_iff_exists.mp hfirst
      have hskip : e.writtenAfterWaits ((network, input) :: is)
          = (e.step network input).1.writtenAfterWaits is := by
        rw [Engine.writtenAfterWaits]
        cases input with
        | wake => exact absurd rfl hwake
        | _ => rfl
      rw [hskip, ← isPausing_step ht network hwake]
      exact ih (h.step network hwake) hbusy hroom

/-- How the end of the program comes out: it comes about if it is settled or gets settled, and
then the connection is gone. In any case the user is not quitting after it. -/
structure Resolves (e : Engine) (meanwhile : List (Network × Input)) (answer : Answer) :
    Prop where
  ok : answer.isOk ↔
    e.isSettled ∨ e.Sometime (fun e input => e.isGranted input || e.isForsaken input) meanwhile
  gone : answer.isOk → (e.run meanwhile).1.session.isAttached = false
  relents : (e.run meanwhile).1.session.quitting? = none

/-- Nothing gets settled by the end of a wait. -/
lemma not_settles_wake (e : Engine) : (e.isGranted .wake || e.isForsaken .wake) = false := by
  have hnone : ∀ n method, e.verdict? n method .wake = none := fun _ _ => rfl
  rw [isGranted, isForsaken]
  cases e.task with
  | none => rfl
  | some task =>
    cases task with
    | stop pause pauses operation => rfl
    | answer n method goal =>
      dsimp only
      rw [hnone]
      simp [Input.isWake]

/-- The end of the program is resolved as the operation leaves. -/
lemma Leaves.resolves {a : Answer} (h : e.Leaves (e.step network .wake) a) :
    e.Resolves [(network, .wake)] a where
  ok := by
    rw [h.ok, Sometime, Sometime, not_settles_wake]
    simp
  gone := h.gone
  relents := h.relents

/-- An end that is resolved later is resolved by then. -/
lemma Stays.resolves {ls : List Letter} {answer : Answer}
    (h : Stays k e (e.step network .wake) ls)
    (hrest : (e.step network .wake).1.Resolves meanwhile answer) :
    e.Resolves ((network, .wake) :: meanwhile) answer where
  ok := by
    rw [hrest.ok, h.unsettled.1, h.unsettled.2, Sometime, not_settles_wake]
    simp
  gone := hrest.gone
  relents := hrest.relents

/-- The end of the program comes to an answer that says whether it was settled. -/
lemma Leaving.resolves (h : Leaving k e)
    (hroom : e.Always (fun e input => e.hasRoom input) meanwhile) {answer : Answer}
    (hfinish : e.finish? meanwhile = some answer) :
    e.Resolves meanwhile answer := by
  induction meanwhile generalizing e with
  | nil => cases hfinish
  | cons i is ih =>
    obtain ⟨network, input⟩ := i
    obtain ⟨hroom₁, hroom⟩ := hroom
    by_cases hwake : input = .wake
    · subst hwake
      have hover : (∃ a, e.Leaves (e.step network .wake) a) →
          e.Resolves ((network, .wake) :: is) answer := by
        rintro ⟨a, hleaves⟩
        rcases finish?_cons hfinish with ⟨hbusy, -⟩ | ⟨rfl, -, hlast⟩
        · rw [hleaves.task] at hbusy
          cases hbusy
        · rw [hleaves.answer] at hlast
          cases hlast
          exact hleaves.resolves
      have hnotYet : ∀ {ls : List Letter}, Stays k e (e.step network .wake) ls →
          e.Resolves ((network, .wake) :: is) answer := by
        intro ls hstays
        rcases finish?_cons hfinish with ⟨-, hrest⟩ | ⟨-, -, hlast⟩
        · exact hstays.resolves (ih hstays.leaving hroom hrest)
        · rw [hstays.answer] at hlast
          cases hlast
      cases hpausing : e.isPausing with
      | false => exact hover (h.wake_of_answer hpausing network)
      | true =>
        rcases h.wake_of_stop hpausing hroom₁ network with hleaves | ⟨hstays, -⟩ | ⟨n, hstays, -⟩
        · exact hover hleaves
        · exact hnotYet hstays
        · exact hnotYet hstays
    · rcases finish?_cons hfinish with ⟨-, hrest⟩ | ⟨-, hidle, -⟩
      · have hend := ih (h.step network hwake) hroom hrest
        refine ⟨?_, hend.gone, hend.relents⟩
        rw [hend.ok, h.isSettled_step network hwake, Bool.or_eq_true, Sometime, or_assoc]
      · obtain ⟨task, ht, -⟩ := (Option.any_eq_true _ _).mp h.task
        rw [step_task ht network hwake] at hidle
        cases hidle

/-! ### From the beginning to the end -/

/-- The end of the program begins: it is refused, or it is under way. It has written no more than
an interrupt, or the request to end after that. -/
lemma start_quit (h : e.Sound) (hidle : e.task = none) (hattached : e.session.isAttached)
    (hroom : e.hasRoom (.start .quit)) (network : Network) : ∃ e' : Engine, ∃ ls,
      e'.isSettled = false ∧ e'.session.letters = e.session.letters ++ ls ∧
      (ls.map Letter.record).Sublist [.notify .interrupt] ∧
      ((∃ a, e'.Leaves (e.step network (.start .quit)) a) ∨ ∃ k,
        Stays k e' (e.step network (.start .quit)) [] ∧
          (e.step network (.start .quit)).1.isPausing ∨
        ∃ n, Stays k e' (e.step network (.start .quit)) [lastWord n] ∧
          (e.step network (.start .quit)).1.isPausing = false) := by
  have hsound := h.step network (.start .quit)
  have hstep : e.step network (.start .quit) = after e.session.quit := by
    rw [Engine.step, Engine.start, hidle]
    rfl
  obtain ⟨c, hc⟩ := Option.isSome_iff_exists.mp hattached
  obtain ⟨s, hquitting, hquits, ls, hletters, hls⟩ := quits_quit hc hroom
  have hsettled : isSettled { session := s } = false := by
    show (!s.isAttached) = false
    rw [isAttached_of_quitting? hquitting]
    rfl
  rw [hstep] at hsound ⊢
  refine ⟨{ session := s }, ls, hsettled, hletters, hls, ?_⟩
  rw [← hsettled] at hquits
  rcases of_quits (e := { session := s }) hsound rfl (fun _ => hquitting) hquits
    with hover | hstays | hasked
  · exact .inl hover
  · exact .inr ⟨_, .inl hstays⟩
  · exact .inr ⟨_, .inr hasked⟩

/-- What the end of the program writes itself, from its beginning on. -/
lemma sublist_written {ls : List Letter} {e' : Engine}
    (hletters : e'.session.letters = e.session.letters ++ ls)
    (hbusy : (e.step network (.start .quit)).1.Always (fun e _ => e.task.isSome) meanwhile)
    (hroom : (e.step network (.start .quit)).1.Always (fun e input => e.hasRoom input) meanwhile)
    (hbegins : (∃ a, e'.Leaves (e.step network (.start .quit)) a) ∨ ∃ k,
      Stays k e' (e.step network (.start .quit)) [] ∧
        (e.step network (.start .quit)).1.isPausing ∨
      ∃ n, Stays k e' (e.step network (.start .quit)) [lastWord n] ∧
        (e.step network (.start .quit)).1.isPausing = false) :
    ∃ n, (e.written network (.start .quit) ++
      (e.step network (.start .quit)).1.writtenAfterWaits meanwhile).Sublist
      (ls ++ [lastWord n]) := by
  -- it is refused at once, or it waits for the program to stop, or for the answer
  rcases hbegins with ⟨a, hover⟩ | ⟨k, ⟨hstays, -⟩ | ⟨n, hstays, hpausing⟩⟩
  · have hnil := eq_nil_of_idle hover.task hbusy
    subst hnil
    rw [written_of_letters (hover.letters.trans hletters), Engine.writtenAfterWaits,
      List.append_nil]
    exact ⟨0, List.sublist_append_left ls _⟩
  · have hletters' := hstays.letters
    rw [List.append_nil, hletters] at hletters'
    rw [written_of_letters hletters']
    rcases hstays.leaving.writtenAfterWaits hbusy hroom with hnone | ⟨-, n, hlast⟩
    · rw [hnone, List.append_nil]
      exact ⟨0, List.sublist_append_left ls _⟩
    · rw [hlast]
      exact ⟨n, List.Sublist.refl _⟩
  · have hletters' := hstays.letters
    rw [hletters, List.append_assoc] at hletters'
    rw [written_of_letters hletters']
    rcases hstays.leaving.writtenAfterWaits hbusy hroom with hnone | ⟨hpausing', -⟩
    · rw [hnone, List.append_nil]
      exact ⟨n, List.Sublist.refl _⟩
    · rw [hpausing] at hpausing'
      cases hpausing'

/-- To quit ends no connection at once, if there is room to write. -/
lemma isAttached_start_quit (hidle : e.task = none) (hattached : e.session.isAttached)
    (hroom : e.hasRoom (.start .quit)) (network : Network) :
    (e.step network (.start .quit)).1.session.isAttached := by
  have hstep : e.step network (.start .quit) = after e.session.quit := by
    rw [Engine.step, Engine.start, hidle]
    rfl
  rw [hstep, after_session, isAttached_quit hattached]
  exact hroom

/-- What came to happen while the program ended: if that ended the connection, it did so last. -/
lemma chronicle_quit (hidle : e.task = none) (hattached : e.session.isAttached)
    (hroom : e.hasRoom (.start .quit))
    (hbusy : (e.step network (.start .quit)).1.Always (fun e _ => e.task.isSome) meanwhile) :
    ∃ os, .closed ∉ os ∧ e.chronicle ((network, .start .quit) :: meanwhile)
      = os ++ if (e.run ((network, .start .quit) :: meanwhile)).1.session.isAttached then []
        else [.closed] := by
  have hbegun := isAttached_start_quit hidle hattached hroom network
  have hcloses := closes_eq e network (.start .quit)
  rw [hbegun, Bool.not_true, Bool.and_false] at hcloses
  have hhappenings : e.happenings network (.start .quit) = [] := by
    show (if e.begins .quit then [] else []) = []
    exact ite_self _
  have hnothing : e.occurrences network (.start .quit) = [] := by
    rw [occurrences, hhappenings, hcloses]
    rfl
  rw [chronicle, hnothing, List.nil_append]
  exact chronicle_of_busy hbegun hbusy

/-- The answer of the end of a program that was attached to: it comes about if it gets
settled. -/
lemma resolves_quit (h : e.Sound) (hidle : e.task = none) (hattached : e.session.isAttached)
    (hroom : e.Always (fun e input => e.hasRoom input) ((network, .start .quit) :: meanwhile))
    {answer : Answer} (hperform : e.perform? network .quit meanwhile = some answer) :
    (e.step network (.start .quit)).1.Resolves meanwhile answer ∧
      (e.step network (.start .quit)).1.isSettled = false := by
  obtain ⟨hroom₁, hroom⟩ := hroom
  obtain ⟨e', ls, hunsettled, -, -, ⟨a, hover⟩ | ⟨k, hstays⟩⟩ :=
    start_quit h hidle hattached hroom₁ network
  · have hbegun : (e.step network (.start .quit)).1.isSettled = false := by
      rw [isSettled, hover.task]
      dsimp only
      rw [isAttached_start_quit hidle hattached hroom₁ network]
      rfl
    rcases perform?_cases hperform with ⟨rfl, hlast⟩ | ⟨-, hnone, -⟩
    · rw [hover.answer] at hlast
      cases hlast
      refine ⟨⟨?_, hover.gone, hover.relents⟩, hbegun⟩
      rw [hover.ok, hunsettled, hbegun, Sometime, or_false]
    · rw [hover.answer] at hnone
      cases hnone
  · obtain ⟨ls, hstays⟩ : ∃ ls, Stays k e' (e.step network (.start .quit)) ls := by
      rcases hstays with ⟨hstays, -⟩ | ⟨n, hstays, -⟩ <;> exact ⟨_, hstays⟩
    rcases perform?_cases hperform with ⟨-, hlast⟩ | ⟨-, -, hfinish⟩
    · rw [hstays.answer] at hlast
      cases hlast
    · exact ⟨hstays.leaving.resolves hroom hfinish, hstays.unsettled.2⟩

lemma quitting_of_quitting?_eq_none {s : Session} (h : s.quitting? = none) {c : Connection}
    (hc : s.connection = some c) : c.quitting = false := by
  rw [quitting?, hc, Option.bind_some] at h
  simpa using h

/-- Unless the user is quitting, a program that was stopped for an operation is told to run on if
it still stands there. -/
lemma Pursuing.mustResume (h : e.Pursuing)
    (hnot : ∀ t n, e.task = some t → t.operation? ≠ some (.quit n)) :
    e.session.mustResume true = (e.session.state == .interacting) := by
  have hquitting : e.session.quitting? = none := by
    cases hq : e.session.quitting? with
    | none => rfl
    | some n =>
      obtain ⟨t, ht, hop⟩ := h n hq
      exact absurd hop (hnot t n ht)
  rw [Session.mustResume, state]
  cases hc : e.session.connection with
  | none => rfl
  | some c =>
    dsimp only
    rw [quitting_of_quitting?_eq_none hquitting hc]
    cases c.interaction <;> rfl

/-- Whatever the agent does while the user quits, the end of the program is over after a bounded
number of waits. It writes an interrupt at most and then, to a program that stands still, the
request to end at most. It succeeds exactly if the agent grants the request or the connection
ends during a wait, and then the connection has ended once, which was told last. If it fails, the
user is not quitting, so that later forced operations let the program run on as usual. -/
theorem quit_outcome (config : SessionConfig) (run : List (Network × Input)) (e : Engine)
    (hrun : (Engine.run { session := { config } } run).1 = e) (hidle : e.task = none)
    (hattached : e.session.isAttached) (network : Network) (meanwhile : List (Network × Input))
    (hbusy : (e.step network (.start .quit)).1.Always (fun e _ => e.task.isSome) meanwhile)
    (hroom : e.Always (fun e input => e.hasRoom input) ((network, .start .quit) :: meanwhile)) :
    let begun := (e.step network (.start .quit)).1
    let after := (e.run ((network, .start .quit) :: meanwhile)).1
    let letters := e.written network (.start .quit) ++ begun.writtenAfterWaits meanwhile
    (meanwhile.map Prod.snd).countP Input.isWake ≤ e.session.config.forceWait.attempts + 2 ∧
      (∃ n, (letters.map Letter.record).Sublist [.notify .interrupt, .ask n .quit []]) ∧
      (∀ l ∈ letters, l.record ≠ .notify .interrupt → l.state = .interacting) ∧
      ∀ answer, e.perform? network .quit meanwhile = some answer →
        (answer.isOk ↔
          begun.Sometime (fun e input => e.isGranted input || e.isForsaken input) meanwhile) ∧
        (answer.isOk → after.session.state = .detached ∧
          ∃ os, .closed ∉ os ∧ e.chronicle ((network, .start .quit) :: meanwhile)
            = os ++ [.closed] ∧
            after.session.events.queued
              = e.session.events.queued ++ os.flatMap Occurrence.events ++ [.clearInteraction]) ∧
        (answer.isOk = false → (∀ c, after.session.connection = some c → c.quitting = false) ∧
          ∀ later, let e' := (after.run later).1
            (∀ t n, e'.task = some t → t.operation? ≠ some (.quit n)) →
              e'.session.mustResume true = (e'.session.state == .interacting)) := by
  intro begun after letters
  obtain ⟨hroom₁, hroom₂⟩ := id hroom
  have hsound : e.Sound := hrun ▸ (sound_new config).run run
  have hpursuing : e.Pursuing := hrun ▸ Pursuing.run (pursuing_of_quitting?_eq_none rfl) run
  obtain ⟨e', ls, -, hletters, hls, hbegins⟩ := start_quit hsound hidle hattached hroom₁ network
  obtain ⟨n, hown⟩ := sublist_written hletters hbusy hroom₂ hbegins
  refine ⟨countP_isWake_of_start hidle hbusy, ⟨n, ?_⟩, ?_, ?_⟩
  · -- what is written, and in this order
    refine (hown.map Letter.record).trans ?_
    rw [List.map_append]
    exact hls.append (List.Sublist.refl [Record.ask n .quit []])
  · -- the request to end is written to a program that stands still
    intro l hl hnot
    rcases List.mem_append.mp (hown.subset hl) with hl | hl
    · have hinterrupt := hls.subset (List.mem_map_of_mem hl)
      exact absurd (List.mem_singleton.mp hinterrupt) hnot
    · rw [List.mem_singleton.mp hl]
      rfl
  · -- what the answer says of the connection
    intro answer hperform
    obtain ⟨hresolves, hunsettled⟩ := resolves_quit hsound hidle hattached hroom hperform
    refine ⟨?_, ?_, ?_⟩
    · rw [hresolves.ok, hunsettled]
      exact ⟨fun h => h.resolve_left Bool.false_ne_true, .inr⟩
    · intro hok
      have hgone : after.session.isAttached = false := hresolves.gone hok
      obtain ⟨os, hos, hchronicle⟩ := chronicle_quit hidle hattached hroom₁ hbusy
      rw [show (e.run ((network, .start .quit) :: meanwhile)).1.session.isAttached
        = false from hgone, if_neg Bool.false_ne_true] at hchronicle
      have hevents := events_run e ((network, .start .quit) :: meanwhile)
      rw [hchronicle, List.flatMap_append, ← List.append_assoc] at hevents
      rw [isAttached_eq_state, bne_eq_false_iff_eq] at hgone
      exact ⟨hgone, os, hos, hchronicle, hevents⟩
    · intro _
      refine ⟨fun c hc => quitting_of_quitting?_eq_none hresolves.relents hc, ?_⟩
      intro later e' hnot
      exact ((hpursuing.run ((network, .start .quit) :: meanwhile)).run later).mustResume hnot

/-- The program stops, and the agent grants its end. -/
def granting : List (Network × Input) :=
  [stopAt 9, (Network.nowhere, .wake), answering 1 (.ok .null), (Network.nowhere, .wake)]

/-- A program that stops as it is interrupted is ended, and the session is detached. -/
theorem quit_outcome_granting :
    let e :=
      (Engine.run { session := { config := {} } } [(fun _ _ => .ok (), .start (.attach {}))]).1
    (e.run ((Network.nowhere, .start .quit) :: granting)).1.session.state = .detached := by
  intro e
  have hidle : e.task.isNone ∧ e.session.isAttached := by decide +kernel
  have hmeanwhile :
      (e.step Network.nowhere (.start .quit)).1.Always (fun e _ => e.task.isSome) granting ∧
        e.Always (fun e input => e.hasRoom input)
          ((Network.nowhere, .start .quit) :: granting) := by
    decide +kernel
  have hperform : (e.perform? Network.nowhere .quit granting).any (·.isOk) := by decide +kernel
  obtain ⟨answer, hanswer, hok⟩ := (Option.any_eq_true _ _).mp hperform
  obtain ⟨-, -, -, houtcome⟩ :=
    quit_outcome {} _ e rfl (Option.isNone_iff_eq_none.mp hidle.1) hidle.2
      Network.nowhere granting hmeanwhile.1 hmeanwhile.2
  exact ((houtcome answer hanswer).2.1 hok).1

end Engine

end RemoteDebugger
