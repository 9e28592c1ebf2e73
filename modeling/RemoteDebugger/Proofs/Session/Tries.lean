import RemoteDebugger.Proofs.Session.Forcing
import RemoteDebugger.Proofs.Session.Rejections
import RemoteDebugger.Proofs.Session.Suppression

/-!
# Bounded tries

A session tries to attach as often as its configuration says, and it looks as often as that for a
program to stop. In both cases it pauses between the tries, ends with the first one that comes to
something, and says so if none does.
-/

namespace RemoteDebugger

open Backoff

/-- The next pause is the first of those that are left. -/
lemma Pauses.take_of_next? {p p' : Pauses} {d : Duration} (h : p.next? = some (d, p')) :
    p.left = p'.left + 1 ∧ take p.left p = d :: take p'.left p' := by
  obtain ⟨left, next, limit⟩ := p
  cases left with
  | zero => cases h
  | succ left =>
    cases h
    exact ⟨rfl, rfl⟩

lemma Pauses.left_of_next? {p : Pauses} (h : p.next? = none) : p.left = 0 := by
  obtain ⟨left, next, limit⟩ := p
  cases left with
  | zero => rfl
  | succ left => cases h

namespace Session

variable {s : Session} {network : Network} {target : Target}

/-! ### Attaching -/

/-- What a try to attach comes to, by its number. -/
def tries (s : Session) (network : Network) (target : Target) (k : Nat) :
    Except SessionError Unit :=
  if s.isAttached then .error .alreadyAttached else s.attempt (network target k)

/-- The session after tries to attach of which the last one came to `outcome`, and the answer for
them. -/
def attachedBy (s : Session) (target : Target) (outcome : Except SessionError Unit) :
    Session × Answer :=
  match outcome with
  | .ok ()   => (s.connected target.isRemote, .ok .null)
  | .error e =>
    (s, .error (if e.isUnreached then .exhausted s.config.attachRetry.attempts e else e))

/-- A try by itself is the first one. -/
lemma attach_eq_tries : s.attach network target = match s.tries network target 0 with
    | .ok ()   => (s.connected target.isRemote, .ok .null)
    | .error e => (s, .error e) := by
  rw [attach, tries]
  split_ifs
  · rfl
  · rfl

/-- To attach with retries is to try until a try comes to something else. -/
lemma attachRetrying_eq : s.attachRetrying network target
    = s.attachedBy target
      (s.config.attachRetry.retry SessionError.isUnreached
        (s.tries network target)).outcome := by
  rw [attachRetrying]
  split_ifs with hattached
  · have htries : s.tries network target = fun _ => .error .alreadyAttached := by
      funext k
      rw [tries, if_pos hattached]
    have hlast : 0 < s.config.attachRetry.attempts - 1 →
        mayPass SessionError.isUnreached (s.tries network target 0) = false := by
      rw [htries]
      exact fun _ => rfl
    rw [retry_eq _ _ (Nat.zero_le _) (fun i hi => absurd hi (Nat.not_lt_zero i)) hlast, htries]
    rfl
  · have htries : s.tries network target = fun k => s.attempt (network target k) := by
      funext k
      rw [tries, if_neg hattached]
    rw [htries]
    rfl

/-! ### Looking -/

/-- The progress of an operation that neither waits for a stop nor fails because there was
none. -/
def IsSettled : Progress → Prop
  | .finished answer           => answer ≠ .error .busy
  | .waiting (.answer _ _ _)   => True
  | .waiting (.stop _ _ _)     => False

/-- A forced operation that is concluded is not busy, unless its answer says so. -/
lemma isSettled_conclude {answer : Answer} (h : answer ≠ .error .busy) (s : Session)
    (operation : Forced) :
    IsSettled (s.conclude operation answer).2 := by
  have hunit : answer.map (fun _ => Json.null) ≠ .error .busy := by
    cases answer with
    | ok v => rintro ⟨⟩
    | error e => exact fun heq => h (congrArg Except.error (Except.error.inj heq))
  simp only [conclude]
  split
  · rintro ⟨⟩
  · rintro ⟨⟩
  · exact h
  · exact hunit

/-- A record that cannot be written does not mean that the program is busy. -/
lemma ne_busy_of_send {r : Record} {e : SessionError} (h : (s.send r).2 = .error e) :
    e ≠ .busy := by
  rintro rfl
  rw [send] at h
  split at h
  · cases h
  · dsimp only at h
    split at h
    · cases h
    · split_ifs at h
      cases h

lemma ne_busy_of_ask {m : Method} {args : List Json} {e : SessionError}
    (h : (s.ask m args).2 = .error e) :
    e ≠ .busy := by
  rw [ask] at h
  split at h
  · cases h
  · next s' e' hs' =>
    obtain rfl := Except.error.inj h
    exact ne_busy_of_send (congrArg Prod.snd hs')

/-- A request is not busy, if what is done without it is not. -/
lemma isSettled_askFor {m : Method} {args : List Json} {goal : Goal}
    {otherwise : Session → SessionError → Session × Progress}
    (h : ∀ s e, e ≠ .busy → IsSettled (otherwise s e).2) (s : Session) :
    IsSettled (s.askFor m args goal otherwise).2 := by
  rw [askFor]
  split
  · trivial
  · next s' e hs' => exact h s' e (ne_busy_of_ask (congrArg Prod.snd hs'))

/-- What comes after a forced operation is not busy, unless its answer says so. -/
lemma isSettled_afterForced {answer : Answer} (h : answer ≠ .error .busy) (s : Session)
    (operation : Forced) (interrupted : Bool) :
    IsSettled (s.afterForced operation interrupted answer).2 := by
  rw [afterForced]
  split_ifs
  · exact isSettled_askFor (fun s' _ _ => isSettled_conclude h s' operation) s
  · exact isSettled_conclude h s operation

lemma isSettled_carryOut (s : Session) (operation : Forced) (interrupted : Bool) :
    IsSettled (s.carryOut operation interrupted).2 :=
  isSettled_askFor (fun s' _ he =>
    isSettled_afterForced (fun h => he (Except.error.inj h)) s' operation interrupted) s

/-- Who looks and sees the program run looks again after a pause, or fails if there is none left
and shows the next stop. Who sees it do anything else looks no more. -/
lemma look_cases (s : Session) (pauses : Pauses) (operation : Forced) :
    s.state = .running ∧ (∃ pause rest, pauses.next? = some (pause, rest) ∧
        s.look pauses operation = (s, .waiting (.stop pause rest operation))) ∨
      s.state = .running ∧ pauses.next? = none ∧
        (s.look pauses operation).2 = .finished (.error .busy) ∧
          ¬ (s.look pauses operation).1.suppresses ∨
      s.state ≠ .running ∧ IsSettled (s.look pauses operation).2 := by
  rw [look]
  cases hs : s.state with
  | interacting => exact .inr (.inr ⟨by decide, isSettled_carryOut s operation true⟩)
  | detached =>
    have hsettled : IsSettled (s.conclude operation (.error .disconnected)).2 :=
      isSettled_conclude (by rintro ⟨⟩) s operation
    exact .inr (.inr ⟨by decide, hsettled⟩)
  | blockedOnInput =>
    have hsettled : IsSettled (s.showNext.conclude operation (.error .waitingForInput)).2 :=
      isSettled_conclude (by rintro ⟨⟩) s.showNext operation
    exact .inr (.inr ⟨by decide, hsettled⟩)
  | running =>
    cases hnext : pauses.next? with
    | some next => exact .inl ⟨rfl, next.1, next.2, rfl, rfl⟩
    | none =>
      refine .inr (.inl ⟨rfl, rfl, ?_, ?_⟩)
      · cases operation <;> rfl
      · exact fun hup => Engine.not_suppresses_showNext s
          ((spares_conclude isFlag_suppressNext s.showNext operation (.error .busy)).any hup)

end Session

namespace Engine

open Session

variable {e : Engine} {network : Network} {operation : Operation} {run : List (Network × Input)}

/-! ### Waits for a stop -/

/-- What came of a wait for the program to stop: each look during it, with the pause before it
and the state that it saw, and what came out at the last one, if the wait is over. -/
structure Vigil where
  looks : List (Duration × SessionState)
  ended : Option (Engine × Option Answer)

/-- The pause after which the operation under way looks whether the program has stopped, if it
waits for that. -/
def pause? (e : Engine) : Option Duration :=
  match e.task with
  | some (.stop pause _ _) => some pause
  | _                      => none

/-- What comes of the wait for a stop that an operation has come to, if it has, while things
happen. -/
def vigil (r : Engine × Option Answer) : List (Network × Input) → Vigil
  | []      => { looks := [], ended := if r.1.pause?.isSome then none else some r }
  | i :: is =>
    match r.1.pause? with
    | some pause =>
      let v := vigil (r.1.step i.1 i.2) is
      if i.2.isWake then { v with looks := (pause, r.1.session.state) :: v.looks } else v
    | none       => { looks := [], ended := some r }

/-- States that a wait for a stop saw, with `n` looks at most. As long as it is not over, the
program ran and there are looks left. When it is over, it ended with the first look that did not
see the program run, or with the last one. The program is busy if it ran at all of them, and then
the next stop is shown. -/
def Watched (n : Nat) (states : List SessionState) : Option (Engine × Option Answer) → Prop
  | none   => states.length < n ∧ ∀ state ∈ states, state = .running
  | some r => IsTried (· == .running) n states ∧
      (r.2 = some (.error .busy) ↔ states = List.replicate n .running) ∧
      (r.2 = some (.error .busy) → ¬ r.1.session.suppresses)

section

variable {n : Nat} {states : List SessionState} {ended : Option (Engine × Option Answer)}
    {r : Engine × Option Answer}

/-- One more look that finds the program running is one more of those allowed. -/
lemma Watched.cons (h : Watched n states ended) :
    Watched (n + 1) (.running :: states) ended := by
  cases ended with
  | none =>
    obtain ⟨hlength, hall⟩ := h
    exact ⟨Nat.succ_lt_succ hlength, List.forall_mem_cons.mpr ⟨rfl, hall⟩⟩
  | some r =>
    obtain ⟨htried, hbusy, hshown⟩ := h
    refine ⟨htried.cons rfl, ?_, hshown⟩
    rw [hbusy, List.replicate_succ, List.cons.injEq, and_iff_right rfl]

/-- The last look that is allowed finds the program busy, and stops are shown again. -/
lemma watched_busy (h : r.2 = some (.error .busy)) (hshown : ¬ r.1.session.suppresses) :
    Watched 1 [.running] (some r) :=
  ⟨isTried_singleton Nat.one_pos (.inl rfl), iff_of_true h rfl, fun _ => hshown⟩

/-- A look that finds the program not running is the last one. -/
lemma watched_settled (hn : 0 < n) {state : SessionState} (hstate : state ≠ .running)
    (h : r.2 ≠ some (.error .busy)) : Watched n [state] (some r) := by
  refine ⟨isTried_singleton hn (.inr (beq_eq_false_iff_ne.mpr hstate)),
    iff_of_false h fun heq => ?_,
    fun hbusy => absurd hbusy h⟩
  exact hstate (List.eq_of_mem_replicate (heq ▸ List.mem_singleton_self state))

/-- Without a wait for a stop there are no looks. -/
lemma vigil_of_pause?_eq_none (h : r.1.pause? = none) (run : List (Network × Input)) :
    vigil r run = { looks := [], ended := some r } := by
  cases run with
  | nil =>
    rw [vigil, h]
    rfl
  | cons i is => rw [vigil, h]

lemma pause?_of_task {pause : Duration} {pauses : Pauses} {f : Forced}
    (ht : e.task = some (.stop pause pauses f)) :
    e.pause? = some pause := by rw [pause?, ht]

/-- What is settled has no pause before it, and is not busy. -/
lemma after_of_isSettled {x : Session × Progress} (h : IsSettled x.2) :
    (after x).1.pause? = none ∧ (after x).2 ≠ some (.error .busy) := by
  obtain ⟨s, progress⟩ := x
  cases progress with
  | finished answer => exact ⟨rfl, fun heq => h (Option.some.inj heq)⟩
  | waiting task =>
    cases task with
    | answer id m goal => exact ⟨rfl, nofun⟩
    | stop pause pauses f => exact h.elim

/-- What a wait is that has `pauses` before it, with a look before them that sees `state`. -/
def IsVigil (pauses : Pauses) (state : SessionState) (v : Vigil) : Prop :=
  Watched (pauses.left + 1) (state :: v.looks.map Prod.snd) v.ended ∧
    v.looks.map Prod.fst = (Pauses.take pauses.left pauses).take v.looks.length

/-- From a look on, a wait goes on as it does from a pause on, if there is one. -/
lemma isVigil_look
    (hpause : ∀ {r : Engine × Option Answer} {pause : Duration} {pauses : Pauses} {f : Forced},
      r.1.task = some (.stop pause pauses f) →
      Watched (pauses.left + 1) ((vigil r run).looks.map Prod.snd) (vigil r run).ended ∧
        (vigil r run).looks.map Prod.fst
          = (pause :: Pauses.take pauses.left pauses).take (vigil r run).looks.length)
    (s : Session) (pauses : Pauses) (f : Forced) :
    IsVigil pauses s.state (vigil (after (s.look pauses f)) run) := by
  rcases look_cases s pauses f
    with ⟨hs, pause, rest, hnext, hlook⟩ | ⟨hs, hnext, hbusy, hshown⟩ | ⟨hs, hsettled⟩
  · obtain ⟨hleft, htake⟩ := Pauses.take_of_next? hnext
    obtain ⟨hwatched, hpauses⟩ :=
      hpause (r := after (s.look pauses f)) (after_task (congrArg Prod.snd hlook))
    rw [IsVigil, hs, hleft, ← hleft, htake, hleft]
    exact ⟨hwatched.cons, hpauses⟩
  · have hafter : after (s.look pauses f)
        = ({ session := (s.look pauses f).1 }, some (.error .busy)) := by
      rw [← Prod.mk.eta (p := s.look pauses f), hbusy]
      rfl
    rw [IsVigil, hafter, vigil_of_pause?_eq_none rfl, hs, Pauses.left_of_next? hnext]
    exact ⟨watched_busy rfl hshown, rfl⟩
  · obtain ⟨hnone, hnot⟩ := after_of_isSettled hsettled
    rw [IsVigil, vigil_of_pause?_eq_none hnone]
    exact ⟨watched_settled (Nat.succ_pos _) hs hnot, rfl⟩

/-- While an operation waits for a stop, each end of a pause is a look. -/
lemma watched_vigil {pause : Duration} {pauses : Pauses} {f : Forced}
    (ht : r.1.task = some (.stop pause pauses f)) :
    Watched (pauses.left + 1) ((vigil r run).looks.map Prod.snd) (vigil r run).ended ∧
      (vigil r run).looks.map Prod.fst
        = (pause :: Pauses.take pauses.left pauses).take (vigil r run).looks.length := by
  induction run generalizing r pause pauses f with
  | nil =>
    rw [vigil, pause?_of_task ht]
    exact ⟨⟨Nat.succ_pos _, nofun⟩, rfl⟩
  | cons i is ih =>
    rw [vigil, pause?_of_task ht]
    dsimp only
    by_cases hwake : i.2 = .wake
    · have hstep : r.1.step i.1 i.2 = after (r.1.session.look pauses f) := by
        rw [hwake, Engine.step, ht]
        rfl
      obtain ⟨hwatched, hpauses⟩ := isVigil_look ih r.1.session pauses f
      rw [hwake] at hstep ⊢
      rw [show Input.wake.isWake = true from rfl, if_pos rfl, hstep]
      refine ⟨hwatched, ?_⟩
      rw [List.map_cons, hpauses]
      rfl
    · have hnot : ¬ i.2.isWake := by
        cases hi : i.2 with
        | wake => exact absurd hi hwake
        | _ => exact Bool.false_ne_true
      rw [if_neg hnot]
      exact ih (step_task ht i.1 hwake)

/-- A wait is watched from its first look on. -/
lemma isVigil_of_look (s : Session) (pauses : Pauses) (f : Forced)
    (run : List (Network × Input)) :
    IsVigil pauses s.state (vigil (after (s.look pauses f)) run) :=
  isVigil_look watched_vigil s pauses f

/-- The pauses that the looks at a program have between them are those that the configuration
says. -/
lemma isVigil_pauses {b : Backoff} {state : SessionState} {v : Vigil} :
    IsVigil b.pauses state v ↔
    Watched (max 1 b.attempts) (state :: v.looks.map Prod.snd) v.ended ∧
      v.looks.map Prod.fst = b.delays.take v.looks.length := by
  have hleft : b.pauses.left + 1 = max 1 b.attempts := by
    show b.attempts - 1 + 1 = _
    omega
  rw [IsVigil, hleft]
  rfl

end

/-! ### Programs that are interrupted -/

/-- An operation that stops a program that runs, and waits for that, begins as the request does
that it makes of the program. -/
lemma exists_force {s : Session} (hinterrupts : operation.interrupts)
    (hexclusive : operation.isExclusive) (hs : s.state = .running) (network : Network) :
    ∃ (s' : Session) (f : Forced),
      s.start network operation = s'.force f ∧ s'.state = .running ∧ s'.config = s.config ∧
        s'.room? = s.room? := by
  have hattached : s.isAttached := by rw [isAttached_eq_state, hs]; rfl
  have hedited : ∀ {f : Forced}, operation.forced? s.config.directory = some f →
      ∃ (s' : Session) (f : Forced),
        s.start network operation = s'.force f ∧ s'.state = .running ∧ s'.config = s.config ∧
          s'.room? = s.room? := by
    intro f hforced
    obtain ⟨breakpoints, hstart⟩ := start_of_forced? hforced hattached network
    exact ⟨_, f, hstart, hs, rfl, rfl⟩
  cases operation with
  | setBreakpoint b => exact hedited rfl
  | clearBreakpoint b => exact hedited rfl
  | clearFile file => exact hedited rfl
  | quit =>
    obtain ⟨c, hc⟩ := Option.isSome_iff_exists.mp hattached
    refine ⟨{ s with connection := some { c with quitting := true } }, .quit c.epoch,
      ?_, ?_, rfl, ?_⟩
    · show s.quit = _
      rw [quit, hc]
    · rw [← hs, state, state, hc]
    · rw [room?, room?, hc, Option.map_some, Option.map_some]
  | interrupt => cases hexclusive
  | _ => cases hinterrupts

/-- If the interrupt cannot be written, the program is not looked at. -/
lemma isSettled_force {s : Session} (hs : s.state = .running)
    (htakes : s.takes [.notify .interrupt] = false) (f : Forced) : IsSettled (s.force f).2 := by
  have hattached : s.isAttached := by rw [isAttached_eq_state, hs]; rfl
  have hroom : (s.modifyConnection ({ · with suppressNext := true })).room? = s.room? :=
    room?_modifyConnection fun _ => rfl
  have hgone :=
    (writes_send (s.modifyConnection ({ · with suppressNext := true }))
      (.notify .interrupt)).isAttached
        ((isAttached_modifyConnection s _).trans hattached)
  rw [takes_of_room? hroom, htakes] at hgone
  rw [force, hs]
  dsimp only
  split
  · next s' hsend =>
    -- what was written leaves the connection as it is
    rcases send_eq (s.modifyConnection ({ · with suppressNext := true })) (.notify .interrupt)
      with ⟨hstands, room, heq⟩ | ⟨e, heq⟩
    · rw [heq, isAttached_modifyConnection] at hgone
      exact absurd (hgone.symm.trans hstands) Bool.false_ne_true
    · rw [heq] at hsend
      cases hsend
  · next s' e hsend =>
    exact isSettled_conclude
      (fun h => ne_busy_of_send (congrArg Prod.snd hsend) (Except.error.inj h)) s'.showNext f

/-- Tries to attach are made until one comes to something else than that the agent is not
reached, or until the policy allows no more of them. What the last one came to is the result, as
it is unless the agent was not reached, and between any two of them there is a pause, as the
policy says. In the same way an interrupted program is looked at until it does not run, or until
the policy allows no more looks. It is busy if it ran whenever it was looked at, and only then,
and its next stop is shown. -/
theorem tries_bounded :
    (∀ (b : Backoff) (tries : Nat → Except SessionError Unit), ∃ k,
      IsTried (mayPass SessionError.isUnreached) (max 1 b.attempts) ((List.range k).map tries) ∧
        (b.retry SessionError.isUnreached tries).outcome = tries (k - 1) ∧
        (b.retry SessionError.isUnreached tries).pauses = b.delays.take (k - 1) ∧
        ∀ tries', (∀ i < k, tries' i = tries i) →
          b.retry SessionError.isUnreached tries' = b.retry SessionError.isUnreached tries) ∧
      (∀ (s : Session) (network : Network) (target : Target),
        (s.attach network target = match s.tries network target 0 with
          | .ok ()   => (s.connected target.isRemote, .ok .null)
          | .error e => (s, .error e)) ∧
        s.attachRetrying network target = s.attachedBy target
          (s.config.attachRetry.retry SessionError.isUnreached
            (s.tries network target)).outcome) ∧
      (∀ (b : Backoff) (s : Session) (f : Forced) (run : List (Network × Input)),
        let v := vigil (after (s.look b.pauses f)) run
        Watched (max 1 b.attempts) (s.state :: v.looks.map Prod.snd) v.ended ∧
          v.looks.map Prod.fst = b.delays.take v.looks.length) ∧
      ∀ (e : Engine) (network : Network) (operation : Operation) (run : List (Network × Input)),
        e.task = none → operation.interrupts → operation.isExclusive →
          e.session.state = .running →
        let begun := e.step network (.start operation)
        let v := vigil begun run
        let b := e.session.config.forceWait
        (e.session.takes [.notify .interrupt] →
          Watched (max 1 b.attempts) (.running :: v.looks.map Prod.snd) v.ended ∧
            v.looks.map Prod.fst = b.delays.take v.looks.length) ∧
        (e.session.takes [.notify .interrupt] = false →
          v = { looks := [], ended := some begun } ∧ begun.2 ≠ some (.error .busy)) := by
  refine ⟨fun b tries => exists_isTried SessionError.isUnreached tries b,
    fun s network target => ⟨attach_eq_tries, attachRetrying_eq⟩,
    fun b s f run => isVigil_pauses.mp (isVigil_of_look s b.pauses f run), ?_⟩
  intro e network operation run hidle hinterrupts hexclusive hrunning begun v b
  obtain ⟨s, f, hstart, hs, hconfig, hroom⟩ :=
    exists_force hinterrupts hexclusive hrunning network
  have hbegun : begun = after (s.force f) := by
    show e.start network operation = _
    rw [Engine.start, hidle]
    exact congrArg after hstart
  rw [← takes_of_room? hroom]
  constructor
  · -- the interrupt is written, and the first look is made at once
    intro htakes
    obtain ⟨room, hforce⟩ := force_of_running (by rw [isAttached_eq_state, hs]; rfl) hs htakes f
    have hvigil := isVigil_of_look (s.interrupting room) s.config.forceWait.pauses f run
    rw [state_interrupting, hs, ← hforce, ← hbegun, hconfig] at hvigil
    exact isVigil_pauses.mp hvigil
  · -- it cannot be written, and no look is made
    intro htakes
    obtain ⟨hnone, hnot⟩ := after_of_isSettled (isSettled_force hs htakes f)
    rw [← hbegun] at hnone hnot
    exact ⟨vigil_of_pause?_eq_none hnone run, hnot⟩

/-- A program that runs, at which one looks twice. -/
def ignoring : Engine :=
  (Engine.run { session :=
    { config := { forceWait := ⟨2, .ofMilliseconds 1, .ofMilliseconds 100⟩ } } }
    [(fun _ _ => .ok (), .start (.attach {}))]).1

/-- A program that goes on running after an interrupt is busy when it was looked at twice. -/
theorem tries_bounded_ignoring :
    let v := vigil (ignoring.step Network.nowhere (.start (.setBreakpoint twentieth)))
      [(Network.nowhere, .wake)]
    v.looks.map Prod.fst = [.ofMilliseconds 1] ∧
      ∃ r, v.ended = some r ∧ r.2 = some (.error .busy) ∧ ¬ r.1.session.suppresses := by
  intro v
  have hbegins : ignoring.task.isNone ∧ ignoring.session.state = .running ∧
      ignoring.session.takes [.notify .interrupt] ∧
        ignoring.session.config.forceWait.attempts = 2 ∧
      ignoring.session.config.forceWait.delays = [.ofMilliseconds 1] ∧
      v.looks = [(.ofMilliseconds 1, .running)] ∧ v.ended.isSome := by decide +kernel
  obtain ⟨hidle, hrunning, htakes, hattempts, hdelays, hlooks, hended⟩ := hbegins
  obtain ⟨r, hr⟩ := Option.isSome_iff_exists.mp hended
  obtain ⟨-, -, -, hinterrupted⟩ := tries_bounded
  obtain ⟨hwatched, hpauses⟩ := (hinterrupted ignoring Network.nowhere (.setBreakpoint twentieth)
    [(Network.nowhere, .wake)] (Option.isNone_iff_eq_none.mp hidle) rfl rfl hrunning).1 htakes
  obtain ⟨-, hbusy, hshown⟩ : Watched _ _ (some r) := hr ▸ hwatched
  have hanswer : r.2 = some (.error .busy) :=
    hbusy.mpr (by rw [hattempts]; exact congrArg _ (congrArg _ hlooks))
  refine ⟨hpauses.trans ?_, r, hr, hanswer, hshown hanswer⟩
  rw [hdelays]
  exact congrArg (List.take · _) (congrArg List.length hlooks)

end Engine

end RemoteDebugger
