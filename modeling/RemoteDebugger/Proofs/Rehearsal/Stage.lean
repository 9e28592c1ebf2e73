import RemoteDebugger.Proofs.Console.Lines
import RemoteDebugger.Rehearsal.Console
import RemoteDebugger.Rehearsal.Scene

/-!
# Rehearsals come to an end

A stage is played for as many steps as there are actions and replies, and for as many waits as
the operation under way may have before it. This is enough: what happens between two waits leaves
no more waits to come, and each wait that is over leaves one less. So once a stage is settled
nothing is left to be done, once it is played no operation is under way either, and a console
that is rehearsed has done with each line before it reads the next one.
-/

namespace RemoteDebugger

lemma Task.waits_pos (t : Task) : 0 < t.waits := by
  cases t with
  | stop pause pauses operation => exact Nat.succ_pos _
  | answer id method goal => cases goal <;> exact Nat.succ_pos _

namespace Engine

variable {e : Engine}

/-- Where no wait is left, no operation is under way. -/
lemma task_eq_none_of_waits (hwaits : e.waits = 0) : e.task = none := by
  cases ht : e.task with
  | none => rfl
  | some t =>
    have hpos := t.waits_pos
    rw [waits, ht, Option.elim_some] at hwaits
    omega

lemma waits_eq_zero_of_task (ht : e.task = none) : e.waits = 0 := by
  rw [waits, ht, Option.elim_none]

/-- The end of a wait leaves one wait less, if there was one. -/
lemma waits_step_wake (e : Engine) (network : Network) :
    (e.step network .wake).1.waits ≤ e.waits - 1 := by
  cases ht : e.task with
  | none =>
    rw [step, ht]
    exact (waits_eq_zero_of_task ht).trans_le (Nat.zero_le _)
  | some t =>
    have hstep : _ + 1 ≤ _ := waits_step (by rw [ht]; rfl) network .wake
    exact Nat.le_sub_one_of_lt hstep

/-- What happens between two waits leaves no more waits to come, unless an operation begins that
has to wait for other ones. -/
lemma waits_step_le (e : Engine) (network : Network) (input : Input) (hwake : input ≠ .wake)
    (hbrief : ∀ operation, input = .start operation → operation.isExclusive = false) :
    (e.step network input).1.waits ≤ e.waits := by
  cases ht : e.task with
  | some t =>
    rw [waits, step_task ht network hwake, waits, ht]
  | none =>
    cases input with
    | start operation =>
      obtain ⟨answer, hover⟩ := e.session.exists_finished_start network (hbrief operation rfl)
      rw [step, start, ht]
      dsimp only
      rw [after_of_finished hover]
      exact Nat.zero_le _
    | wake => exact absurd rfl hwake
    | _ => exact Nat.le_refl _

end Engine

namespace Rehearsal

variable {σ : Type} {P : Player σ} {I : σ → Prop}

/-- A player that tires, as long as `I` holds of its actor: what happens keeps `I`, the end of a
wait leaves one wait less to come, and the rest leaves no more. -/
structure Player.Tires (P : Player σ) (I : σ → Prop) : Prop where
  keeps {a : σ} (input : Input) : I a → I (P.happen a input).1
  wake {a : σ} : I a → (P.engine (P.happen a .wake).1).waits ≤ (P.engine a).waits - 1
  rest {a : σ} {input : Input} : I a → input ≠ .wake →
    (∀ operation, input = .start operation → operation.isExclusive = false) →
    (P.engine (P.happen a input).1).waits ≤ (P.engine a).waits

namespace Stage

variable {s s' s'' : Stage σ}

/-- A stage that comes from another one by what happens to its actor: it has the same actions to
come, and no more waits. -/
structure Follows (P : Player σ) (I : σ → Prop) (s s' : Stage σ) : Prop where
  actor : I s'.actor
  waits : (P.engine s'.actor).waits ≤ (P.engine s.actor).waits
  todo : s'.todo = s.todo
  replies : s'.replies = s.replies

lemma Follows.refl (hs : I s.actor) : Follows P I s s := ⟨hs, Nat.le_refl _, rfl, rfl⟩

lemma Follows.trans (h : Follows P I s s') (h' : Follows P I s' s'') : Follows P I s s'' :=
  ⟨h'.actor, h'.waits.trans h.waits, h'.todo.trans h.todo, h'.replies.trans h.replies⟩

/-! ### What happens on a stage -/

/-- A way to keep an answer that leaves the actor and what is to come as they are. -/
structure OnlyKeeps (keep : Stage σ → Option Answer → Stage σ) : Prop where
  actor (s : Stage σ) (a : Option Answer) : (keep s a).actor = s.actor
  todo (s : Stage σ) (a : Option Answer) : (keep s a).todo = s.todo
  replies (s : Stage σ) (a : Option Answer) : (keep s a).replies = s.replies

lemma onlyKeeps_keepNone : OnlyKeeps (keepNone : Stage σ → Option Answer → Stage σ) :=
  ⟨fun _ _ => rfl, fun _ _ => rfl, fun _ _ => rfl⟩

lemma onlyKeeps_keepAside : OnlyKeeps (keepAside : Stage σ → Option Answer → Stage σ) :=
  ⟨fun _ _ => rfl, fun _ _ => rfl, fun _ _ => rfl⟩

/-- It does not matter for what is to come how the answer is kept. -/
lemma follows_happen (hP : P.Tires I) {keep : Stage σ → Option Answer → Stage σ}
    (hkeep : OnlyKeeps keep) (input : Input) (hwake : input ≠ .wake)
    (hbrief : ∀ operation, input = .start operation → operation.isExclusive = false)
    (hs : I s.actor) : Follows P I s (s.happen P keep input) := by
  refine ⟨?_, ?_, hkeep.todo _ _, hkeep.replies _ _⟩
  · rw [happen, hkeep.actor]
    exact hP.keeps input hs
  · rw [happen, hkeep.actor]
    exact hP.rest hs hwake hbrief

lemma follows_expire (hP : P.Tires I) (hs : I s.actor) : Follows P I s (s.expire P) :=
  follows_happen hP onlyKeeps_keepNone .frameTimeout (by rintro ⟨⟩) (fun _ => by rintro ⟨⟩) hs

/-- A pause that has passed leaves one wait less. -/
lemma follows_pass (hP : P.Tires I) (hs : I s.actor) (t : Task) :
    Follows P I s (s.pass P t) ∧
      (P.engine (s.pass P t).actor).waits ≤ (P.engine s.actor).waits - 1 := by
  -- a frame that has begun is given up on first, if it is overdue
  have hfirst : Follows P I s (if s.isOverdue P t then s.expire P else s) := by
    split_ifs
    · exact follows_expire hP hs
    · exact .refl hs
  rw [pass]
  generalize (if s.isOverdue P t then s.expire P else s) = s' at hfirst ⊢
  have hwake := hP.wake hfirst.actor
  have hless := hfirst.waits
  refine ⟨⟨hP.keeps .wake hfirst.actor, ?_, hfirst.todo, hfirst.replies⟩, ?_⟩
  · exact hwake.trans ((Nat.sub_le _ 1).trans hless)
  · exact hwake.trans (Nat.sub_le_sub_right hless 1)

/-- As many waits as may be to come are enough. -/
lemma task_passFor (hP : P.Tires I) (hs : I s.actor) {n : Nat}
    (hn : (P.engine s.actor).waits ≤ n) :
    Follows P I s (passFor P n s) ∧ (P.engine (passFor P n s).actor).task = none := by
  induction n generalizing s with
  | zero => exact ⟨.refl hs, Engine.task_eq_none_of_waits (Nat.le_zero.mp hn)⟩
  | succ n ih =>
    rw [passFor]
    split
    · next ht => exact ⟨.refl hs, ht⟩
    · next t _ =>
      obtain ⟨hpass, hless⟩ := follows_pass hP hs t
      obtain ⟨hrest, ht⟩ := ih hpass.actor (by omega)
      exact ⟨hpass.trans hrest, ht⟩

/-- Once a stage is stalled, the operation under way is over. -/
lemma task_stall (hP : P.Tires I) (hs : I s.actor) :
    Follows P I s (s.stall P) ∧ (P.engine (s.stall P).actor).task = none :=
  task_passFor hP hs (Nat.le_refl _)

lemma follows_await (hP : P.Tires I) (hs : I s.actor) : Follows P I s (s.await P) := by
  rw [await]
  split_ifs
  · have hstall := (task_stall hP hs).1
    exact hstall.trans (follows_expire hP hstall.actor)
  · exact .refl hs

lemma follows_hear (hP : P.Tires I) (hs : I s.actor) (bytes : Bytes) :
    Follows P I s (s.hear P bytes) := by
  have hhappen : Follows P I
      { s with heardIn := (P.engine s.actor).task.bind awaited?, paused := 0 }
        (s.hear P bytes) :=
    follows_happen hP onlyKeeps_keepNone (.bytes bytes) (by rintro ⟨⟩) (fun _ => by rintro ⟨⟩)
      hs
  exact ⟨hhappen.actor, hhappen.waits, hhappen.todo, hhappen.replies⟩

/-- What the user does meanwhile begins no operation that has to wait for other ones. -/
lemma follows_start (hP : P.Tires I) (hs : I s.actor) {keep : Stage σ → Option Answer → Stage σ}
    (hkeep : OnlyKeeps keep) (operation : Operation) (hbrief : operation.isExclusive = false) :
    Follows P I s ((s.await P).happen P keep (.start operation)) := by
  have hawait := follows_await hP hs
  refine hawait.trans
    (follows_happen hP hkeep (.start operation) (by rintro ⟨⟩) ?_ hawait.actor)
  rintro operation' ⟨⟩
  exact hbrief

/-- Whatever an action is, it brings no other actions about by itself, and no waits. -/
lemma follows_perform (hP : P.Tires I) (hs : I s.actor) (id : Option RequestId)
    (action : Action) :
    Follows P I s (s.perform P id action) := by
  cases action with
  | frame parts => exact follows_hear hP hs _
  | raw bytes => exact follows_hear hP hs bytes
  | close =>
    exact follows_happen hP onlyKeeps_keepNone .endOfStream (by rintro ⟨⟩)
      (fun _ => by rintro ⟨⟩) hs
  | detach => exact follows_start hP hs onlyKeeps_keepNone .detach rfl
  | input text => exact follows_start hP hs onlyKeeps_keepAside (.input text) rfl
  | interrupt => exact follows_start hP hs onlyKeeps_keepAside .interrupt rfl
  | look =>
    have hawait := follows_await hP hs
    exact ⟨hawait.actor, hawait.waits, hawait.todo, hawait.replies⟩

/-! ### Replies -/

lemma actor_reply (s : Stage σ) (r : Record) : (s.reply r).actor = s.actor := by
  rw [reply]
  split <;> rfl

lemma load_reply (s : Stage σ) (r : Record) : (s.reply r).load = s.load := by
  rw [reply]
  split
  · rfl
  · next actions replies hreplies =>
    rw [load, load, hreplies]
    dsimp only
    rw [List.length_append, List.length_map, List.flatten_cons, List.length_append]
    omega

lemma foldl_reply (s : Stage σ) (rs : List Record) :
    (rs.foldl reply s).actor = s.actor ∧ (rs.foldl reply s).load = s.load := by
  induction rs generalizing s with
  | nil => exact ⟨rfl, rfl⟩
  | cons r rs ih =>
    obtain ⟨hactor, hload⟩ := ih (s.reply r)
    exact ⟨hactor.trans (actor_reply s r), hload.trans (load_reply s r)⟩

/-- To take note of calls moves their replies to the actions to come. -/
lemma note_eq (P : Player σ) (s : Stage σ) :
    (s.note P).actor = s.actor ∧ (s.note P).load = s.load :=
  foldl_reply { s with noted := (s.session P).sent.length } _

/-! ### Plays -/

/-- A stage on which nothing is left to be done, after which no more waits come than after
`s`. -/
structure Settled (P : Player σ) (I : σ → Prop) (s s' : Stage σ) : Prop where
  actor : I s'.actor
  waits : (P.engine s'.actor).waits ≤ (P.engine s.actor).waits
  todo : s'.todo = []

/-- As many actions as there are to come are enough: each takes one away, and its replies were
counted. -/
lemma settled_performFor (hP : P.Tires I) (hs : I s.actor) {n : Nat} (hn : s.load ≤ n) :
    Settled P I s (performFor P n s) := by
  induction n generalizing s with
  | zero =>
    have htodo : s.todo.length = 0 := by
      rw [load] at hn
      omega
    exact ⟨hs, Nat.le_refl _, List.eq_nil_of_length_eq_zero htodo⟩
  | succ n ih =>
    rw [performFor]
    split
    · next htodo => exact ⟨hs, Nat.le_refl _, htodo⟩
    · next id action todo htodo =>
      let taken : Stage σ := { s with todo }
      have hdone : Follows P I taken (taken.perform P id action) :=
        follows_perform hP (s := taken) hs id action
      obtain ⟨hactor, hload⟩ := note_eq P (taken.perform P id action)
      have hless : ((taken.perform P id action).note P).load ≤ n := by
        rw [hload, load, hdone.todo, hdone.replies]
        rw [load, htodo, List.length_cons] at hn
        show todo.length + s.replies.flatten.length ≤ n
        omega
      have hrest := ih (by rw [hactor]; exact hdone.actor) hless
      refine ⟨hrest.actor, hrest.waits.trans ?_, hrest.todo⟩
      rw [hactor]
      exact hdone.waits

/-- Once a stage is settled, nothing is left to be done on it. -/
lemma settled_settle (hP : P.Tires I) (hs : I s.actor) : Settled P I s (s.settle P) := by
  have hactor := (note_eq P s).1
  have hperform : Settled P I (s.note P) (s.settle P) :=
    settled_performFor hP (by rw [hactor]; exact hs) (Nat.le_refl _)
  refine ⟨hperform.actor, ?_, hperform.todo⟩
  rw [← hactor]
  exact hperform.waits

/-- A stage on which nothing is left to be done and no operation is under way. -/
structure Over (P : Player σ) (I : σ → Prop) (s : Stage σ) : Prop where
  actor : I s.actor
  todo : s.todo = []
  task : (P.engine s.actor).task = none

/-- What settles without an operation under way is over. -/
lemma over_settle (hP : P.Tires I) (hs : I s.actor) (ht : (P.engine s.actor).task = none) :
    Over P I (s.settle P) := by
  have hsettle := settled_settle hP hs
  have hwaits := hsettle.waits
  rw [Engine.waits_eq_zero_of_task ht] at hwaits
  exact ⟨hsettle.actor, hsettle.todo, Engine.task_eq_none_of_waits (Nat.le_zero.mp hwaits)⟩

/-- As many rounds as there are waits are enough. -/
lemma over_playFor (hP : P.Tires I) (hs : I s.actor) {n : Nat}
    (hn : (P.engine s.actor).waits ≤ n) :
    Over P I (playFor P n s) := by
  induction n generalizing s with
  | zero => exact over_settle hP hs (Engine.task_eq_none_of_waits (Nat.le_zero.mp hn))
  | succ n ih =>
    have hsettle := settled_settle hP hs
    rw [playFor]
    split
    · next ht => exact ⟨hsettle.actor, hsettle.todo, ht⟩
    · next t _ =>
      obtain ⟨hpass, hless⟩ := follows_pass hP hsettle.actor t
      have hwaits := hsettle.waits
      exact ih hpass.actor (by omega)

/-- Once a stage is played, nothing is left to be done on it and no operation is under way. -/
theorem over_play (hP : P.Tires I) (hs : I s.actor) :
    Over P I (s.play P) := over_playFor hP hs (Nat.le_refl _)

end Stage

/-! ### Scenes of a session -/

lemma tires_engineAlone (network : Network) :
    (Player.engineAlone network).Tires fun _ => True where
  keeps _ _ := trivial
  wake {e} _ := e.waits_step_wake network
  rest {e input} _ hwake hbrief := e.waits_step_le network input hwake hbrief

/-- An operation that is carried out in a scene is over at its end, whether the agent takes
notice or not. -/
theorem Scene.over_workOn (scene : Scene) (o : Operation) (stage : Stage Engine) :
    (scene.workOn o stage).Over scene.player fun _ => True := by
  have hP : scene.player.Tires fun _ => True := tires_engineAlone scene.reception.network
  rw [workOn]
  dsimp only
  split_ifs
  · have hstall := (Stage.task_stall hP trivial
      (s := Stage.happen scene.player Stage.keepAnswer (.start o)
        (stage.happen scene.player Stage.keepNone (.room (some stalledRoom))))).2
    -- the agent reads again: no operation begins by that
    refine Stage.over_settle hP trivial (Engine.task_eq_none_of_waits (Nat.le_zero.mp ?_))
    refine (Engine.waits_step_le _ scene.reception.network (.room none) (by rintro ⟨⟩)
      fun _ => by rintro ⟨⟩).trans ?_
    exact (Engine.waits_eq_zero_of_task hstall).le
  · exact Stage.over_play hP trivial

/-! ### Scenes of a console -/

namespace Screen

variable {s : Screen} {network : Network}

/-- A screen whose console is tidy. -/
def Tidy (s : Screen) : Prop := s.console.Tidy

lemma Tidy.happen (htidy : s.Tidy) (network : Network) (h : Console.Happening) :
    (s.happen network h).Tidy :=
  have hstep := Console.State.Tidy.step htidy network h
  ⟨hstep.busy, hstep.closed, hstep.rests⟩

/-- A console that is tidy tires too. -/
lemma tires_screen (network : Network) : (Player.screen network).Tires Tidy where
  keeps input htidy := htidy.happen network (.session input)
  wake {s} htidy := by
    show (s.console.step network (.session .wake)).1.engine.waits ≤ s.console.engine.waits - 1
    rw [Console.State.step]
    · split_ifs with hended
      · rw [Engine.waits_eq_zero_of_task (htidy.rests hended)]
      · rw [Engine.waits, Console.State.task_advance]
        exact s.console.engine.waits_step_wake network
    · rintro _ ⟨⟩
  rest {s} {input} htidy hwake hbrief := by
    show (s.console.step network (.session input)).1.engine.waits ≤ s.console.engine.waits
    rw [Console.State.step.eq_def]
    split
    · exact Nat.le_refl _
    · next h =>
      cases h
      split_ifs
      · exact Nat.le_refl _
      · rw [Engine.waits, Console.State.task_advance]
        exact s.console.engine.waits_step_le network input hwake hbrief
    all_goals next h => cases h

/-- A console with nothing under way reads, unless it has ended. -/
lemma Tidy.isReading_or_ended (htidy : s.Tidy) (ht : s.console.engine.task = none) :
    s.console.isReading ∨ s.console.ended := by
  cases hended : s.console.ended with
  | true => exact .inr rfl
  | false =>
    have hbusy := htidy.busy hended
    rw [ht, Option.isSome_none] at hbusy
    refine .inl (Console.State.isReading_iff.mpr ⟨hended, ?_⟩)
    rw [← Option.not_isSome_iff_eq_none, ← hbusy]
    exact Bool.false_ne_true

end Screen

open Stage

/-- Lines that are read keep a console tidy. -/
lemma tidy_foldl_readLine (network : Network) {stage : Stage Screen} (htidy : stage.actor.Tidy)
    (lines : List Console.InputLine) : (lines.foldl (·.readLine network) stage).actor.Tidy := by
  induction lines generalizing stage with
  | nil => exact htidy
  | cons line lines ih => exact ih (htidy.happen network (.ofLine line))

/-- Lines each of which is played before the next one is read leave nothing under way. -/
lemma over_foldl_play (network : Network) {stage : Stage Screen}
    (hover : stage.Over (Player.screen network) Screen.Tidy) (lines : List Console.InputLine) :
    (lines.foldl (fun stage line => (stage.readLine network line).play (Player.screen network))
      stage).Over (Player.screen network) Screen.Tidy := by
  induction lines generalizing stage with
  | nil => exact hover
  | cons line lines ih =>
    exact ih (over_play (Screen.tires_screen network)
      (hover.actor.happen network (.ofLine line)))

/-- A scene leaves nothing under way: each line but the first one is read by a console that has
done with the line before it. -/
lemma ConsoleScene.over_run (network : Network) {s : Screen} (htidy : s.Tidy)
    (scene : ConsoleScene) :
    (scene.run network s).1.Tidy ∧ (scene.run network s).1.console.engine.task = none := by
  let stage : Stage Screen :=
    { actor := s, noted := s.console.engine.session.sent.length, replies := scene.replies }
  have hread : (((scene.lines.take 1).foldl (·.readLine network) stage).plan
      scene.actions).actor.Tidy :=
    tidy_foldl_readLine network (show stage.actor.Tidy from htidy) (scene.lines.take 1)
  have hover := over_foldl_play network (over_play (Screen.tires_screen network) hread)
    (scene.lines.drop 1)
  exact ⟨hover.actor, hover.task⟩

/-- A row of scenes leaves nothing under way. -/
lemma task_runConsoleScenes (network : Network) {s : Screen} (htidy : s.Tidy)
    (ht : s.console.engine.task = none) (scenes : List ConsoleScene) :
    (runConsoleScenes network s scenes).1.Tidy ∧
      (runConsoleScenes network s scenes).1.console.engine.task = none := by
  induction scenes generalizing s with
  | nil => exact ⟨htidy, ht⟩
  | cons scene scenes ih =>
    obtain ⟨htidy', ht'⟩ := scene.over_run network htidy
    exact ih htidy' ht'

/-- After each row of scenes a console that was opened reads the next line, unless it has
ended. -/
theorem runConsoleScenes_reads (config : SessionConfig) (target : Target) (reception : Reception)
    (scenes : List ConsoleScene) :
    let opened := Console.launch config target reception.network
    let s :=
      (runConsoleScenes reception.network { console := opened.1, shown := opened.2 } scenes).1
    s.console.isReading ∨ s.console.ended := by
  intro opened s
  have hlaunch : opened.1.engine.task = none := by
    show (Console.launch config target reception.network).1.engine.task = none
    rw [Console.launch_fst]
    rfl
  obtain ⟨htidy, ht⟩ := task_runConsoleScenes reception.network
    (s := { console := opened.1, shown := opened.2 })
    (Console.tidy_launch config target reception.network) hlaunch scenes
  exact htidy.isReading_or_ended ht

end Rehearsal

end RemoteDebugger
