import RemoteDebugger.Proofs.Console.Turns
import RemoteDebugger.Proofs.Session.Giving
import RemoteDebugger.Proofs.Session.InputState
import RemoteDebugger.Proofs.Session.Patience
import RemoteDebugger.Proofs.Session.Remains

/-!
# What a console does with its lines

Each line that a console reads is for the program, if that waits for one, or else a command,
unless it is blank. So the program is given those lines and no others. The console reads lines
until one tells it to quit, or there are no more, and then it leaves the session detached.
-/

namespace RemoteDebugger

namespace Engine

variable {e : Engine} {network : Network} {input : Input}

lemma isSome_task_after (r : Session × Progress) :
    (after r).1.task.isSome = (after r).2.isNone := by
  obtain ⟨s, progress⟩ := r
  cases progress <;> rfl

/-- An operation that begins is under way unless it is answered at once. -/
lemma isSome_task_start (hidle : e.task = none) (network : Network) (operation : Operation) :
    (e.step network (.start operation)).1.task.isSome
      = (e.step network (.start operation)).2.isNone := by
  rw [step, start, hidle]
  exact isSome_task_after _

/-- An operation is under way as long as it is not answered. -/
lemma isSome_task_step (hnot : ∀ operation, input ≠ .start operation) :
    (e.step network input).1.task.isSome
      = (e.task.isSome && (e.step network input).2.isNone) := by
  cases input with
  | start operation => exact absurd rfl (hnot operation)
  | wake =>
    rw [step]
    cases ht : e.task with
    | none => rw [ht, Option.isSome_none, Bool.false_and]
    | some task => exact isSome_task_after _
  | _ => exact (Bool.and_true _).symm

end Engine

namespace Console

/-- No command gives a line to the program. -/
lemma operation?_plan_ne (target : Target) (s : Session) (cmd : Command) (text : String) :
    (plan target s cmd).operation? ≠ some (.input text) := by
  cases cmd with
  | resume place => cases place <;> nofun
  | clear file n => cases n <;> nofun
  | _ => nofun

/-- Whether a wait of the session is over. -/
def Happening.isWake : Happening → Bool
  | .session input => input.isWake
  | _              => false

namespace State

variable {c : State} {network : Network} {h : Happening}

/-! ### What the session comes to -/

/-- What something that happens to a console gives to the program. -/
def gives (c : State) : Happening → List (RequestId × String)
  | .line text =>
    if c.isReading && !isBlankText text && c.engine.session.state == .blockedOnInput then
      c.engine.session.gives text
    else []
  | _          => []

/-- What the console does to its session on account of something that happens: what that comes
to, and the end of the connection if the console ends. -/
def does (c : State) (network : Network) (h : Happening) : List (Network × Input) :=
  let closing : List Input :=
    if (c.step network h).1.ended && !c.ended then [.endOfStream] else []
  ((c.input? h).toList ++ closing).map (network, ·)

/-- What happens to a console changes its session by nothing but what the console does to it. -/
lemma engine_step (c : State) (network : Network) (h : Happening) :
    (c.step network h).1.engine = (c.engine.run (c.does network h)).1 := by
  have hturn := c.turn network h
  rw [does]
  generalize (c.step network h).1 = c' at hturn ⊢
  cases hturn with
  | stays hnone hlast =>
    rw [hnone, Bool.and_not_self]
    rfl
  | ends hnone hlast =>
    rw [hnone, (isReading_iff.mp (isReading_of_isLast hlast)).1]
    rfl
  | waits hserves hanswer =>
    rw [hserves.input?, hserves.ended]
    rfl
  | concludes hserves hanswer hnot =>
    rw [hserves.input?, hserves.ended]
    rfl
  | leaves hserves hanswer =>
    rw [hserves.input?, hserves.ended]
    rfl

/-- A line that is not for the program is not given to it. -/
lemma begun?_ne_input {text : String} (huse : c.use text ≠ .input) (given : String) :
    c.begun? text ≠ some (.input given) := by
  cases hu : c.use text with
  | input => exact absurd hu huse
  | nothing =>
    rw [begun?, hu]
    rintro ⟨⟩
  | mistake =>
    rw [begun?, hu]
    rintro ⟨⟩
  | command cmd =>
    by_cases hcmd : cmd = .quit
    · subst hcmd
      rw [begun?, hu]
      dsimp only
      split_ifs <;> rintro ⟨⟩
    · rw [begun?_of_ne_quit hu hcmd]
      exact operation?_plan_ne c.target c.engine.session cmd given

/-- Of what a console does, only lines give something to the program: those for which it
waits. -/
lemma flatMap_gives (c : State) (h : Happening) :
    (c.input? h).toList.flatMap c.engine.gives = c.gives h := by
  cases h with
  | unreadable => rfl
  | endOfInput => rfl
  | interrupted =>
    simp only [input?]
    split_ifs <;> rfl
  | session input =>
    cases input with
    | start operation => rfl
    | _ =>
      simp only [input?]
      split_ifs <;> rfl
  | line text =>
    rw [input?, gives]
    cases hreading : c.isReading with
    | false => rfl
    | true =>
      rw [if_pos rfl, Bool.true_and]
      by_cases hfor : isBlankText text = false ∧ c.engine.session.state = .blockedOnInput
      · obtain ⟨hblank, hs⟩ := hfor
        rw [begun?, use_of_blocked hblank hs, hblank, hs]
        exact List.flatMap_singleton _ _
      -- a blank line, or one that is read while the program does not wait
      · have huse : c.use text ≠ .input := by
          rw [use]
          split_ifs with hblank hs
          · rintro ⟨⟩
          · exact absurd ⟨Bool.eq_false_iff.mpr hblank, hs⟩ hfor
          · split <;> rintro ⟨⟩
        have hcond : (!isBlankText text && c.engine.session.state == .blockedOnInput)
            = false := by
          rw [Bool.eq_false_iff, Ne, Bool.and_eq_true, Bool.not_eq_true', beq_iff_eq]
          exact hfor
        rw [hcond, if_neg Bool.false_ne_true]
        cases hbegun : c.begun? text with
        | none => rfl
        | some operation =>
          have hnot := begun?_ne_input huse
          rw [hbegun] at hnot
          rw [Option.map_some, Option.toList_some, List.flatMap_singleton, Engine.gives.eq_def]
          split
          · next given heq => exact absurd (congrArg some (Input.start.inj heq)) (hnot given)
          · rfl

/-- The program is given a line when one is read while it waits for one, and not otherwise. -/
lemma given_step (c : State) (network : Network) (h : Happening) :
    (c.step network h).1.engine.session.given = c.engine.session.given ++ c.gives h := by
  have hdetach : ∀ e : Engine, (e.modify Session.detach).session.given = e.session.given := by
    intro e
    rw [Engine.modify, Session.given, Session.given, Session.sent, Session.sent,
      Session.letters_detach]
  have hturn := c.turn network h
  rw [← flatMap_gives]
  generalize (c.step network h).1 = c' at hturn ⊢
  cases hturn with
  | stays hnone hlast =>
    rw [hnone]
    exact (List.append_nil _).symm
  | ends hnone hlast =>
    rw [hnone]
    exact (hdetach c.engine).trans (List.append_nil _).symm
  | waits hserves hanswer =>
    rw [hserves.input?, Option.toList_some, List.flatMap_singleton]
    exact c.engine.given_step network _
  | concludes hserves hanswer hnot =>
    rw [hserves.input?, Option.toList_some, List.flatMap_singleton]
    exact c.engine.given_step network _
  | leaves hserves hanswer =>
    rw [hserves.input?, Option.toList_some, List.flatMap_singleton]
    exact (hdetach _).trans (c.engine.given_step network _)

/-! ### The end of the console -/

/-- A console reads no more after the last thing that it reads. -/
lemma isLeaving_step (c : State) (network : Network) (h : Happening) :
    (c.step network h).1.IsLeaving ↔ c.IsLeaving ∨ c.IsLast h := by
  have hopen : c.ended = false → (c.IsLeaving ↔ c.purpose = some .quitting) := by
    intro hended
    rw [IsLeaving, hended, or_iff_right Bool.false_ne_true]
  have hturn := c.turn network h
  generalize (c.step network h).1 = c' at hturn ⊢
  cases hturn with
  | stays hnone hlast => exact (or_iff_left hlast).symm
  | ends hnone hlast => exact iff_of_true (.inl rfl) (.inr hlast)
  | waits hserves hanswer =>
    rw [hopen hserves.ended, ← hserves.quitting, IsLeaving]
    exact or_iff_right (Bool.eq_false_iff.mp hserves.ended)
  | concludes hserves hanswer hnot =>
    rw [hopen hserves.ended, ← hserves.quitting, IsLeaving]
    exact iff_of_false (not_or.mpr ⟨Bool.eq_false_iff.mp hserves.ended, nofun⟩) hnot
  | leaves hserves hanswer =>
    rw [hopen hserves.ended, ← hserves.quitting]
    exact iff_of_true (.inl rfl) rfl

/-- Between what happens, an operation is under way exactly if the console waits for its answer.
Once the console has ended, its session is detached and no operation is under way. -/
structure Tidy (c : State) : Prop where
  busy : c.ended = false → c.engine.task.isSome = c.purpose.isSome
  closed : c.ended → c.engine.session.state = .detached
  rests : c.ended → c.engine.task = none

/-- Nothing is under way while the console reads. -/
lemma Tidy.idle (htidy : c.Tidy) (hreading : c.isReading) : c.engine.task = none := by
  obtain ⟨hended, hpurpose⟩ := isReading_iff.mp hreading
  have hbusy := htidy.busy hended
  rw [hpurpose] at hbusy
  exact Option.isSome_eq_false_iff.mp hbusy |> Option.isNone_iff_eq_none.mp

/-- With the answer to what happens to the session of a tidy console, no operation is under
way. -/
lemma Tidy.task_of_answer (htidy : c.Tidy) {input : Input} {purpose : Option Purpose}
    (hserves : c.Serves h input purpose) (hanswer : (c.engine.step network input).2.isSome) :
    (c.engine.step network input).1.task = none := by
  have hanswered : (c.engine.step network input).2.isNone = false := by
    rw [← Option.not_isSome, hanswer, Bool.not_true]
  rw [← Option.not_isSome_iff_eq_none, Bool.not_eq_true]
  by_cases hstart : ∃ operation, input = .start operation
  · obtain ⟨operation, rfl⟩ := hstart
    rw [Engine.isSome_task_start (htidy.idle (hserves.start operation rfl).1), hanswered]
  · rw [Engine.isSome_task_step fun operation heq => hstart ⟨operation, heq⟩, hanswered,
      Bool.and_false]

/-- Whatever happens, a tidy console stays tidy. -/
lemma Tidy.step (htidy : c.Tidy) (network : Network) (h : Happening) :
    (c.step network h).1.Tidy := by
  have hdetach : ∀ s : Session, s.detach.state = .detached := fun s => by
    rw [Session.state, Session.connection_detach]
  have hturn := c.turn network h
  generalize (c.step network h).1 = c' at hturn ⊢
  cases hturn with
  | stays hnone hlast => exact htidy
  | ends hnone hlast =>
    exact ⟨by rintro ⟨⟩, fun _ => hdetach _, fun _ => htidy.idle (isReading_of_isLast hlast)⟩
  | leaves hserves hanswer =>
    exact ⟨by rintro ⟨⟩, fun _ => hdetach _, fun _ => htidy.task_of_answer hserves hanswer⟩
  | @concludes input purpose hserves hanswer hnot =>
    have hopen : c.ended → False := Bool.eq_false_iff.mp hserves.ended
    refine ⟨fun _ => ?_, fun hended => (hopen hended).elim, fun hended => (hopen hended).elim⟩
    show (c.engine.step network input).1.task.isSome = false
    rw [htidy.task_of_answer hserves hanswer, Option.isSome_none]
  | @waits input purpose hserves hanswer =>
    have hopen : c.ended → False := Bool.eq_false_iff.mp hserves.ended
    refine ⟨fun _ => ?_, fun hended => (hopen hended).elim, fun hended => (hopen hended).elim⟩
    show (c.engine.step network input).1.task.isSome = purpose.isSome
    by_cases hstart : ∃ operation, input = .start operation
    · obtain ⟨operation, rfl⟩ := hstart
      obtain ⟨hreading, hbrief⟩ := hserves.start operation rfl
      rw [Engine.isSome_task_start (htidy.idle hreading), hanswer]
      cases purpose with
      | some purpose => rfl
      | none =>
        -- nobody waits for it, so it is over at once
        obtain ⟨answer, hover⟩ :=
          Session.exists_finished_start c.engine.session network (hbrief rfl)
        rw [Engine.step, Engine.start, htidy.idle hreading] at hanswer
        dsimp only at hanswer
        rw [Engine.after_of_finished hover] at hanswer
        cases hanswer
    · have hnot : ∀ operation, input ≠ .start operation :=
        fun operation heq => hstart ⟨operation, heq⟩
      rw [Engine.isSome_task_step hnot, hanswer, hserves.other hnot, ← htidy.busy hserves.ended]
      exact Bool.and_true _

/-- Nothing happens to a console that has ended. -/
lemma step_of_ended (hended : c.ended) (network : Network) (h : Happening) :
    (c.step network h).1 = c := by
  have hturn := c.turn network h
  generalize (c.step network h).1 = c' at hturn ⊢
  cases hturn with
  | stays hnone hlast => rfl
  | ends hnone hlast =>
    exact absurd hended (Bool.eq_false_iff.mp (isReading_iff.mp (isReading_of_isLast hlast)).1)
  | waits hserves hanswer => exact absurd hended (Bool.eq_false_iff.mp hserves.ended)
  | concludes hserves hanswer hnot => exact absurd hended (Bool.eq_false_iff.mp hserves.ended)
  | leaves hserves hanswer => exact absurd hended (Bool.eq_false_iff.mp hserves.ended)

/-- What begins no operation was not read, so it is something that happened to the session. -/
lemma eq_session_of_input? {input : Input} (hinput : c.input? h = some input)
    (hnot : ∀ operation, input ≠ .start operation) : h = .session input := by
  cases h with
  | line text =>
    rw [input?] at hinput
    split_ifs at hinput
    obtain ⟨operation, -, rfl⟩ := Option.map_eq_some_iff.mp hinput
    exact absurd rfl (hnot operation)
  | interrupted =>
    simp only [input?] at hinput
    split_ifs at hinput
    exact absurd (Option.some.inj hinput).symm (hnot .interrupt)
  | session input' =>
    cases input' with
    | start operation => cases hinput
    | _ =>
      simp only [input?] at hinput
      split_ifs at hinput
      exact congrArg Happening.session (Option.some.inj hinput)
  | unreadable => cases hinput
  | endOfInput => cases hinput

/-- While the program is told to quit, each end of a wait leaves one wait less until the console
ends. -/
lemma waits_step (htidy : c.Tidy) (hquitting : c.purpose = some .quitting) (network : Network)
    (h : Happening) :
    (c.step network h).1.ended ∨ (c.step network h).1.purpose = some .quitting ∧
      (c.step network h).1.engine.waits + [h].countP Happening.isWake ≤ c.engine.waits := by
  have hturn := c.turn network h
  generalize (c.step network h).1 = c' at hturn ⊢
  cases hturn with
  | ends hnone hlast => exact .inl rfl
  | leaves hserves hanswer => exact .inl rfl
  | concludes hserves hanswer hnot => exact absurd (hserves.quitting.mpr (.inl hquitting)) hnot
  | stays hnone hlast =>
    cases hended : c.ended with
    | true => exact .inl rfl
    | false =>
      -- nothing came of it, and an end of a wait would have come to the session
      have hwake : h.isWake = false := by
        rw [Bool.eq_false_iff]
        intro hwake
        cases h with
        | session input =>
          cases input with
          | wake =>
            simp only [input?] at hnone
            rw [hended, if_neg Bool.false_ne_true] at hnone
            cases hnone
          | _ => cases hwake
        | _ => cases hwake
      refine .inr ⟨hquitting, ?_⟩
      rw [List.countP_singleton, hwake]
      exact Nat.le_refl _
  | @waits input purpose hserves hanswer =>
    have hpurpose := hserves.quitting.mpr (.inl hquitting)
    -- nothing is read while the program is told to quit
    have hnot : ∀ operation, input ≠ .start operation := by
      intro operation heq
      have hreading := (hserves.start operation heq).1
      rw [not_isReading_of_isLeaving (.inr hquitting)] at hreading
      cases hreading
    obtain rfl := eq_session_of_input? hserves.input? hnot
    refine .inr ⟨hpurpose, ?_⟩
    have hbusy : c.engine.task.isSome := by rw [htidy.busy hserves.ended, hquitting]; rfl
    have hstep := Engine.waits_step hbusy network input
    rw [List.countP_singleton] at hstep ⊢
    exact hstep

/-! ### Runs -/

/-- A console after a row of things happened, each with the network as it was then. -/
def along (c : State) : List (Network × Happening) → State
  | []      => c
  | i :: is => (c.step i.1 i.2).1.along is

/-- What the console does to its session over a run. -/
def acts (c : State) : List (Network × Happening) → List (Network × Input)
  | []      => []
  | i :: is => c.does i.1 i.2 ++ (c.step i.1 i.2).1.acts is

/-- What is given to the program over a run, with the requests that are answered with it. -/
def givenOver (c : State) : List (Network × Happening) → List (RequestId × String)
  | []      => []
  | i :: is => c.gives i.2 ++ (c.step i.1 i.2).1.givenOver is

/-- A run with one network is such a run. -/
lemma run_eq_along (c : State) (network : Network) (hs : List Happening) :
    (c.run network hs).1 = c.along (hs.map (network, ·)) := by
  induction hs generalizing c with
  | nil => rfl
  | cons h hs ih => exact ih (c.step network h).1

/-- Over a run the session is changed by nothing but what the console does to it. -/
lemma engine_along (c : State) (run : List (Network × Happening)) :
    (c.along run).engine = (c.engine.run (c.acts run)).1 := by
  induction run generalizing c with
  | nil => rfl
  | cons i is ih =>
    rw [acts, Engine.run_append, ← engine_step]
    exact ih (c.step i.1 i.2).1

/-- Over a run the program is given the lines that were read for it, in their order. -/
lemma given_along (c : State) (run : List (Network × Happening)) :
    (c.along run).engine.session.given = c.engine.session.given ++ c.givenOver run := by
  induction run generalizing c with
  | nil => exact (List.append_nil _).symm
  | cons i is ih =>
    rw [givenOver, ← List.append_assoc, ← given_step]
    exact ih (c.step i.1 i.2).1

lemma Tidy.along (htidy : c.Tidy) (run : List (Network × Happening)) : (c.along run).Tidy := by
  induction run generalizing c with
  | nil => exact htidy
  | cons i is ih => exact ih (htidy.step i.1 i.2)

lemma along_of_ended (hended : c.ended) (run : List (Network × Happening)) :
    c.along run = c := by
  induction run with
  | nil => rfl
  | cons i is ih =>
    rw [State.along, step_of_ended hended]
    exact ih

/-- A console reads no more exactly if it did not to begin with, or has read the last thing. -/
lemma isLeaving_along (c : State) (run : List (Network × Happening)) : (c.along run).IsLeaving ↔
    c.IsLeaving ∨ ∃ before i after, run = before ++ i :: after ∧
      (c.along before).IsLast i.2 := by
  induction run generalizing c with
  | nil =>
    refine (or_iff_left ?_).symm
    rintro ⟨before, i, after, heq, -⟩
    cases before <;> cases heq
  | cons i is ih =>
    rw [State.along, ih, isLeaving_step, or_assoc]
    refine or_congr Iff.rfl ⟨?_, ?_⟩
    · -- the last thing is the first one that happens, or comes later
      rintro (hlast | ⟨before, j, after, rfl, hlast⟩)
      · exact ⟨[], i, is, rfl, hlast⟩
      · exact ⟨i :: before, j, after, rfl, hlast⟩
    · rintro ⟨before, j, after, heq, hlast⟩
      cases before with
      | nil =>
        obtain ⟨rfl, rfl⟩ := List.cons.inj heq
        exact .inl hlast
      | cons k before =>
        obtain ⟨rfl, rfl⟩ := List.cons.inj heq
        exact .inr ⟨before, j, after, rfl, hlast⟩

/-- While the program is told to quit, no more waits get over than there were to come. -/
lemma countP_isWake_along (htidy : c.Tidy) (hquitting : c.purpose = some .quitting)
    {run : List (Network × Happening)} (hopen : (c.along run).ended = false) :
    (run.map Prod.snd).countP Happening.isWake ≤ c.engine.waits := by
  induction run generalizing c with
  | nil => exact Nat.zero_le _
  | cons i is ih =>
    rcases waits_step htidy hquitting i.1 i.2 with hended | ⟨hquitting', hless⟩
    · rw [State.along, along_of_ended hended, hended] at hopen
      cases hopen
    · have hrest := ih (htidy.step i.1 i.2) hquitting' hopen
      rw [List.map_cons, ← List.singleton_append, List.countP_append]
      omega

/-- After the last thing that a console reads, it ends after a bounded number of waits. -/
lemma countP_isWake_of_isLast (htidy : c.Tidy) (hlast : c.IsLast h)
    {run : List (Network × Happening)} (hopen : ((c.step network h).1.along run).ended = false) :
    (run.map Prod.snd).countP Happening.isWake
      ≤ c.engine.session.config.forceWait.attempts + 2 := by
  have hended : ∀ {c' : State}, c'.ended → (c'.along run).ended = false → False := by
    intro c' hended hopen
    rw [along_of_ended hended, hended] at hopen
    cases hopen
  have hturn := c.turn network h
  have htidy' := htidy.step network h
  generalize (c.step network h).1 = c' at hturn htidy' hopen
  cases hturn with
  | stays hnone hnot => exact absurd hlast hnot
  | ends hnone _ => exact (hended rfl hopen).elim
  | leaves hserves hanswer => exact (hended rfl hopen).elim
  | concludes hserves hanswer hnot => exact absurd (hserves.quitting.mpr (.inr hlast)) hnot
  | @waits input purpose hserves hanswer =>
    have hwaits := countP_isWake_along htidy' (hserves.quitting.mpr (.inr hlast)) hopen
    by_cases hstart : ∃ operation, input = .start operation
    -- the line to quit began the operation, which has a bounded number of waits before it
    · obtain ⟨operation, rfl⟩ := hstart
      exact Nat.le_trans hwaits
        (Engine.waits_step_start (htidy.idle (hserves.start operation rfl).1) network operation)
    · obtain rfl := eq_session_of_input? hserves.input? fun operation heq =>
        hstart ⟨operation, heq⟩
      cases hlast

/-- What a line comes to that is read. -/
structure Uses (c : State) (network : Network) (text : String) : Prop where
  /-- Nothing comes of a blank line. -/
  blank : isBlankText text → c.step network (.line text) = (c, "")
  /-- Any other line is for the program, if that waits for one. -/
  input : isBlankText text = false → c.engine.session.state = .blockedOnInput →
    c.step network (.line text)
      = ({ c with engine := { session := (c.engine.session.provideInput text).1 } }, "")
  /-- Else it is carried out, if it is a command. -/
  command : isBlankText text = false → c.engine.session.state ≠ .blockedOnInput →
    ∀ cmd, Command.parse text = .ok cmd → c.step network (.line text) = c.command network cmd
  /-- What is none is told to be none. -/
  mistake : isBlankText text = false → c.engine.session.state ≠ .blockedOnInput →
    (∀ cmd, Command.parse text ≠ .ok cmd) →
      c.step network (.line text) = (c, errorText Command.ParseError.malformed.message)

/-- A tidy console that reads a line uses it for one of four things. -/
lemma Tidy.uses (htidy : c.Tidy) (hreading : c.isReading) (network : Network) (text : String) :
    c.Uses network text := by
  have hstep : c.step network (.line text) = c.readLine network text := by
    simp only [State.step]
    exact if_pos hreading
  rw [readLine_eq] at hstep
  refine ⟨fun hblank => ?_, fun hblank hs => ?_, fun hblank hs cmd hparse => ?_,
    fun hblank hs hnot => ?_⟩
  · rw [hstep, use_of_isBlankText hblank]
  · rw [hstep, use_of_blocked hblank hs]
    dsimp only
    rw [Engine.start, htidy.idle hreading]
    rfl
  · rw [hstep, use_of_parse hblank hs hparse]
  · have huse : c.use text = .mistake := by
      rw [use, hblank, if_neg Bool.false_ne_true, if_neg hs,
        Command.parse_eq_malformed hblank hnot]
    rw [hstep, huse]

end State

lemma launch_fst (config : SessionConfig) (target : Target) (network : Network) :
    (launch config target network).1
      = { engine := (Engine.step network { session := { config } }
        (.start (.attachRetrying target))).1, target } := by
  have hstart : Engine.start network { session := { config } } (.attachRetrying target)
      = ({ session := (Session.attachRetrying { config } network target).1 },
        some (Session.attachRetrying { config } network target).2) := rfl
  simp only [launch, attachPlan, State.pursue, State.begin, Engine.step]
  rw [hstart]
  cases (Session.attachRetrying { config } network target).2 <;> rfl

/-- A console that was opened is tidy: it has tried to attach, and that is over. -/
lemma tidy_launch (config : SessionConfig) (target : Target) (network : Network) :
    (launch config target network).1.Tidy := by
  rw [launch_fst]
  exact ⟨fun _ => rfl, nofun, nofun⟩

/-- A console that was opened does to its session what its lines say, and what happens to it. -/
lemma engine_along_launch (config : SessionConfig) (target : Target) (network : Network)
    (run : List (Network × Happening)) : ((launch config target network).1.along run).engine
      = (Engine.run { session := { config } }
          ((network, .start (.attachRetrying target)) ::
            (launch config target network).1.acts run)).1 := by
  rw [State.engine_along, launch_fst]
  rfl

lemma given_launch (config : SessionConfig) (target : Target) (network : Network) :
    (launch config target network).1.engine.session.given = [] := by
  rw [launch_fst]
  exact Engine.given_step _ network _

/-- Every line that a console reads is used once: if the program waits for a line it is given to
the program, else it is carried out as a command, and nothing comes of it if it is blank. Over a
run the session does what the lines say and nothing else, and the program is given the lines that
were read while it waited, but for the blank ones, and nothing else. As long as the agent says
nothing of how the program stands while it waits for a line, there is always a request that such
a line answers. A console that reads no more has read a line to quit, or there was none to be
read any more; it ends after a bounded number of waits, and then the session is detached. -/
theorem lines_used (config : SessionConfig) (target : Target) (network : Network)
    (run : List (Network × Happening)) :
    let opened := (launch config target network).1
    let c := opened.along run
    let acts := (network, .start (.attachRetrying target)) :: opened.acts run
    c.engine = (Engine.run { session := { config } } acts).1 ∧
      (c.isReading → ∀ network text, c.Uses network text) ∧
      c.engine.session.given = opened.givenOver run ∧
      (Engine.Always Engine.Patient { session := { config } } acts → c.isReading →
        c.engine.session.state = .blockedOnInput → ∃ id, c.engine.session.owed? = some id ∧
          ∀ text, isBlankText text = false →
            c.engine.session.takes [.response id (.ok (.string text))] →
              c.gives (.line text) = [(id, text)]) ∧
      (c.IsLeaving ↔ ∃ before i after, run = before ++ i :: after ∧
        (opened.along before).IsLast i.2) ∧
      (c.IsLeaving → c.isReading = false) ∧
      (c.ended → c.engine.session.state = .detached) ∧
      ∀ network h, c.IsLast h → ∀ after : List (Network × Happening),
        ((c.step network h).1.along after).ended = false →
          (after.map Prod.snd).countP Happening.isWake ≤ config.forceWait.attempts + 2 := by
  intro opened c acts
  have hengine : c.engine = (Engine.run { session := { config } } acts).1 :=
    engine_along_launch config target network run
  have htidy : c.Tidy := (tidy_launch config target network).along run
  have hopened : ¬ opened.IsLeaving := by
    show ¬ (launch config target network).1.IsLeaving
    rw [launch_fst]
    exact not_or.mpr ⟨Bool.false_ne_true, nofun⟩
  refine ⟨hengine, fun hreading => htidy.uses hreading, ?_, ?_, ?_,
    State.not_isReading_of_isLeaving,
    htidy.closed, fun network h hlast after hopen => ?_⟩
  · show (opened.along run).engine.session.given = _
    rw [State.given_along, given_launch, List.nil_append]
  · intro hpatient hreading hs
    -- if the agent is patient, a program that waits for a line has asked for it
    have hagrees := Engine.agrees_run config hpatient
    rw [← hengine] at hagrees
    obtain ⟨p, hp, hinteraction⟩ :=
      (Session.state_eq_iff_posture c.engine.session .blockedOnInput).mp hs
    obtain ⟨request, hrequest⟩ := Option.isSome_iff_exists.mp ((hagrees p hp).1.mp hinteraction)
    have hasked : c.engine.session.inputRequest? = some request := by
      rw [Session.inputRequest?_eq, hp, Option.bind_some, hrequest]
    have howed : c.engine.session.owed? = some request.1 := by
      rw [Session.owed?, hasked, Option.map_some]
    refine ⟨request.1, howed, fun text hblank htakes => ?_⟩
    rw [State.gives, hreading, hblank, hs, Session.gives, hasked]
    exact if_pos htakes
  · rw [State.isLeaving_along, or_iff_right hopened]
  · have hbound := State.countP_isWake_of_isLast htidy hlast hopen
    rw [hengine, Engine.config_run] at hbound
    exact hbound

/-- The program waits for a line. -/
def waiting : List (Network × Happening) :=
  [(Network.nowhere,
    .session (.bytes (Frame.encode (Record.request 5 "readline" [.string "name? "] []).encode)))]

/-- The program gets the line that it waits for, and a console that can read no more leaves the
session detached. -/
theorem lines_used_waiting :
    let opened := (launch {} {} fun _ _ => .ok ()).1
    (opened.along (waiting ++ [(Network.nowhere, .line "bob")])).engine.session.given
      = [(5, "bob")] ∧
      (opened.along waiting).gives (.line "bob") = [(5, "bob")] ∧
      (opened.along (waiting ++ [(Network.nowhere, .endOfInput)])).engine.session.state
        = .detached := by
  intro opened
  have hwaits : Engine.Always Engine.Patient { session := { config := {} } }
        ((fun _ _ => .ok (), .start (.attachRetrying {})) :: opened.acts waiting) ∧
      (opened.along waiting).isReading ∧
      (opened.along waiting).engine.session.state = .blockedOnInput ∧
      (opened.along waiting).engine.session.owed? = some 5 ∧
      (opened.along waiting).engine.session.takes [.response 5 (.ok (.string "bob"))] := by
    decide +kernel
  obtain ⟨hpatient, hreading, hs, howed, htakes⟩ := hwaits
  obtain ⟨-, -, -, hgives, -⟩ := lines_used {} {} (fun _ _ => .ok ()) waiting
  obtain ⟨-, -, hgiven, -⟩ :=
    lines_used {} {} (fun _ _ => .ok ()) (waiting ++ [(Network.nowhere, .line "bob")])
  obtain ⟨-, -, -, -, -, -, hclosed, -⟩ :=
    lines_used {} {} (fun _ _ => .ok ()) (waiting ++ [(Network.nowhere, .endOfInput)])
  obtain ⟨id, hid, hanswers⟩ := hgives hpatient hreading hs
  obtain rfl : 5 = id := Option.some.inj (howed.symm.trans hid)
  refine ⟨hgiven.trans ?_, hanswers "bob" rfl htakes, hclosed rfl⟩
  decide +kernel

/-- A blank line does not reach the program that waits for one: it goes on waiting. -/
theorem blank_line_withheld :
    let opened := (launch {} {} fun _ _ => .ok ()).1
    (opened.along waiting).isReading ∧ (opened.along waiting).engine.session.state
      = .blockedOnInput ∧
      (opened.along waiting).engine.session.owed? = some 5 ∧
      (opened.along (waiting ++ [(Network.nowhere, .line "   ")])).engine.session.given = [] ∧
      (opened.along (waiting ++ [(Network.nowhere, .line "   ")])).engine.session.owed?
        = some 5 := by
  decide +kernel

end Console

end RemoteDebugger
