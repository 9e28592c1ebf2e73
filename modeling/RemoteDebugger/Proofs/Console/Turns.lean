import RemoteDebugger.Proofs.Command.Alternatives
import RemoteDebugger.Proofs.Console.Failures

/-!
# How a console goes on

What a line that is read is used for, and the ways in which a console goes on when something
happens: nothing comes of it, or the console ends, or something happens to the session, and the
console waits for the answer, or has it, or ends with it.
-/

namespace RemoteDebugger

namespace Console

/-- What a line that is read is used for. -/
inductive Use where
  /-- It is blank. -/
  | nothing
  /-- It is for the program. -/
  | input
  | command (cmd : Command)
  /-- It is no command. -/
  | mistake

namespace State

variable {c : State} {network : Network} {h : Happening}

/-! ### Uses of lines -/

/-- What the console uses a line for that it reads. -/
def use (c : State) (text : String) : Use :=
  if isBlankText text then .nothing
  else if c.engine.session.state = .blockedOnInput then .input
  else match Command.parse text with
    | .ok cmd  => .command cmd
    | .error _ => .mistake

/-- The operation that begins with a line that is read, if one does. -/
def begun? (c : State) (text : String) : Option Operation :=
  match c.use text with
  | .input         => some (.input text)
  | .command .quit => if c.engine.session.isAttached then some .quit else none
  | .command cmd   => (plan c.target c.engine.session cmd).operation?
  | _              => none

/-- Whether the console reads something after which it reads no more. -/
def IsLast (c : State) : Happening → Prop
  | .line text                => c.isReading ∧ c.use text = .command .quit
  | .unreadable | .endOfInput => c.isReading
  | .interrupted | .session _ => False

/-- Whether the console reads no more. -/
def IsLeaving (c : State) : Prop := c.ended ∨ c.purpose = some .quitting

/-- What something that happens to a console comes to for its session. -/
def input? (c : State) : Happening → Option Input
  | .line text          => if c.isReading then (c.begun? text).map .start else none
  | .interrupted        =>
    if c.isReading && c.engine.session.state == .running then some (.start .interrupt) else none
  | .session (.start _) => none
  | .session input      => if c.ended then none else some input
  | _                   => none

/-- A console reads while it has not ended and no answer is waited for. -/
lemma isReading_iff : c.isReading ↔ c.ended = false ∧ c.purpose = none := by
  rw [isReading, Bool.and_eq_true, Bool.not_eq_true', Option.isNone_iff_eq_none]

lemma isReading_of_isLast (hlast : c.IsLast h) : c.isReading := by
  cases h with
  | line text => exact hlast.1
  | session input => cases hlast
  | interrupted => cases hlast
  | _ => exact hlast

/-- A console that reads no more does not read. -/
lemma not_isReading_of_isLeaving (hleaving : c.IsLeaving) : c.isReading = false := by
  rw [Bool.eq_false_iff, Ne, isReading_iff]
  rintro ⟨hended, hpurpose⟩
  rcases hleaving with h | h
  · rw [hended] at h
    cases h
  · rw [hpurpose] at h
    cases h

lemma use_of_isBlankText {text : String} (hblank : isBlankText text) :
    c.use text = .nothing := if_pos hblank

lemma use_of_blocked {text : String} (hblank : isBlankText text = false)
    (hs : c.engine.session.state = .blockedOnInput) : c.use text = .input := by
  rw [use, hblank, if_neg Bool.false_ne_true, if_pos hs]

lemma use_of_parse {text : String} {cmd : Command} (hblank : isBlankText text = false)
    (hs : c.engine.session.state ≠ .blockedOnInput) (hparse : Command.parse text = .ok cmd) :
    c.use text = .command cmd := by
  rw [use, hblank, if_neg Bool.false_ne_true, if_neg hs, hparse]

/-- A line that is read comes to what it is used for. -/
lemma readLine_eq (c : State) (network : Network) (text : String) :
    c.readLine network text = match c.use text with
    | .nothing     => (c, "")
    | .input       => ({ c with engine := (c.engine.start network (.input text)).1 }, "")
    | .command cmd => c.command network cmd
    | .mistake     => (c, errorText Command.ParseError.malformed.message) := by
  rw [readLine, use]
  split_ifs with hblank
  · rfl
  · rfl
  · cases hparse : Command.parse text with
    | ok cmd => rfl
    | error e =>
      have hnot : ∀ cmd, Command.parse text ≠ .ok cmd := fun cmd heq => by
        rw [hparse] at heq
        cases heq
      rw [Command.parse_eq_malformed (Bool.eq_false_iff.mpr hblank) hnot] at hparse
      cases hparse
      rfl

lemma command_of_ne_quit {cmd : Command} (hcmd : cmd ≠ .quit) :
    c.command network cmd = c.pursue network .command (plan c.target c.engine.session cmd) := by
  cases cmd with
  | quit => exact absurd rfl hcmd
  | _ => rfl

/-- A command begins the operation of its plan, if there is one. -/
lemma begun?_of_ne_quit {text : String} {cmd : Command} (huse : c.use text = .command cmd)
    (hcmd : cmd ≠ .quit) :
    c.begun? text = (plan c.target c.engine.session cmd).operation? := by
  rw [begun?, huse]
  cases cmd with
  | quit => exact absurd rfl hcmd
  | _ => rfl

/-! ### What comes of what happens -/

/-- What happens to the session on account of something that happens to a console, and what the
answer to it is for. -/
structure Serves (c : State) (h : Happening) (input : Input) (purpose : Option Purpose) :
    Prop where
  input? : c.input? h = some input
  ended : c.ended = false
  quitting : purpose = some .quitting ↔ c.purpose = some .quitting ∨ c.IsLast h
  start : ∀ operation, input = .start operation →
    c.isReading ∧ (purpose = none → operation.isExclusive = false)
  other : (∀ operation, input ≠ .start operation) → purpose = c.purpose

/-- The ways in which a console goes on when something happens. -/
inductive Turn (c : State) (network : Network) (h : Happening) : State → Prop
  /-- Nothing comes of it. -/
  | stays (hnone : c.input? h = none) (hlast : ¬ c.IsLast h) : Turn c network h c
  /-- The console ends without a word to the session. -/
  | ends (hnone : c.input? h = none) (hlast : c.IsLast h) : Turn c network h c.finish
  /-- There is no answer yet. -/
  | waits {input : Input} {purpose : Option Purpose} (hserves : c.Serves h input purpose)
      (hanswer : (c.engine.step network input).2 = none) :
      Turn c network h { c with engine := (c.engine.step network input).1, purpose }
  /-- There is an answer. -/
  | concludes {input : Input} {purpose : Option Purpose} (hserves : c.Serves h input purpose)
      (hanswer : (c.engine.step network input).2.isSome) (hnot : purpose ≠ some .quitting) :
      Turn c network h { c with engine := (c.engine.step network input).1, purpose := none }
  /-- There is the answer after which the console ends. -/
  | leaves {input : Input} (hserves : c.Serves h input (some .quitting))
      (hanswer : (c.engine.step network input).2.isSome) :
      Turn c network h { c with engine := (c.engine.step network input).1 }.finish

/-- What nobody waits for happens while nobody waits for anything. -/
lemma Serves.purpose_eq_none {input : Input} (hserves : c.Serves h input none) :
    c.purpose = none := by
  by_cases hstart : ∃ operation, input = .start operation
  · obtain ⟨operation, rfl⟩ := hstart
    exact (isReading_iff.mp (hserves.start operation rfl).1).2
  · exact (hserves.other fun operation heq => hstart ⟨operation, heq⟩).symm

lemma advance_none (hpurpose : c.purpose = none) (r : Engine × Option Answer) :
    (c.advance none r).1 = { c with engine := r.1, purpose := none } := by
  obtain ⟨engine, target, purpose, ended⟩ := c
  obtain rfl : purpose = none := hpurpose
  obtain ⟨engine', answer⟩ := r
  cases answer <;> rfl

/-- Whatever is done with an answer, no operation begins. -/
lemma task_advance (c : State) (purpose : Option Purpose) (r : Engine × Option Answer) :
    (c.advance purpose r).1.engine.task = r.1.task := by
  obtain ⟨engine, answer⟩ := r
  cases answer with
  | none => rfl
  | some answer =>
    cases purpose with
    | none => rfl
    | some purpose => cases purpose <;> cases answer <;> rfl

/-- What is done with an answer, or without one, is one of the ways to go on. -/
lemma Turn.of_advance {input : Input} {purpose : Option Purpose}
    (hserves : c.Serves h input purpose) :
    Turn c network h (c.advance purpose (c.engine.step network input)).1 := by
  cases hanswer : (c.engine.step network input).2 with
  | none =>
    have hadvance : (c.advance purpose (c.engine.step network input)).1
        = { c with engine := (c.engine.step network input).1, purpose } := by
      rw [← Prod.mk.eta (p := c.engine.step network input), hanswer]
      rfl
    rw [hadvance]
    exact .waits hserves hanswer
  | some answer =>
    have hsome : (c.engine.step network input).2.isSome := by rw [hanswer]; rfl
    rw [← Prod.mk.eta (p := c.engine.step network input), hanswer]
    cases purpose with
    | none =>
      rw [advance_none hserves.purpose_eq_none]
      exact .concludes hserves hsome nofun
    | some purpose =>
      cases purpose with
      | quitting => exact .leaves hserves hsome
      | opening report =>
        cases answer <;> exact .concludes hserves hsome nofun
      | command report =>
        cases answer <;> exact .concludes hserves hsome nofun

/-- What happens to the session with nobody to wait for its answer. -/
lemma Serves.turn_of_none {input : Input} (hserves : c.Serves h input none) (network : Network) :
    Turn c network h { c with engine := (c.engine.step network input).1 } := by
  have hturn : Turn c network h _ := Turn.of_advance hserves
  have hpurpose := hserves.purpose_eq_none
  rw [advance_none hpurpose, ← hpurpose] at hturn
  exact hturn

/-- An operation begins with a line that is read. -/
lemma serves_line {text : String} {operation : Operation} {purpose : Option Purpose}
    (hreading : c.isReading) (hbegun : c.begun? text = some operation)
    (hquitting : purpose = some .quitting ↔ c.use text = .command .quit)
    (hbrief : purpose = none → operation.isExclusive = false) :
    c.Serves (.line text) (.start operation) purpose where
  input? := by rw [input?, if_pos hreading, hbegun, Option.map_some]
  ended := (isReading_iff.mp hreading).1
  quitting := by
    have hnot : c.purpose ≠ some .quitting := by
      rw [(isReading_iff.mp hreading).2]
      nofun
    rw [hquitting, IsLast, or_iff_right hnot, and_iff_right hreading]
  start := by
    intro operation' heq
    cases heq
    exact ⟨hreading, hbrief⟩
  other hnot := absurd rfl (hnot operation)

/-- How a console goes on with a command. -/
lemma turn_command {text : String} {cmd : Command} (hreading : c.isReading)
    (huse : c.use text = .command cmd) (network : Network) :
    Turn c network (.line text) (c.command network cmd).1 := by
  have hinput : c.input? (.line text) = (c.begun? text).map .start := by
    rw [input?, hreading, if_pos rfl]
  -- to quit is an operation only while there is a connection
  by_cases hcmd : cmd = .quit
  · subst hcmd
    simp only [command]
    split_ifs with hattached
    · have hbegun : c.begun? text = some .quit := by
        rw [begun?, huse]
        exact if_pos hattached
      exact Turn.of_advance (serves_line hreading hbegun (iff_of_true rfl huse) (by rintro ⟨⟩))
    · refine .ends ?_ ⟨hreading, huse⟩
      rw [hinput, begun?, huse]
      dsimp only
      rw [if_neg hattached, Option.map_none]
  · have hbegun := begun?_of_ne_quit huse hcmd
    have hnot : c.use text ≠ .command .quit := by
      rw [huse]
      exact fun heq => hcmd (Use.command.inj heq)
    rw [command_of_ne_quit hcmd]
    cases hplan : plan c.target c.engine.session cmd with
    | say shown =>
      rw [hplan] at hbegun
      exact .stays (by rw [hinput, hbegun]; rfl) fun hlast => hnot hlast.2
    | perform before operation report =>
      rw [hplan] at hbegun
      have hserves : c.Serves (.line text) (.start operation) (some (.command report)) :=
        serves_line hreading hbegun (iff_of_false (by rintro ⟨⟩) hnot) (by rintro ⟨⟩)
      exact Turn.of_advance hserves

/-- How a console goes on with a line. -/
lemma turn_line (c : State) (network : Network) (text : String) :
    Turn c network (.line text) (c.step network (.line text)).1 := by
  have hquit : c.IsLast (.line text) → c.isReading ∧ c.use text = .command .quit := id
  cases hreading : c.isReading with
  | false =>
    have hstep : c.step network (.line text) = (c, "") := by
      simp only [step]
      rw [hreading, if_neg Bool.false_ne_true]
    rw [hstep]
    refine .stays (by rw [input?, hreading, if_neg Bool.false_ne_true]) fun hlast => ?_
    rw [hreading] at hquit
    exact Bool.false_ne_true (hquit hlast).1
  | true =>
    have hstep : c.step network (.line text) = c.readLine network text := by
      simp only [step]
      rw [hreading, if_pos rfl]
    have hinput : c.input? (.line text) = (c.begun? text).map .start := by
      rw [input?, hreading, if_pos rfl]
    rw [hstep, readLine_eq]
    cases huse : c.use text with
    | nothing =>
      refine .stays (by rw [hinput, begun?, huse]; rfl) fun hlast => ?_
      rw [huse] at hquit
      cases (hquit hlast).2
    | mistake =>
      refine .stays (by rw [hinput, begun?, huse]; rfl) fun hlast => ?_
      rw [huse] at hquit
      cases (hquit hlast).2
    | input =>
      have hserves : c.Serves (.line text) (.start (.input text)) none :=
        serves_line hreading (by rw [begun?, huse])
          (by rw [huse]; constructor <;> rintro ⟨⟩) fun _ => rfl
      exact hserves.turn_of_none network
    | command cmd => exact turn_command hreading huse network

/-- An interruption stops the program if it runs. -/
lemma turn_interrupted (c : State) (network : Network) :
    Turn c network .interrupted (c.step network .interrupted).1 := by
  by_cases hstops : c.isReading ∧ c.engine.session.state = .running
  · obtain ⟨hreading, hs⟩ := hstops
    obtain ⟨hended, hpurpose⟩ := isReading_iff.mp hreading
    have hserves : c.Serves .interrupted (.start .interrupt) none :=
      { input? := by rw [input?, hreading, hs]; rfl
        ended := hended
        quitting := by
          rw [hpurpose]
          exact iff_of_false (by rintro ⟨⟩) (not_or.mpr ⟨by rintro ⟨⟩, id⟩)
        start := fun operation heq => ⟨hreading, fun _ => by cases heq; rfl⟩
        other := fun hnot => absurd rfl (hnot .interrupt) }
    have hstep : (c.step network .interrupted).1
        = { c with engine := (c.engine.step network (.start .interrupt)).1 } := by
      simp only [step]
      rw [if_pos hreading, interrupt, if_pos hs]
      rfl
    rw [hstep]
    exact hserves.turn_of_none network
  · have hstep : (c.step network .interrupted).1 = c := by
      simp only [step]
      split_ifs with hreading
      · rw [interrupt, if_neg fun hs => hstops ⟨hreading, hs⟩]
      · rfl
    have hnone : c.input? .interrupted = none := by
      rw [input?, if_neg]
      rw [Bool.and_eq_true, beq_iff_eq]
      exact hstops
    rw [hstep]
    exact .stays hnone id

/-- Every console goes on in one of these ways, whatever happens. -/
lemma turn (c : State) (network : Network) (h : Happening) :
    Turn c network h (c.step network h).1 := by
  -- there is no more to be read
  have hends : ∀ text : String, c.input? h = none → (c.IsLast h ↔ c.isReading) →
      Turn c network h (if c.isReading then (c.finish, text) else (c, "")).1 := by
    intro text hnone hlast
    split_ifs with hreading
    · exact .ends hnone (hlast.mpr hreading)
    · exact .stays hnone fun h => hreading (hlast.mp h)
  cases h with
  | line text => exact turn_line c network text
  | interrupted => exact turn_interrupted c network
  | unreadable => exact hends _ rfl Iff.rfl
  | endOfInput => exact hends _ rfl Iff.rfl
  | session input =>
    by_cases hstart : ∃ operation, input = .start operation
    · obtain ⟨operation, rfl⟩ := hstart
      exact .stays rfl id
    · have hinput : c.input? (.session input) = if c.ended then none else some input := by
        cases input with
        | start operation => exact absurd ⟨operation, rfl⟩ hstart
        | _ => rfl
      have hstep : c.step network (.session input)
          = if c.ended then (c, "") else c.advance c.purpose (c.engine.step network input) := by
        cases input with
        | start operation => exact absurd ⟨operation, rfl⟩ hstart
        | _ => rfl
      rw [hstep]
      split_ifs with hended
      · exact .stays (by rw [hinput, if_pos hended]) id
      · exact Turn.of_advance
          { input? := by rw [hinput, if_neg hended]
            ended := Bool.eq_false_iff.mpr hended
            quitting := (or_iff_left id).symm
            start := fun operation heq => absurd ⟨operation, heq⟩ hstart
            other := fun _ => rfl }

end State

end Console

end RemoteDebugger
