import RemoteDebugger.Proofs.Command.Spelling
import RemoteDebugger.Proofs.Console.Failures
import RemoteDebugger.Proofs.Session.Breakpoints
import RemoteDebugger.Proofs.Text.Utf8
import RemoteDebugger.Proofs.Time.Backoff

/-!
# The console without an agent

As long as no agent is reached, a console keeps a list of breakpoints and does nothing else. The
list is a finite map from places to conditions, and every line changes it as it says, through the
grammar of commands, the names of files, the session and its registry.
-/

namespace RemoteDebugger

/-! ### Operations without an agent -/

/-- The agent that an operation is to attach to, if it is to attach to one. -/
def Operation.target? : Operation → Option Target
  | .attach target | .attachRetrying target => some target
  | _                                       => none

namespace Session

variable {s : Session} {network : Network}

lemma isOk_attempt {r : Except ConnectionError Unit} (h : r.isOk = false) :
    (s.attempt r).isOk = false := by
  cases r with
  | ok u => cases h
  | error e => rfl

/-- An agent that is not reached leaves the session as it is. -/
lemma attach_unreached {target : Target} (h : (network target 0).isOk = false) :
    ∃ answer, s.attach network target = (s, answer) := by
  have hattempt := isOk_attempt (s := s) h
  rw [attach]
  split_ifs
  · exact ⟨_, rfl⟩
  · split
    · next hok =>
      rw [hok] at hattempt
      cases hattempt
    · exact ⟨_, rfl⟩

/-- So does one that is not reached in any of several attempts. -/
lemma attachRetrying_unreached {target : Target} (h : ∀ k, (network target k).isOk = false) :
    ∃ answer, s.attachRetrying network target = (s, answer) := by
  obtain ⟨j, -, hj, -, -⟩ := s.config.attachRetry.outcome_retry SessionError.isUnreached
    fun k => s.attempt (network target k)
  have hfails : (s.attempt (network target j)).isOk = false := isOk_attempt (h j)
  rw [attachRetrying]
  split_ifs
  · exact ⟨_, rfl⟩
  · dsimp only
    rw [hj]
    split
    · next hok =>
      rw [hok] at hfails
      cases hfails
    · exact ⟨_, rfl⟩

lemma forceIfAttached_unattached (hs : s.connection = none) (operation : Forced)
    (detached : Answer) :
    s.forceIfAttached operation detached = (s, .finished detached) := by
  rw [forceIfAttached]
  exact if_neg (by rw [isAttached, hs]; decide)

/-- Without a connection, and without an agent to be reached, an operation is over at once, and
it changes nothing but the registry. -/
lemma start_offline (hs : s.connection = none) {operation : Operation}
    (h : ∀ target, operation.target? = some target → ∀ k, (network target k).isOk = false) :
    ∃ answer, s.start network operation
      = ({ s with breakpoints := s.breakpoints.note s.config.directory operation },
        .finished answer) := by
  have hstate : s.state = .detached := by rw [state, hs]
  have hgone : s.isAttached = false := by rw [isAttached, hs]; rfl
  -- a command is refused
  have hcommand : ∀ m args goal, s.command m args goal
      = (s, .finished (.error .notAttached)) := by
    intro m args goal
    rw [command, refusal?, hstate]
    rfl
  cases operation with
  | attach target =>
    obtain ⟨answer, heq⟩ := attach_unreached (s := s) (h target rfl 0)
    exact ⟨answer, congrArg done heq⟩
  | attachRetrying target =>
    obtain ⟨answer, heq⟩ := attachRetrying_unreached (s := s) (h target rfl)
    exact ⟨answer, congrArg done heq⟩
  | detach =>
    have hsame : s.detach = s := by rw [detach, hs]
    exact ⟨_, by rw [start, hsame]; rfl⟩
  | setBreakpoint b =>
    refine ⟨.ok .null, ?_⟩
    show s.setBreakpoint b = _
    rw [setBreakpoint, Registry.note]
    split_ifs <;> exact forceIfAttached_unattached (by exact hs) _ _
  | clearBreakpoint b => exact ⟨_, forceIfAttached_unattached (by exact hs) _ _⟩
  | clearFile file => exact ⟨_, forceIfAttached_unattached (by exact hs) _ _⟩
  | quit =>
    have hquit : s.quit = (s, .finished (.error .notAttached)) := by
      rw [quit, hs]
      rfl
    exact ⟨_, hquit⟩
  | interrupt =>
    have hinterrupt : s.interrupt = (s, .error .notAttached) := by rw [interrupt, hstate]
    exact ⟨_, congrArg done hinterrupt⟩
  | input text =>
    have hinput : s.provideInput text = (s, .error .notAttached) := by rw [provideInput, hs]
    exact ⟨_, congrArg done hinput⟩
  | checkException => exact ⟨_, rfl⟩
  | _ => exact ⟨_, hcommand _ _ _⟩

end Session

namespace Console

open Session

/-! ### The list of breakpoints -/

/-- The conditions of the breakpoints on the list, by their places, after one more line. -/
def enlist (directory : String) (listed : Place → Option (Option String)) (text : String) :
    Place → Option (Option String) :=
  match Command.parse text with
  | .ok (.setBreakpoint p false condition) =>
    Function.update listed { p with file := FileName.canonical directory p.file }
      (some condition)
  | .ok (.clear file (some n)) =>
    Function.update listed { file := FileName.canonical directory file, line := n } none
  | .ok (.clear file none) =>
    fun p => if p.file = FileName.canonical directory file then none else listed p
  | _ => listed

/-- The list after some lines. -/
def listed (directory : String) (texts : List String) : Place → Option (Option String) :=
  texts.foldl (enlist directory) fun _ => none

/-- What the registry knows a place on the list by. -/
def keyOf (p : Place) : Breakpoint.Key := ⟨p.file, some p.line, false⟩

/-- Different places have different keys. -/
lemma keyOf_injective : Function.Injective keyOf := by
  rintro ⟨file, line⟩ ⟨file', line'⟩ h
  cases h
  rfl

/-- The list that a registry stands for. -/
def listing (r : Registry) (p : Place) :
    Option (Option String) := (r.find? (keyOf p)).map (·.condition)

/-- A breakpoint on the list in writing. -/
def renderListed (p : Place) (condition : Option String) : String :=
  "Breakpoint on file " ++ p.file ++ s!" on line {p.line}" ++
    match condition with
    | some condition => " if " ++ condition
    | none           => ""

/-- The order of the list: by the bytes of the file, then by the line. -/
def Place.Precedes (p q : Place) : Prop :=
  Utf8.encode p.file < Utf8.encode q.file ∨ p.file = q.file ∧ p.line < q.line

/-- The breakpoints of a console without an agent: in order, none is temporary, and all have a
line. -/
structure Listed (r : Registry) : Prop extends r.Tidy where
  lined : ∀ b ∈ r.entries, b.line.isSome

/-- A breakpoint that is put into the registry is put on the list. -/
lemma listing_insert {r : Registry} {b : Breakpoint} {p : Place} (hb : b.key = keyOf p) :
    listing (r.insert b) = Function.update (listing r) p (some b.condition) := by
  funext q
  rw [listing, Registry.find?_insert, Function.update_apply, hb]
  by_cases hpq : q = p
  · rw [if_pos (congrArg keyOf hpq.symm), if_pos hpq, Option.map_some]
  · rw [if_neg fun h => hpq (keyOf_injective h).symm, if_neg hpq, listing]

/-- One that is taken off the registry is taken off the list. -/
lemma listing_erase (r : Registry) (p : Place) :
    listing (r.erase (keyOf p)) = Function.update (listing r) p none := by
  funext q
  rw [listing, Registry.find?_erase, Function.update_apply]
  by_cases hpq : q = p
  · rw [if_pos (congrArg keyOf hpq), if_pos hpq, Option.map_none]
  · rw [if_neg fun h => hpq (keyOf_injective h), if_neg hpq, listing]

/-- A file that is given up goes off the list with all its lines. -/
lemma listing_removeFile (r : Registry) (file : String) :
    listing (r.removeFile file).2 = fun p => if p.file = file then none else listing r p := by
  funext p
  have hfile : (keyOf p).file = p.file := rfl
  rw [listing, Registry.find?_removeFile, hfile]
  split_ifs
  · exact Option.map_none _
  · rfl

/-! ### What is shown of it -/

/-- The entries of the list, in the order in which they are shown. -/
def entriesOf (r : Registry) : List (Place × Option String) :=
  r.entries.map fun b => ({ file := b.file, line := b.line.getD 0 }, b.condition)

/-- Every breakpoint on the list has a line and lasts. -/
lemma Listed.eq_build {r : Registry} (h : Listed r) {b : Breakpoint} (hb : b ∈ r.entries) :
    ∃ n, b =
      { file := b.file, line := some n, temporary := false, condition := b.condition } := by
  obtain ⟨n, hn⟩ := Option.isSome_iff_exists.mp (h.lined b hb)
  have hlasting := h.lasting b hb
  obtain ⟨file, line, temporary, condition⟩ := b
  exact ⟨n, by simp_all⟩

lemma Listed.display {r : Registry} (h : Listed r) {b : Breakpoint} (hb : b ∈ r.entries) :
    b.display = renderListed { file := b.file, line := b.line.getD 0 } b.condition := by
  obtain ⟨n, hbuild⟩ := h.eq_build hb
  rw [hbuild]
  rfl

/-- They are shown one on a line, with numbers from zero, or it is said that there are none. -/
lemma Listed.renderBreakpoints {r : Registry} (h : Listed r) : renderBreakpoints r.all
    = if (entriesOf r).isEmpty then "no breakpoints"
      else Console.lines ((entriesOf r).mapIdx fun i e =>
        s!"{i}: " ++ renderListed e.1 e.2) := by
  have hrender : r.all.mapIdx (fun i b => s!"{i}: " ++ b.display)
      = (entriesOf r).mapIdx fun i e => s!"{i}: " ++ renderListed e.1 e.2 := by
    apply List.ext_getElem
    · simp [entriesOf, Registry.all]
    · intro i hi hi'
      rw [List.getElem_mapIdx, List.getElem_mapIdx]
      simp only [entriesOf, List.getElem_map]
      rw [← h.display (List.getElem_mem _)]
      rfl
  rw [Console.renderBreakpoints, hrender, entriesOf, List.isEmpty_map]
  rfl

/-- Breakpoints with a line keep a registry one that can be listed. -/
lemma Listed.note {r : Registry} (h : Listed r) {directory : String} {operation : Operation}
    (hlined : ∀ b, operation = .setBreakpoint b → b.line.isSome) :
    Listed (r.note directory operation) := by
  refine ⟨h.toTidy.note operation, ?_⟩
  cases operation with
  | setBreakpoint b =>
    rw [Registry.note]
    split_ifs
    · exact h.lined
    · intro c hc
      rcases Registry.mem_insertInto hc with rfl | hc
      · exact hlined c rfl
      · exact h.lined c hc
  | clearBreakpoint b => exact fun c hc => h.lined c (List.mem_of_mem_filter hc)
  | clearFile file => exact fun c hc => h.lined c (List.mem_of_mem_filter hc)
  | _ => exact h.lined

/-- A console that reads lines, without a connection. -/
structure Alone (c : State) : Prop where
  idle : c.engine.task = none
  detached : c.engine.session.connection = none
  reading : c.isReading

/-- The console once the registry has taken note of an operation. -/
def State.noting (c : State) (operation : Operation) : State :=
  { c with engine := { session := { c.engine.session with
      breakpoints :=
        c.engine.session.breakpoints.note c.engine.session.config.directory operation } } }

namespace Alone

variable {c : State} {network : Network}

lemma purpose (h : Alone c) : c.purpose = none := by
  have hreading := h.reading
  rw [State.isReading, Bool.and_eq_true, Option.isNone_iff_eq_none] at hreading
  exact hreading.2

lemma not_blocked (h : Alone c) : c.engine.session.state ≠ .blockedOnInput := by
  rw [Session.state, h.detached]
  decide

lemma noting (h : Alone c) (operation : Operation) : Alone (c.noting operation) :=
  ⟨rfl, h.detached, h.reading⟩

/-- An operation of a console without an agent is over at once. -/
lemma start (h : Alone c) {operation : Operation}
    (hnetwork : ∀ target, operation.target? = some target → ∀ k,
      (network target k).isOk = false) :
    ∃ answer, c.engine.start network operation = ((c.noting operation).engine, some answer) := by
  obtain ⟨answer, hstart⟩ := start_offline h.detached hnetwork
  rw [Engine.start, h.idle]
  exact ⟨answer, congrArg Engine.after hstart⟩

/-- What a plan comes to without an agent is what it changes on the list. -/
lemma pursue (h : Alone c) {purpose : (Session → Json → String) → Purpose}
    (hpurpose : ∀ report, purpose report = .opening report ∨ purpose report = .command report)
    {p : Plan}
    (hnetwork : ∀ operation ∈ p.operation?, ∀ target, operation.target? = some target →
      ∀ k, (network target k).isOk = false) :
    (c.pursue network purpose p).1 = p.operation?.elim c c.noting := by
  have hnone := h.purpose
  cases p with
  | say text => rfl
  | perform before operation report =>
    obtain ⟨answer, hstart⟩ := h.start (hnetwork operation rfl)
    have hclear : ({ c.noting operation with purpose := none } : State)
        = c.noting operation := by
      rw [← hnone]
      rfl
    simp only [State.pursue, State.begin, hstart, State.advance]
    rcases hpurpose report with hreport | hreport <;> rw [hreport] <;>
      cases answer <;> exact hclear

/-- A console alone carries a line out as the command that it spells. -/
lemma step_line (h : Alone c) {text : String} {cmd : Command}
    (hparse : Command.parse text = .ok cmd) (hquit : cmd ≠ .quit) :
    c.step network (.line text)
      = c.pursue network .command (plan c.target c.engine.session cmd) := by
  have hblank : ¬ isBlankText text = true := by
    intro hblank
    rw [Command.parse, if_pos hblank] at hparse
    cases hparse
  simp only [State.step, if_pos h.reading, State.readLine, if_neg h.not_blocked,
    if_neg hblank, hparse]
  rw [State.command]
  exact hquit

/-- A line that is no command changes nothing. -/
lemma step_of_parse_error (h : Alone c) {text : String} {e : Command.ParseError}
    (hparse : Command.parse text = .error e) : (c.step network (.line text)).1 = c := by
  simp only [State.step, if_pos h.reading, State.readLine, if_neg h.not_blocked, hparse]
  split_ifs
  · rfl
  · cases e <;> rfl

end Alone

/-- The console attaches to its own agent only. -/
lemma operation?_plan_attaches {target : Target} {s : Session} {cmd : Command}
    {operation : Operation} (h : operation ∈ (plan target s cmd).operation?) {target' : Target}
    (htarget : operation.target? = some target') :
    target' = target := by
  cases cmd with
  | clear file n => cases n <;> cases h <;> cases htarget
  | resume p => cases p <;> cases h <;> cases htarget
  | _ => cases h <;> cases htarget <;> rfl

/-- A breakpoint of a command has a line. -/
lemma operation?_plan_lined {target : Target} {s : Session} {cmd : Command} {b : Breakpoint}
    (h : (plan target s cmd).operation? = some (.setBreakpoint b)) : b.line.isSome := by
  cases cmd with
  | setBreakpoint p temporary condition =>
    cases h
    rfl
  | clear file n => cases n <;> cases h
  | resume p => cases p <;> cases h
  | _ => cases h

/-- The registry takes note of a command as the list does. -/
lemma listing_note (target : Target) (s : Session) {text : String} {cmd : Command}
    (hparse : Command.parse text = .ok cmd) :
    listing ((plan target s cmd).operation?.elim s.breakpoints
      (s.breakpoints.note s.config.directory))
        = enlist s.config.directory (listing s.breakpoints) text := by
  rw [enlist, hparse]
  cases cmd with
  | setBreakpoint p temporary condition =>
    cases temporary with
    | true => rfl
    | false =>
      exact listing_insert
        (p := { p with file := FileName.canonical s.config.directory p.file }) rfl
  | clear file n =>
    cases n with
    | none => exact listing_removeFile _ _
    | some n =>
      exact listing_erase _ { file := FileName.canonical s.config.directory file, line := n }
  | resume p => cases p <;> rfl
  | _ => rfl

/-- A console without an agent that has the breakpoints of a list, and knows a directory and its
agent. -/
structure Keeps (directory : String) (target : Target) (m : Place → Option (Option String))
    (c : State) : Prop extends Alone c where
  directory : c.engine.session.config.directory = directory
  target : c.target = target
  tidy : Listed c.engine.session.breakpoints
  listing : listing c.engine.session.breakpoints = m

variable {network : Network} {directory : String} {target : Target}
    {m : Place → Option (Option String)} {c : State}

/-- A line changes the list, whatever it comes to. -/
lemma Keeps.step (h : Keeps directory target m c)
    (hnetwork : ∀ k, (network target k).isOk = false) {text : String}
    (hquit : Command.parse text ≠ .ok .quit) :
    Keeps directory target (enlist directory m text) (c.step network (.line text)).1 := by
  cases hparse : Command.parse text with
  | error e =>
    have hsame : enlist directory m text = m := by rw [enlist, hparse]
    rw [hsame, h.step_of_parse_error hparse]
    exact h
  | ok cmd =>
    have hpursue := h.pursue (p := plan c.target c.engine.session cmd) (fun report => .inr rfl)
      fun operation hop target' htarget' => by
        rw [operation?_plan_attaches hop htarget', h.target]
        exact hnetwork
    -- what the operation notes on the registry is what the line says of the list
    have hlisting := listing_note c.target c.engine.session hparse
    rw [h.directory, h.listing] at hlisting
    rw [h.step_line hparse fun hcmd => hquit (hcmd ▸ hparse), hpursue]
    cases hop : (plan c.target c.engine.session cmd).operation? with
    | none =>
      rw [hop] at hlisting
      exact { h with listing := hlisting }
    | some operation =>
      rw [hop] at hlisting
      exact { h.noting operation with
        directory := h.directory
        target := h.target
        tidy := h.tidy.note fun b hb => operation?_plan_lined (hb ▸ hop)
        listing := by rw [← hlisting, ← h.directory]; rfl }

/-- A row of lines changes the list as an interpreter of lists says. -/
lemma Keeps.run (h : Keeps directory target m c)
    (hnetwork : ∀ k, (network target k).isOk = false) {texts : List String}
    (hquit : ∀ text ∈ texts, Command.parse text ≠ .ok .quit) :
    Keeps directory target (texts.foldl (enlist directory) m)
      (c.run network (texts.map .line)).1 := by
  induction texts generalizing m c with
  | nil => exact h
  | cons text texts ih =>
    obtain ⟨hfirst, hrest⟩ := List.forall_mem_cons.mp hquit
    exact ih (h.step hnetwork hfirst) hrest

end Console

end RemoteDebugger
