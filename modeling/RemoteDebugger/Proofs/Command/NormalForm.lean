import RemoteDebugger.Proofs.Command.Language

/-!
# Normal forms of commands

Every command that is read can be written again: with its word in full and one space between its
parts. What is written so is read as the command again, and so it is with any other blanks around
the parts.
-/

namespace RemoteDebugger.Command

/-! ### Texts that come out of reading -/

/-- A place that can be read: its file is not empty, has no blanks at its ends and holds no
colon. -/
structure IsCleanPlace (p : Place) : Prop where
  bare : IsBare p.file.toList
  no_colon : ':' ∉ p.file.toList
  line_le : p.line ≤ Numeral.max32

/-- A command that can be read. A file that is to be cleared as a whole must not begin like a
place. -/
def IsClean : Command → Prop
  | .resume (some p)        => IsCleanPlace p
  | .jump n                 => n ≤ Numeral.max32
  | .setBreakpoint p _ cond => IsCleanPlace p ∧ ∀ c ∈ cond, IsBare c.toList
  | .clear file (some n)    => IsCleanPlace { file, line := n }
  | .clear file none        => IsBare file.toList ∧ place file.toList = none
  | .eval text | .exec text => IsBare text.toList
  | _                       => True

section

variable {cs w tail T : List Char} {p : Place}

/-- A text without the blanks at its ends is bare, unless nothing is left. -/
lemma isBare_ofList_trimBlanks (h : StartsNot isBlank cs) (hne : cs ≠ []) :
    IsBare (String.ofList (trimBlanks cs)).toList := by
  rw [String.toList_ofList]
  exact isBare_trimBlanks (not_isBlankRow_of_startsNot h hne)

lemma mem_of_mem_trimBlanks {c : Char} (h : c ∈ trimBlanks cs) : c ∈ cs := by
  obtain ⟨w, -, hskip⟩ := exists_skipBlanks_eq cs
  obtain ⟨w', -, hcs⟩ := exists_skipBlanks cs
  rw [hcs, hskip]
  exact List.mem_append_right w' (List.mem_append_left w h)

/-- A place that is read is clean. -/
lemma SpellsPlace.isCleanPlace (h : SpellsPlace p cs tail) : IsCleanPlace p := by
  cases h with
  | intro hne hcolon hfirst hw hn htail =>
    refine ⟨isBare_ofList_trimBlanks hfirst hne, ?_, hn⟩
    rw [String.toList_ofList]
    exact fun hmem => hcolon (mem_of_mem_trimBlanks hmem)

/-- Blanks after a text make no place of what it begins with, and undo none. -/
lemma exists_spellsPlace_append_iff (hw : IsBlankRow w) :
    (∃ tail, SpellsPlace p (cs ++ w) tail) ↔ ∃ tail, SpellsPlace p cs tail := by
  constructor
  · rintro ⟨tail, h⟩
    generalize htext : cs ++ w = text at h
    cases h with
    | @intro file w' tail n hne hcolon hfirst hw' hn htail =>
      have hsplit : cs ++ w = ((file ++ ':' :: w') ++ Numeral.write n) ++ tail := by simp [htext]
      have hspells {tail' : List Char} (htail' : n = 0 ∨ StartsNot Char.isDigit tail') :=
        SpellsPlace.intro hne hcolon hfirst hw' hn htail'
      rcases List.append_eq_append_iff.mp hsplit with ⟨a, hplace, rfl⟩ | ⟨tail', rfl, rfl⟩
      · -- The place does not go on into the blanks.
        have ha : a = [] :=
          Numeral.eq_nil_of_append_write (List.forall_mem_append.mp hw).1 hplace.symm
        rw [ha, List.append_nil] at hplace
        exact ⟨[], by simpa [← hplace] using hspells (.inr startsNot_nil)⟩
      · exact ⟨tail', by simpa using hspells (htail.imp_right StartsNot.of_append)⟩
  · -- a place goes on to be one with blanks after what follows it
    rintro ⟨tail, h⟩
    cases h with
    | intro hne hcolon hfirst hw' hn htail =>
      have hspells := SpellsPlace.intro hne hcolon hfirst hw' hn
        (htail.imp_right fun h => h.append_startsNot (hw.startsNot Numeral.isDigit_of_isBlank))
      exact ⟨tail ++ w, by simpa using hspells⟩

/-- Blanks after a text decide nothing about whether it begins with a place. -/
lemma place_append_eq_none_iff (hcs : StartsNot isBlank cs) (hne : cs ≠ []) (hw : IsBlankRow w) :
    place (cs ++ w) = none ↔ place cs = none := by
  rw [place_eq_none_iff hcs, place_eq_none_iff (hcs.append hne w)]
  simp only [← not_exists]
  exact not_congr (exists_congr fun p => exists_spellsPlace_append_iff hw)

/-- What is read is clean. -/
lemma IsSpelling.isClean {c : Command} (h : IsSpelling c cs) : IsClean c := by
  obtain ⟨text, ⟨name, -, hleads⟩, hspells⟩ := h
  have htext := hleads.startsNot
  cases hspells with
  | @plain c hc => cases c <;> simp [isPlain, IsClean] at hc ⊢
  | resume => trivial
  | resumeTo hp => exact hp.isCleanPlace
  | jump hn => exact hn
  | setBreakpoint hp hw hC =>
    refine ⟨hp.isCleanPlace, ?_⟩
    cases hC with
    | without => nofun
    | given hT hne =>
      rintro c ⟨⟩
      rw [String.toList_ofList]
      exact isBare_trimBlanks hne
  | clearLine hp => exact hp.isCleanPlace
  | clearFile hne hp =>
    refine ⟨isBare_ofList_trimBlanks htext hne, ?_⟩
    -- a file that is no place stays none without the blanks after it
    have hbare := isBare_trimBlanks (not_isBlankRow_of_startsNot htext hne)
    obtain ⟨w, hw, hskip⟩ := exists_skipBlanks_eq text
    rw [skipBlanks_of_startsNot htext] at hskip
    rw [← place_eq_none_iff htext, hskip] at hp
    rw [String.toList_ofList]
    exact (place_append_eq_none_iff hbare.first hbare.ne_nil hw).mp hp
  | eval hne => exact isBare_ofList_trimBlanks htext hne
  | exec hne => exact isBare_ofList_trimBlanks htext hne

end

/-! ### Writing -/

/-- A row of blanks. -/
abbrev Blanks := { w : List Char // IsBlankRow w }

/-- The blanks around the parts of a line: there must be some after a word, and else there may be
none. -/
structure Gaps where
  before : Blanks
  afterWord : Blanks
  beforeColon : Blanks
  afterColon : Blanks
  beforeIf : Blanks
  afterIf : Blanks
  after : Blanks
  afterWord_ne_nil : afterWord.val ≠ []
  afterIf_ne_nil : afterIf.val ≠ []

/-- One space between parts, and none inside a place. -/
def Gaps.single : Gaps where
  before := ⟨[], by decide⟩
  afterWord := ⟨[' '], by decide⟩
  beforeColon := ⟨[], by decide⟩
  afterColon := ⟨[], by decide⟩
  beforeIf := ⟨[' '], by decide⟩
  afterIf := ⟨[' '], by decide⟩
  after := ⟨[], by decide⟩
  afterWord_ne_nil := by decide
  afterIf_ne_nil := by decide

/-- A place in writing. -/
def writePlace (g : Gaps) (p : Place) : List Char :=
  p.file.toList ++ (g.beforeColon.val ++ ':' :: (g.afterColon.val ++ Numeral.write p.line))

/-- A condition in writing, if there is one. -/
def writeCondition (g : Gaps) : Option String → List Char
  | some text => g.beforeIf.val ++ ("if".toList ++ (g.afterIf.val ++ text.toList))
  | none      => []

/-- What a command is about in writing, if it is about anything. -/
def writeArguments (g : Gaps) : Command → List Char
  | .resume (some p)        => g.afterWord.val ++ writePlace g p
  | .jump n                 => g.afterWord.val ++ Numeral.write n
  | .setBreakpoint p _ cond => g.afterWord.val ++ (writePlace g p ++ writeCondition g cond)
  | .clear file (some n)    => g.afterWord.val ++ writePlace g { file, line := n }
  | .clear file none        => g.afterWord.val ++ file.toList
  | .eval text | .exec text => g.afterWord.val ++ text.toList
  | _                       => []

/-- A command in writing, with its word in full. -/
def write (g : Gaps) (c : Command) : String :=
  String.ofList (g.before.val ++
    (((names c).headD "").toList ++ (writeArguments g c ++ g.after.val)))

/-- The normal form of a command. -/
def shown (c : Command) : String := write .single c

example : shown (.setBreakpoint { file := "a.py", line := 7 } true (some "x > 1"))
    = "tbreak a.py:7 if x > 1" := by
  decide

section

variable {g : Gaps} {p : Place} {c : Command} {tail text : List Char}

lemma IsCleanPlace.startsNot_write (h : IsCleanPlace p) (tail : List Char) :
    StartsNot isBlank (writePlace g p ++ tail) := by
  rw [writePlace, List.append_assoc]
  exact h.bare.first.append h.bare.ne_nil _

/-- A clean place is spelled as it is written. -/
lemma IsCleanPlace.spells (h : IsCleanPlace p) (htail : StartsNot Char.isDigit tail) :
    SpellsPlace p (writePlace g p ++ tail) tail := by
  have hspells :=
    spellsPlace_of_isBare h.bare h.no_colon g.beforeColon.property g.afterColon.property
      h.line_le htail
  simpa [writePlace] using hspells

lemma headD_names_mem (c : Command) : (names c).headD "" ∈ names c := by
  cases c with
  | setBreakpoint p temporary cond => cases temporary <;> exact List.mem_cons_self
  | _ => exact List.mem_cons_self

/-- After the word there are blanks, and then what can only be about the command. -/
inductive Follows (c : Command) : List Char → Prop
  | intro {w text : List Char} (hw : IsBlankRow w) (hfirst : StartsNot isBlank text)
      (hstop : StartsNot Identifier.isContinue (w ++ text)) (hspells : SpellsArguments c text) :
        Follows c (w ++ text)

/-- What spells the thing that a command is about follows its word, after some blanks. -/
lemma follows_afterWord (hfirst : StartsNot isBlank (text ++ tail))
    (h : SpellsArguments c (text ++ tail)) :
    Follows c (g.afterWord.val ++ text ++ tail) := by
  have hword := g.afterWord.property.startsNot Identifier.isContinue_of_isBlank
  rw [List.append_assoc]
  exact .intro g.afterWord.property hfirst (hword.append g.afterWord_ne_nil _) h

/-- Nothing but blanks follows the word of a command about nothing. -/
lemma follows_nothing (h : SpellsArguments c []) : Follows c g.after.val := by
  have hafter := g.after.property.startsNot Identifier.isContinue_of_isBlank
  have hfollows :=
    Follows.intro g.after.property startsNot_nil (hafter.append_startsNot startsNot_nil) h
  rwa [List.append_nil] at hfollows

/-- A bare condition is spelled as it is written, and none by nothing. -/
lemma spellsCondition_write {cond : Option String} (h : ∀ c ∈ cond, IsBare c.toList) :
    ∃ w C, writeCondition g cond ++ g.after.val = w ++ C ∧ IsBlankRow w ∧
      SpellsCondition cond C := by
  cases cond with
  | none => exact ⟨g.after.val, [], (List.append_nil _).symm, g.after.property, .without⟩
  | some c =>
    have hspells :=
      spellsCondition_of_isBare (h c rfl) g.afterIf.property g.afterIf_ne_nil g.after.property
    exact ⟨g.beforeIf.val, _, by simp [writeCondition], g.beforeIf.property, hspells⟩

/-- What is written is what the command is about. -/
lemma IsClean.follows (h : IsClean c) (g : Gaps) :
    Follows c (writeArguments g c ++ g.after.val) := by
  have hdigit : StartsNot Char.isDigit g.after.val :=
    g.after.property.startsNot Numeral.isDigit_of_isBlank
  cases c with
  | resume at_ =>
    cases at_ with
    | none => exact follows_nothing .resume
    | some p =>
      exact follows_afterWord (h.startsNot_write _)
        (.resumeTo (h.spells hdigit) g.after.property)
  | jump n => exact follows_afterWord (Numeral.startsNot_write n _) (.jump h g.after.property)
  | setBreakpoint p temporary cond =>
    obtain ⟨hp, hcond⟩ := h
    obtain ⟨w, C, heq, hw, hC⟩ := spellsCondition_write (g := g) hcond
    refine follows_afterWord ?_ ?_
    · rw [List.append_assoc]
      exact hp.startsNot_write _
    · rw [List.append_assoc, heq]
      exact .setBreakpoint (hp.spells (hC.startsNot_isDigit hw)) hw hC
  | clear file line =>
    cases line with
    | some n =>
      exact follows_afterWord (h.startsNot_write _)
        (.clearLine (h.spells hdigit) g.after.property)
    | none =>
      obtain ⟨hbare, hplace⟩ := h
      -- the blanks after the file are trimmed away, and make no place of it
      have hfirst := hbare.first.append hbare.ne_nil g.after.val
      have hclear :=
        SpellsArguments.clearFile (List.append_ne_nil_of_left_ne_nil hbare.ne_nil g.after.val)
        ((place_eq_none_iff hfirst).mp
          ((place_append_eq_none_iff hbare.first hbare.ne_nil g.after.property).mpr hplace))
      rw [hbare.trim_append_right g.after.property, String.ofList_toList] at hclear
      exact follows_afterWord hfirst hclear
  | eval expression =>
    have heval := SpellsArguments.eval (List.append_ne_nil_of_left_ne_nil h.ne_nil g.after.val)
    rw [h.trim_append_right g.after.property, String.ofList_toList] at heval
    exact follows_afterWord (h.first.append h.ne_nil _) heval
  | exec statement =>
    have hexec := SpellsArguments.exec (List.append_ne_nil_of_left_ne_nil h.ne_nil g.after.val)
    rw [h.trim_append_right g.after.property, String.ofList_toList] at hexec
    exact follows_afterWord (h.first.append h.ne_nil _) hexec
  | _ => exact follows_nothing (.plain rfl)

/-- What is written is read. -/
lemma IsClean.isSpelling (h : IsClean c) (g : Gaps) : IsSpelling c (write g c).toList := by
  have hfollows := h.follows g
  rw [write, String.toList_ofList]
  generalize writeArguments g c ++ g.after.val = rest at hfollows ⊢
  cases hfollows with
  | intro hw hfirst hstop hspells =>
    exact ⟨_, ⟨_, headD_names_mem c, .intro g.before.property hw hfirst (.inr hstop)⟩, hspells⟩

end

/-- A command that is read is clean and is read from its normal form, and so is every clean
command, whatever the blanks around its parts. -/
theorem normal_form :
    (∀ line c, parse line = .ok c → IsClean c ∧ parse (shown c) = .ok c) ∧
      ∀ c, IsClean c → ∀ g, parse (write g c) = .ok c := by
  have hwrite : ∀ c, IsClean c → ∀ g, parse (write g c) = .ok c :=
    fun c hc g => parse_eq_ok_iff_isSpelling.mpr (hc.isSpelling g)
  refine ⟨fun line c h => ?_, hwrite⟩
  have hc := (parse_eq_ok_iff_isSpelling.mp h).isClean
  exact ⟨hc, hwrite c hc .single⟩

/-- A condition right after the line number, and a file to clear that would be a place if its
number were not too large. -/
theorem normal_form_spaced :
    parse "\tb  src/a b.py : 7if x "
      = .ok (.setBreakpoint { file := "src/a b.py", line := 7 } false (some "x")) ∧
      parse "break src/a b.py:7 if x"
        = .ok (.setBreakpoint { file := "src/a b.py", line := 7 } false (some "x")) ∧
      IsClean (.clear "a:4294967296" none) ∧
      parse "\x0bclear a:4294967296 \n" = .ok (.clear "a:4294967296" none) := by
  have hread : parse "\tb  src/a b.py : 7if x "
      = .ok (.setBreakpoint { file := "src/a b.py", line := 7 } false (some "x")) := by
        decide +kernel
  have hclean : IsClean (.clear "a:4294967296" none) :=
    ⟨⟨by decide, by decide, by decide⟩, by decide⟩
  exact ⟨hread, (normal_form.1 _ _ hread).2, hclean, normal_form.2 _ hclean
    { Gaps.single with before := ⟨['\x0b'], by decide⟩, after := ⟨[' ', '\n'], by decide⟩ }⟩

end RemoteDebugger.Command
