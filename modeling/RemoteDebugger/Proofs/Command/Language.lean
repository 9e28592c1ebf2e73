import RemoteDebugger.Proofs.Command.Alternatives

/-!
# The language of commands

Which lines spell a command: one of its words, in full or in short, as a whole identifier, and
then what the command is about, with blanks before, after and between them.
-/

namespace RemoteDebugger.Command

/-- The words for a command, in full and in short. -/
def names : Command → List String
  | .step                    => ["step", "s"]
  | .next                    => ["next", "n"]
  | .stepOut                 => ["return", "r"]
  | .resume _                => ["continue", "c"]
  | .jump _                  => ["jump", "j"]
  | .setBreakpoint _ false _ => ["break", "b"]
  | .setBreakpoint _ true _  => ["tbreak"]
  | .clear _ _               => ["clear"]
  | .breakpoints             => ["breakpoints", "bl"]
  | .eval _                  => ["eval", "p"]
  | .exec _                  => ["exec", "!"]
  | .callStack               => ["where", "w"]
  | .environment             => ["env"]
  | .interrupt               => ["interrupt", "i"]
  | .attach                  => ["attach"]
  | .detach                  => ["detach"]
  | .state                   => ["state"]
  | .quit                    => ["quit", "q"]
  | .help                    => ["help", "h"]

/-- Whether a command is not about anything. -/
def isPlain : Command → Bool
  | .resume _ | .jump _ | .setBreakpoint _ _ _ | .clear _ _ | .eval _ | .exec _ => false
  | _                                                                           => true

/-- A line begins with a word, whole or a character of its own, and then comes a text, each after
blanks. -/
inductive Leads (name : String) (text : List Char) : List Char → Prop
  | intro {w w' : List Char} (hw : IsBlankRow w) (hw' : IsBlankRow w')
      (htext : StartsNot isBlank text)
      (hstop : name = "!" ∨ StartsNot Identifier.isContinue (w' ++ text)) :
      Leads name text (w ++ (name.toList ++ (w' ++ text)))

/-- What a command is about, in writing. -/
inductive SpellsArguments : Command → List Char → Prop
  | plain {c : Command} (hc : c.isPlain) : SpellsArguments c []
  | resume : SpellsArguments (.resume none) []
  | resumeTo {p : Place} {text w : List Char} (hp : SpellsPlace p text w) (hw : IsBlankRow w) :
      SpellsArguments (.resume (some p)) text
  | jump {n : Nat} {w : List Char} (hn : n ≤ Numeral.max32) (hw : IsBlankRow w) :
      SpellsArguments (.jump n) (Numeral.write n ++ w)
  | setBreakpoint {p : Place} {temporary : Bool} {cond : Option String} {text w C : List Char}
      (hp : SpellsPlace p text (w ++ C)) (hw : IsBlankRow w) (hC : SpellsCondition cond C) :
      SpellsArguments (.setBreakpoint p temporary cond) text
  | clearLine {p : Place} {text w : List Char} (hp : SpellsPlace p text w) (hw : IsBlankRow w) :
      SpellsArguments (.clear p.file (some p.line)) text
  | clearFile {text : List Char} (hne : text ≠ []) (hp : ∀ p tail, ¬ SpellsPlace p text tail) :
      SpellsArguments (.clear (String.ofList (trimBlanks text)) none) text
  | eval {text : List Char} (hne : text ≠ []) :
      SpellsArguments (.eval (String.ofList (trimBlanks text))) text
  | exec {text : List Char} (hne : text ≠ []) :
      SpellsArguments (.exec (String.ofList (trimBlanks text))) text

/-- A text spells a command: one of its words, and what it is about. -/
def IsSpelling (c : Command) (cs : List Char) : Prop :=
  ∃ text, (∃ name ∈ names c, Leads name text cs) ∧ SpellsArguments c text

/-! ### Words -/

section

variable {cs text : List Char} {name : String} {ns : List String} {c : Command}

/-- A lasting breakpoint has a long name and a short one. -/
lemma mem_names_setBreakpoint {p : Place} {temporary : Bool} {cond : Option String} :
    name ∈ names (.setBreakpoint p temporary cond) ↔
      name ∈ if temporary then ["tbreak"] else ["break", "b"] := by
  cases temporary <;> rfl

lemma Leads.startsNot (h : Leads name text cs) : StartsNot isBlank text := by
  cases h with
  | intro _ _ htext _ => exact htext

/-- A word is read exactly where one of its names leads to the rest. -/
lemma word_eq_some_iff_leads
    (hns : ∀ name ∈ ns, Identifier.scan? name.toList = some (name.toList, [])) :
    word ns cs = some ((), text) ↔ ∃ name ∈ ns, Leads name text cs := by
  rw [word_eq_some_iff]
  constructor
  · rintro ⟨name, hmem, w, tail, hw, rfl, -, htail, rfl⟩
    obtain ⟨w', hw', hsplit⟩ := exists_skipBlanks tail
    have hleads : Leads name _ _ :=
      .intro hw hw' (startsNot_skipBlanks tail) (.inr (hsplit ▸ htail))
    rw [← hsplit] at hleads
    exact ⟨name, hmem, hleads⟩
  · rintro ⟨name, hmem, hleads⟩
    cases hleads with
    | @intro w w' hw hw' htext hstop =>
      have hne : name ≠ "!" := by
        rintro rfl
        exact absurd (hns _ hmem) (by decide +kernel)
      refine ⟨name, hmem, w, w' ++ text, hw, rfl, hns name hmem, hstop.resolve_left hne, ?_⟩
      rw [skipBlanks_append hw', skipBlanks_of_startsNot htext]

/-- Every name of a command but the mark is an identifier of its own. -/
lemma scan?_of_mem_names (h : name ∈ names c) (hne : name ≠ "!") :
    Identifier.scan? name.toList = some (name.toList, []) := by
  have hall : ∀ name ∈ openings.flatten, name ≠ "!" →
      Identifier.scan? name.toList = some (name.toList, []) := by
    decide +kernel
  have hsubset : names c ⊆ openings.flatten := by
    cases c with
    | setBreakpoint p temporary cond => cases temporary <;> simp [names, openings]
    | _ => simp [names, openings]
  exact hall name (hsubset h) hne

lemma mark_not_mem_names (hc : ∀ statement, c ≠ .exec statement) : "!" ∉ names c := by
  cases c with
  | setBreakpoint p temporary cond => cases temporary <;> simp [names]
  | exec statement => exact absurd rfl (hc statement)
  | _ => simp [names]

lemma word_names_eq_some_iff (hc : "!" ∉ names c) :
    word (names c) cs = some ((), text) ↔ ∃ name ∈ names c, Leads name text cs :=
  word_eq_some_iff_leads fun _ hmem => scan?_of_mem_names hmem (ne_of_mem_of_not_mem hmem hc)

/-- The mark is read exactly where it leads to the rest. -/
lemma mark_eq_some_iff : mark '!' cs = some ((), text) ↔ Leads "!" text cs := by
  rw [mark]
  constructor
  · -- the mark is the first character that is not blank
    intro h
    obtain ⟨w, hw, hcs⟩ := exists_skipBlanks cs
    cases hskip : skipBlanks cs with
    | nil =>
      rw [hskip] at h
      cases h
    | cons d tail =>
      rw [hskip] at h hcs
      dsimp only at h
      split_ifs at h with hd
      cases h
      obtain ⟨w', hw', htail⟩ := exists_skipBlanks tail
      have hleads : Leads "!" _ _ := .intro hw hw' (startsNot_skipBlanks tail) (.inl rfl)
      rw [← htail] at hleads
      rw [hcs, hd]
      exact hleads
  · rintro @⟨w, w', hw, hw', htext, -⟩
    have hmark : StartsNot isBlank ('!' :: (w' ++ text)) := startsNot_cons.mpr (by decide)
    have hskip : skipBlanks (w ++ ("!".toList ++ (w' ++ text))) = '!' :: (w' ++ text) := by
      rw [skipBlanks_append hw]
      exact skipBlanks_of_startsNot hmark
    rw [hskip]
    dsimp only
    rw [if_pos rfl, skipBlanks_append hw', skipBlanks_of_startsNot htext]

/-- The word for statements, or its mark. -/
lemma execWord_eq_some_iff :
    either (word ["exec"]) (mark '!') cs = some ((), text) ↔
      ∃ name ∈ ["exec", "!"], Leads name text cs := by
  have hmark := opensWith_mark (c := '!') (by decide +kernel)
  rw [either_eq_some_iff_of_opensWith (opensWith_word _) hmark (by decide), mark_eq_some_iff,
    word_eq_some_iff_leads (by decide +kernel)]
  simp

/-- The word that a line begins with is the only one. -/
lemma Leads.opening?_eq (h : Leads name text cs) (hmem : name ∈ names c) :
    opening? cs = some name := by
  by_cases hname : name = "!"
  · subst hname
    have hmark := opensWith_mark (c := '!') (by decide +kernel)
    obtain ⟨name, hmem, hopen⟩ := hmark cs _ (mark_eq_some_iff.mpr h)
    rw [hopen, List.mem_singleton.mp hmem]
    rfl
  · have hscan : ∀ n ∈ [name], Identifier.scan? n.toList = some (n.toList, []) := by
      intro n hn
      rw [List.mem_singleton.mp hn]
      exact scan?_of_mem_names hmem hname
    have hword := (word_eq_some_iff_leads hscan).mpr ⟨name, List.mem_singleton_self name, h⟩
    obtain ⟨name', hmem', hopen⟩ := opensWith_word _ cs _ hword
    rw [hopen, List.mem_singleton.mp hmem']

/-- A line that begins with a word is not blank. -/
lemma Leads.isBlankText_eq {line : String} (h : Leads name text line.toList)
    (hmem : name ∈ names c) :
    isBlankText line = false := by
  refine Bool.eq_false_iff.mpr fun hblank => ?_
  have hopen := h.opening?_eq hmem
  rw [opening?_of_isBlankRow (List.all_eq_true.mp hblank)] at hopen
  cases hopen

end

/-! ### What follows -/

section

variable {text rest : List Char}

/-- After the word to resume, a place or nothing is read exactly where it is spelled. -/
lemma optional_place_eq_some_iff (htext : StartsNot isBlank text) {at_ : Option Place} :
    optional place text = some (at_, []) ↔ SpellsArguments (.resume at_) text := by
  rw [optional_eq_some_iff, place_eq_none_iff htext]
  constructor
  · rintro (⟨p, hp, rfl⟩ | ⟨-, rfl, rfl⟩)
    · obtain ⟨w, hspells, hw⟩ := (place_eq_some_iff htext).mp hp
      exact .resumeTo hspells (skipBlanks_eq_nil_iff.mp hw.symm)
    · exact .resume
  · intro h
    cases h with
    | plain hc => cases hc
    | resume => exact .inr ⟨not_spellsPlace_nil, rfl, rfl⟩
    | resumeTo hp hw =>
      exact .inl ⟨_,
        (place_eq_some_iff htext).mpr ⟨_, hp, (skipBlanks_eq_nil_iff.mpr hw).symm⟩, rfl⟩

/-- After the word to jump, a number is read exactly where it is spelled. -/
lemma lineNumber_eq_some_iff_spells (htext : StartsNot isBlank text) {n : Nat} :
    lineNumber text = some (n, []) ↔ SpellsArguments (.jump n) text := by
  rw [lineNumber_eq_some_iff]
  constructor
  · rintro ⟨w, tail, hw, rfl, hn, -, htail⟩
    rw [hw.eq_nil htext]
    exact .jump hn (skipBlanks_eq_nil_iff.mp htail.symm)
  · intro h
    cases h with
    | plain hc => cases hc
    | @jump n w hn hw =>
      exact ⟨[], w, isBlankRow_nil, rfl, hn, .inr (hw.startsNot Numeral.isDigit_of_isBlank),
        (skipBlanks_eq_nil_iff.mpr hw).symm⟩

/-- A place, and a condition if there is one. -/
lemma place_condition_iff (htext : StartsNot isBlank text) {p : Place} {temporary : Bool}
    {cond : Option String} :
    (∃ mid, place text = some (p, mid) ∧ optional condition mid = some (cond, [])) ↔
      SpellsArguments (.setBreakpoint p temporary cond) text := by
  constructor
  · rintro ⟨mid, hp, hcond⟩
    obtain ⟨tail, hspells, rfl⟩ := (place_eq_some_iff htext).mp hp
    obtain ⟨w, hw, htail⟩ := exists_skipBlanks tail
    rw [htail] at hspells
    exact .setBreakpoint hspells hw
      ((optional_condition_eq_some_iff (startsNot_skipBlanks tail)).mp hcond)
  · intro h
    cases h with
    | plain hc => cases hc
    | @setBreakpoint p temporary cond text w C hp hw hC =>
      refine ⟨_, (place_eq_some_iff htext).mpr ⟨_, hp, rfl⟩, ?_⟩
      rw [hC.skipBlanks_append hw]
      exact (optional_condition_eq_some_iff hC.startsNot).mpr hC

lemma remainder_eq_some_iff_eval {expression : String} :
    remainder text = some (expression, []) ↔ SpellsArguments (.eval expression) text := by
  rw [remainder_eq_some_iff]
  constructor
  · rintro ⟨hne, rfl, -⟩
    exact .eval hne
  · intro h
    cases h with
    | plain hc => cases hc
    | eval hne => exact ⟨hne, rfl, rfl⟩

lemma remainder_eq_some_iff_exec {statement : String} :
    remainder text = some (statement, []) ↔ SpellsArguments (.exec statement) text := by
  rw [remainder_eq_some_iff]
  constructor
  · rintro ⟨hne, rfl, -⟩
    exact .exec hne
  · intro h
    cases h with
    | plain hc => cases hc
    | exec hne => exact ⟨hne, rfl, rfl⟩

/-- What is cleared is a place, or else a text that no place begins. -/
lemma cleared_eq_some_iff (htext : StartsNot isBlank text) {file : String} {line : Option Nat} :
    cleared text = some (.clear file line, []) ↔ SpellsArguments (.clear file line) text := by
  rw [cleared, either_eq_some_iff, mapPart_eq_some_iff, mapPart_eq_some_iff, mapPart,
    Option.map_eq_none_iff, place_eq_none_iff htext]
  constructor
  · rintro (⟨p, hp, heq⟩ | ⟨hnone, file, hrest, heq⟩)
    · obtain ⟨w, hspells, hw⟩ := (place_eq_some_iff htext).mp hp
      cases heq
      exact .clearLine hspells (skipBlanks_eq_nil_iff.mp hw.symm)
    · obtain ⟨hne, rfl, -⟩ := remainder_eq_some_iff.mp hrest
      cases heq
      exact .clearFile hne hnone
  · intro h
    cases h with
    | plain hc => cases hc
    | clearLine hp hw =>
      exact .inl ⟨_,
        (place_eq_some_iff htext).mpr ⟨_, hp, (skipBlanks_eq_nil_iff.mpr hw).symm⟩, rfl⟩
    | clearFile hne hp => exact .inr ⟨hp, _, remainder_eq_some_iff.mpr ⟨hne, rfl, rfl⟩, rfl⟩

end

/-! ### Whole lines -/

/-- The alternative that reads a command. -/
def reader (c : Command) : Part Command :=
  match c with
  | .resume _            => mapPart .resume (andThen (word (names c)) (optional place))
  | .jump _              => mapPart .jump (andThen (word (names c)) lineNumber)
  | .setBreakpoint _ _ _ =>
    either (breakpointAt false ["break", "b"]) (breakpointAt true ["tbreak"])
  | .clear _ _           => andThen (word (names c)) cleared
  | .eval _              => mapPart .eval (andThen (word (names c)) remainder)
  | .exec _              => mapPart .exec (andThen (either (word ["exec"]) (mark '!')) remainder)
  | _                    => simple (names c) c

section

variable {cs rest : List Char} {ns : List String} {c d : Command}

lemma reader_mem (c : Command) : reader c ∈ alternatives := by
  cases c <;> simp [reader, alternatives, names]

/-- A plain command is read from its word alone. -/
lemma simple_eq_some_iff :
    simple ns c cs = some (d, rest) ↔
      (∃ text, word ns cs = some ((), text) ∧ rest = text) ∧ d = c := by
  rw [simple, mapPart_eq_some_iff, Unique.exists_iff]
  simp [eq_comm]

lemma eq_of_simple (h : simple ns c cs = some (d, rest)) : d = c := by
  obtain ⟨_, -, rfl⟩ := mapPart_eq_some_iff.mp h
  rfl

/-- A breakpoint is read from its word, a place and perhaps a condition. -/
lemma breakpointAt_eq_some_iff {temporary : Bool} :
    breakpointAt temporary ns cs = some (c, rest) ↔
    ∃ text p mid cond, word ns cs = some ((), text) ∧ place text = some (p, mid) ∧
      optional condition mid = some (cond, rest) ∧ c = .setBreakpoint p temporary cond := by
  rw [breakpointAt]
  simp only [Option.bind_eq_bind, Option.bind_eq_some_iff, andThen_eq_some_iff, Prod.exists]
  constructor
  · rintro ⟨p, mid, ⟨_, text, hword, hp⟩, cond, _, hcond, heq⟩
    cases heq
    exact ⟨text, p, mid, cond, hword, hp, hcond, rfl⟩
  · rintro ⟨text, p, mid, cond, hword, hp, hcond, rfl⟩
    exact ⟨p, mid, ⟨(), text, hword, hp⟩, cond, rest, hcond, rfl⟩

lemma breakpoint_eq_some_iff {p : Place} {temporary : Bool} {cond : Option String} :
    reader (.setBreakpoint p temporary cond) cs = some (.setBreakpoint p temporary cond, []) ↔
      ∃ text, word (names (.setBreakpoint p temporary cond)) cs = some ((), text) ∧
        ∃ mid, place text = some (p, mid) ∧ optional condition mid = some (cond, []) := by
  rw [reader, either_eq_some_iff_of_opensWith (opensWith_breakpointAt _ _)
    (opensWith_breakpointAt _ _) (by decide), breakpointAt_eq_some_iff, breakpointAt_eq_some_iff]
  cases temporary <;> simp [names]

/-- No alternative reads a command of another one. -/
lemma eq_reader : ∀ p ∈ alternatives, ∀ cs c, whole? p cs = some c → p = reader c := by
  -- an alternative of words only, and one that reads a thing and makes a command of it
  have hsimple {ns : List String} {d : Command} (hd : simple ns d = reader d) (cs : List Char)
      (c : Command) (h : whole? (simple ns d) cs = some c) : simple ns d = reader c := by
    rw [eq_of_simple (whole?_eq_some_iff.mp h), hd]
  have hmap {α : Type} {f : α → Command} {q : Part α} (hf : ∀ a, mapPart f q = reader (f a))
      (cs : List Char) (c : Command) (h : whole? (mapPart f q) cs = some c) :
      mapPart f q = reader c := by
    obtain ⟨a, -, rfl⟩ := mapPart_eq_some_iff.mp (whole?_eq_some_iff.mp h)
    exact hf a
  simp only [alternatives, List.forall_mem_cons]
  refine ⟨hsimple rfl, hsimple rfl, hsimple rfl, hmap fun _ => rfl, hmap fun _ => rfl, ?set,
    ?clear, hsimple rfl, hmap fun _ => rfl, hmap fun _ => rfl, hsimple rfl, hsimple rfl,
    hsimple rfl, hsimple rfl, hsimple rfl, hsimple rfl, hsimple rfl, hsimple rfl,
    List.forall_mem_nil _⟩
  case set =>
    intro cs c h
    -- lasting or temporary
    rcases either_eq_some_iff.mp (whole?_eq_some_iff.mp h) with h | ⟨-, h⟩ <;>
    · obtain ⟨text, p, mid, cond, -, -, -, rfl⟩ := breakpointAt_eq_some_iff.mp h
      rfl
  case clear =>
    intro cs c h
    obtain ⟨_, text, -, h⟩ := andThen_eq_some_iff.mp (whole?_eq_some_iff.mp h)
    -- with a line or without one
    rcases either_eq_some_iff.mp h with h | ⟨-, h⟩ <;>
    · obtain ⟨a, -, rfl⟩ := mapPart_eq_some_iff.mp h
      rfl

/-- A line spells what the alternative for it reads. -/
lemma parse_eq_ok_iff_reader {line : String} :
    parse line = .ok c ↔ reader c line.toList = some (c, []) := by
  rw [parse_eq_ok_iff, ← whole?_eq_some_iff]
  constructor
  · rintro ⟨p, hmem, hp⟩
    rwa [← eq_reader p hmem _ c hp]
  · exact fun h => ⟨reader c, reader_mem c, h⟩

/-- A word of the command is read, and then what it is about. -/
lemma isSpelling_iff {w : Part Unit} {P : List Char → Prop}
    (hw : ∀ text, w cs = some ((), text) ↔ ∃ name ∈ names c, Leads name text cs)
    (hP : ∀ text, StartsNot isBlank text → (P text ↔ SpellsArguments c text)) :
    (∃ text, w cs = some ((), text) ∧ P text) ↔ IsSpelling c cs := by
  refine exists_congr fun text => ?_
  rw [hw]
  refine and_congr_right ?_
  rintro ⟨name, -, hleads⟩
  exact hP text hleads.startsNot

/-- A command is spelled by one of its words and what comes after it. -/
lemma isSpelling_iff_word (hc : ∀ statement, c ≠ .exec statement) {P : List Char → Prop}
    (hP : ∀ text, StartsNot isBlank text → (P text ↔ SpellsArguments c text)) :
    (∃ text, word (names c) cs = some ((), text) ∧ P text) ↔ IsSpelling c cs :=
  isSpelling_iff (fun _ => word_names_eq_some_iff (mark_not_mem_names hc)) hP

lemma spellsArguments_iff_of_isPlain (hc : c.isPlain) {text : List Char} :
    SpellsArguments c text ↔ text = [] := by
  constructor
  · intro h
    cases h with
    | plain => rfl
    | _ => cases hc
  · rintro rfl
    exact .plain hc

/-- A command about something is read from its word and what reads the thing. -/
lemma about_eq_some_iff {α : Type} {f : α → Command} {w : Part Unit} {q : Part α}
    (hf : Function.Injective f) {a : α} :
    mapPart f (andThen w q) cs = some (f a, []) ↔
      ∃ text, w cs = some ((), text) ∧ q text = some (a, []) := by
  rw [mapPart_eq_some_iff]
  simp [andThen_eq_some_iff, hf.eq_iff, Unique.exists_iff]

lemma reader_of_isPlain (hc : c.isPlain) : reader c = simple (names c) c := by
  cases c <;> first | rfl | cases hc

/-- The alternative for a plain command reads what spells it. -/
lemma plain_eq_some_iff (hc : c.isPlain) : reader c cs = some (c, []) ↔ IsSpelling c cs := by
  have hexec : ∀ statement, c ≠ .exec statement := by
    rintro statement rfl
    cases hc
  rw [reader_of_isPlain hc, simple_eq_some_iff, and_iff_left rfl]
  refine isSpelling_iff_word hexec fun text _ => ?_
  rw [eq_comm, spellsArguments_iff_of_isPlain hc]

/-- The alternative for a command reads what spells it. -/
lemma reader_eq_some_iff : reader c cs = some (c, []) ↔ IsSpelling c cs := by
  cases hplain : c.isPlain with
  -- nothing follows the word of a plain command
  | true => exact plain_eq_some_iff hplain
  | false =>
    cases c with
    | resume at_ =>
      rw [reader, about_eq_some_iff fun _ _ => Command.resume.inj]
      exact isSpelling_iff_word (by nofun) fun _ h => optional_place_eq_some_iff h
    | jump n =>
      rw [reader, about_eq_some_iff fun _ _ => Command.jump.inj]
      exact isSpelling_iff_word (by nofun) fun _ h => lineNumber_eq_some_iff_spells h
    | setBreakpoint p temporary cond =>
      rw [breakpoint_eq_some_iff]
      exact isSpelling_iff_word (by nofun) fun _ h => place_condition_iff h
    | clear file line =>
      rw [reader, andThen_eq_some_iff, Unique.exists_iff]
      exact isSpelling_iff_word (by nofun) fun _ h => cleared_eq_some_iff h
    | eval expression =>
      rw [reader, about_eq_some_iff fun _ _ => Command.eval.inj]
      exact isSpelling_iff_word (by nofun) fun _ _ => remainder_eq_some_iff_eval
    | exec statement =>
      rw [reader, about_eq_some_iff fun _ _ => Command.exec.inj]
      exact isSpelling_iff (fun _ => execWord_eq_some_iff) fun _ _ => remainder_eq_some_iff_exec
    | _ => cases hplain

/-- Which lines spell a command. -/
theorem parse_eq_ok_iff_isSpelling {line : String} :
    parse line = .ok c ↔ IsSpelling c line.toList := by
  rw [parse_eq_ok_iff_reader, reader_eq_some_iff]

end

end RemoteDebugger.Command
