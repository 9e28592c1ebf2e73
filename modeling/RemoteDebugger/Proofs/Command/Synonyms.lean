import RemoteDebugger.Proofs.Command.Language

/-!
# Other orders and other words

No two alternatives of the grammar match the same line, so that it does not matter in which order
they are tried. Nor does it matter whether a command is given by its word in full or in short.
-/

namespace RemoteDebugger.Command

/-! ### Other orders -/

/-- The command that a line spells if the parts of `ps` are tried one after the other. -/
def parseTrying (ps : List (Part Command)) (line : String) : Except ParseError Command :=
  if isBlankText line then .error .empty
  else match ps.findSome? (whole? · line.toList) with
    | some c => .ok c
    | none   => .error .malformed

lemma parseTrying_alternatives (line : String) :
    parseTrying alternatives line = parse line := rfl

lemma Excludes.symm {p q : Part Command} (h : Excludes p q) :
    Excludes q p := fun cs c d hc hd => h cs d c hd hc

/-- Alternatives that match the same line are the same alternative. -/
lemma eq_of_isSome_whole? {cs : List Char} {i j : Fin alternatives.length}
    (hi : (whole? alternatives[i] cs).isSome) (hj : (whole? alternatives[j] cs).isSome) :
    i = j := by
  have hpairwise := List.pairwise_iff_getElem.mp pairwise_alternatives
  obtain ⟨c, hc⟩ := Option.isSome_iff_exists.mp hi
  obtain ⟨d, hd⟩ := Option.isSome_iff_exists.mp hj
  rcases Nat.lt_trichotomy i j with hlt | heq | hgt
  · exact (hpairwise i j i.isLt j.isLt hlt cs c d hc hd).elim
  · exact Fin.ext heq
  · exact (hpairwise j i j.isLt i.isLt hgt cs d c hd hc).elim

/-- Since at most one alternative reads a text, their order does not matter. -/
lemma findSome?_eq_of_perm {ps : List (Part Command)} (h : ps.Perm alternatives)
    (cs : List Char) :
    ps.findSome? (whole? · cs) = alternatives.findSome? (whole? · cs) := by
  have hps : ps.Pairwise Excludes :=
    (h.pairwise_iff fun hpq => hpq.symm).mpr pairwise_alternatives
  refine Option.ext fun c => ?_
  rw [findSome?_eq_some_iff hps, findSome?_eq_some_iff pairwise_alternatives]
  exact exists_congr fun p => and_congr_left' h.mem_iff

/-- Whatever the order of the alternatives is, a line is parsed alike. -/
lemma parseTrying_eq_parse {ps : List (Part Command)} (h : ps.Perm alternatives)
    (line : String) :
    parseTrying ps line = parse line := by
  rw [← parseTrying_alternatives, parseTrying, parseTrying, findSome?_eq_of_perm h]

/-! ### Other words -/

/-- The words of commands that have one in letters in short, in full and in short. -/
def shortForms : List (String × String) :=
  [("step", "s"), ("next", "n"), ("return", "r"), ("continue", "c"), ("jump", "j"),
    ("break", "b"),
    ("breakpoints", "bl"), ("eval", "p"), ("where", "w"), ("interrupt", "i"), ("quit", "q"),
      ("help", "h")]

/-- Two words are for the same commands, and there is one. -/
def AreSynonyms (name name' : String) : Prop :=
  (∃ c, name ∈ names c) ∧ ∀ c, name ∈ names c ↔ name' ∈ names c

section

variable {name name' : String} {text text' cs w t : List Char} {c d : Command}

/-- A word and what comes after it lead a line, whatever the blanks before them and between
them. -/
lemma leads_append (hw : IsBlankRow w) (ht : name = "!" ∨ StartsNot Identifier.isContinue t) :
    Leads name (skipBlanks t) (w ++ (name.toList ++ t)) := by
  obtain ⟨w', hw', hsplit⟩ := exists_skipBlanks t
  have hleads : Leads name _ _ := .intro hw hw' (startsNot_skipBlanks t) (hsplit ▸ ht)
  rwa [← hsplit] at hleads

/-- What comes after a word is all that does. -/
lemma Leads.text_eq (h : Leads name text cs) (h' : Leads name text' cs) (hmem : name ∈ names c) :
    text = text' := by
  by_cases hname : name = "!"
  · subst hname
    have hmark := (mark_eq_some_iff.mpr h).symm.trans (mark_eq_some_iff.mpr h')
    exact (Prod.mk.inj (Option.some.inj hmark)).2
  · have hscan : ∀ n ∈ [name], Identifier.scan? n.toList = some (n.toList, []) :=
      List.forall_mem_singleton.mpr (scan?_of_mem_names hmem hname)
    have hword {t : List Char} (ht : Leads name t cs) : word [name] cs = some ((), t) :=
      (word_eq_some_iff_leads hscan).mpr ⟨name, List.mem_singleton_self name, ht⟩
    exact (Prod.mk.inj (Option.some.inj ((hword h).symm.trans (hword h')))).2

/-- A line that begins with a word spells the commands of that word that are about what comes
after it. -/
lemma Leads.isSpelling_iff (h : Leads name text cs) (hmem : name ∈ names d) :
    IsSpelling c cs ↔ name ∈ names c ∧ SpellsArguments c text := by
  constructor
  · rintro ⟨text', ⟨name', hmem', h'⟩, hspells⟩
    obtain rfl : name' = name :=
      Option.some.inj ((h'.opening?_eq hmem').symm.trans (h.opening?_eq hmem))
    rw [h.text_eq h' hmem]
    exact ⟨hmem', hspells⟩
  · rintro ⟨hc, hspells⟩
    exact ⟨text, ⟨name, hc, h⟩, hspells⟩

/-- Lines with synonyms and the same after them are the same command, or none. -/
lemma AreSynonyms.parse_eq {line line' : String} (hsyn : AreSynonyms name name')
    (h : Leads name text line.toList) (h' : Leads name' text line'.toList) :
    parse line = parse line' := by
  obtain ⟨d, hd⟩ := hsyn.1
  have hd' : name' ∈ names d := (hsyn.2 d).mp hd
  have hsame (c : Command) : parse line = .ok c ↔ parse line' = .ok c := by
    rw [parse_eq_ok_iff_isSpelling, parse_eq_ok_iff_isSpelling, h.isSpelling_iff hd,
      h'.isSpelling_iff hd', hsyn.2 c]
  by_cases hok : ∃ c, parse line = .ok c
  · obtain ⟨c, hc⟩ := hok
    rw [hc, (hsame c).mp hc]
  · have hnone (c : Command) : parse line ≠ .ok c := fun hc => hok ⟨c, hc⟩
    rw [parse_eq_malformed (h.isBlankText_eq hd) hnone,
      parse_eq_malformed (h'.isBlankText_eq hd') fun c hc => hnone c ((hsame c).mpr hc)]

end

/-- A short form and the word that it stands for are names of the same commands. -/
lemma areSynonyms_of_mem {p : String × String} (hp : p ∈ shortForms) : AreSynonyms p.1 p.2 := by
  have hall (c : Command) : ∀ p ∈ shortForms, p.1 ∈ names c ↔ p.2 ∈ names c := by
    cases c with
    | setBreakpoint at_ temporary cond => cases temporary <;> simp [shortForms, names]
    | _ => simp [shortForms, names]
  have hsome : ∀ p ∈ shortForms, ∃ c ∈ [.step, .next, .stepOut, .resume none, .jump 0,
      .setBreakpoint { file := "", line := 0 } false none, .breakpoints, .eval "", .callStack,
        .interrupt, .quit,
      .help], p.1 ∈ names c := by
    decide
  obtain ⟨c, -, hc⟩ := hsome p hp
  exact ⟨⟨c, hc⟩, fun c => hall c p hp⟩

/-- So are the mark and the word to execute a statement. -/
lemma areSynonyms_exec : AreSynonyms "!" "exec" := by
  refine ⟨⟨.exec "", by decide⟩, fun c => ?_⟩
  cases c with
  | setBreakpoint at_ temporary cond => cases temporary <;> simp [names]
  | _ => simp [names]

/-- At most one of the eighteen alternatives matches a line, and so every order of them reads the
same commands. A word in short stands for the word in full, and the mark for statements for their
word: what is read with the one is read with the other, and so is what is no command. -/
theorem order_and_wording_immaterial :
    (alternatives.length = 18 ∧ ∀ (line : String) (i j : Fin alternatives.length),
      (whole? alternatives[i] line.toList).isSome →
        (whole? alternatives[j] line.toList).isSome → i = j) ∧
    (∀ ps : List (Part Command), ps.Perm alternatives → ∀ line,
      parseTrying ps line = parse line) ∧
    (shortForms.length = 12 ∧ ∀ p ∈ shortForms, ∀ w t : String, isBlankText w →
      StartsNot Identifier.isContinue t.toList → parse (w ++ p.1 ++ t) = parse (w ++ p.2 ++ t)) ∧
    ∀ w t : String, isBlankText w → parse (w ++ "!" ++ t) = parse (w ++ "exec " ++ t) := by
  refine ⟨⟨rfl, fun line i j => eq_of_isSome_whole?⟩, fun ps => parseTrying_eq_parse,
    ⟨rfl, ?_⟩, ?_⟩
  · intro p hp w t hw ht
    have hleads (name : String) : Leads name (skipBlanks t.toList) (w ++ name ++ t).toList := by
      rw [String.toList_append, String.toList_append, List.append_assoc]
      exact leads_append (List.all_eq_true.mp hw) (.inr ht)
    exact (areSynonyms_of_mem hp).parse_eq (hleads p.1) (hleads p.2)
  · intro w t hw
    have hmark : Leads "!" (skipBlanks t.toList) (w ++ "!" ++ t).toList := by
      rw [String.toList_append, String.toList_append, List.append_assoc]
      exact leads_append (List.all_eq_true.mp hw) (.inl rfl)
    -- the space after the word ends it and is skipped
    have hword : Leads "exec" (skipBlanks t.toList) (w ++ "exec " ++ t).toList := by
      rw [String.toList_append, String.toList_append, List.append_assoc]
      exact leads_append (t := ' ' :: t.toList) (List.all_eq_true.mp hw)
        (.inr (startsNot_cons.mpr (by decide +kernel)))
    exact areSynonyms_exec.parse_eq hmark hword

/-- A breakpoint is set by one alternative only, in the other order too and by the word in short.
Neither word takes a line number alone. -/
theorem order_and_wording_immaterial_breaking :
    (∀ i : Fin alternatives.length,
      (whole? alternatives[i] "break a.py:3".toList).isSome → i.val = 5) ∧
      parseTrying alternatives.reverse "\tb a.py:3"
        = .ok (.setBreakpoint { file := "a.py", line := 3 } false none) ∧
      parse "\tbreak a.py:3" = .ok (.setBreakpoint { file := "a.py", line := 3 } false none) ∧
      parse "break :3" = .error .malformed ∧ parse " ! x" = .ok (.exec "x") := by
  obtain ⟨⟨-, honly⟩, horder, ⟨-, hshort⟩, hmark⟩ := order_and_wording_immaterial
  refine ⟨fun i hi => ?_, ?_, ?_, ?_, ?_⟩
  · exact congrArg Fin.val (honly "break a.py:3" i ⟨5, by decide⟩ hi (by decide +kernel))
  · rw [horder _ (List.reverse_perm alternatives)]
    decide +kernel
  · exact (hshort ("break", "b") (by decide) "\t" " a.py:3" (by decide)
      (by decide +kernel)).trans (by decide +kernel)
  · exact (hshort ("break", "b") (by decide) "" " :3" (by decide) (by decide +kernel)).trans
      (by decide +kernel)
  · exact (hmark " " " x" (by decide)).trans (by decide +kernel)

end RemoteDebugger.Command
