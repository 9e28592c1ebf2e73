import RemoteDebugger.Proofs.Command.Language

/-!
# Lines that set breakpoints

Which lines set a breakpoint, and where, and what is made of the other lines that begin in the
same way: nothing of a line is left out, and so those are no commands.
-/

namespace RemoteDebugger.Command

/-- A line begins with a word for breakpoints, a file and a colon, and `rest` is what comes
after. -/
inductive Announces (temporary : Bool) (F rest : List Char) : List Char → Prop
  | intro {w v : List Char} {K : String} (hw : IsBlankRow w)
      (hK : K ∈ if temporary then ["tbreak"] else ["break", "b"]) (hv : IsBlankRow v)
      (hne : F ≠ []) (hcolon : ':' ∉ F) (hfirst : StartsNot isBlank F)
      (hstop : v = [] → StartsNot Identifier.isContinue F) :
      Announces temporary F rest (w ++ (K.toList ++ (v ++ (F ++ ':' :: rest))))

/-- After the colon there is a line number, and after that a condition or nothing. -/
inductive SpellsRest (n : Nat) (cond : Option String) : List Char → Prop
  | intro {w v C : List Char} (hw : IsBlankRow w) (hn : n < 2 ^ 32) (hv : IsBlankRow v)
      (hC : SpellsCondition cond C) :
      SpellsRest n cond (w ++ (Numeral.write n ++ (v ++ C)))

/-- What begins like a line number and a condition, and is neither. -/
inductive Misspells : List Char → Prop
  /-- There is no condition after `if`. -/
  | noCondition {w v u : List Char} {n : Nat} (hw : IsBlankRow w) (hv : IsBlankRow v)
      (hu : IsBlankRow u) :
      Misspells (w ++ (Numeral.write n ++ (v ++ ("if".toList ++ u))))
  | tooLarge {w t : List Char} {n : Nat} (hw : IsBlankRow w) (hn : 2 ^ 32 ≤ n)
      (ht : StartsNot Char.isDigit t) :
      Misspells (w ++ (Numeral.write n ++ t))
  | leadingZero {w t : List Char} {d : Char} (hw : IsBlankRow w) (hd : d.isDigit) :
      Misspells (w ++ ('0' :: d :: t))
  /-- What comes after the place is no condition. -/
  | noise {w v X : List Char} {n : Nat} (hw : IsBlankRow w) (hv : IsBlankRow v)
      (hfirst : StartsNot isBlank X) (hstop : v = [] → StartsNot Char.isDigit X)
      (hX : ∀ cond, ¬ SpellsCondition cond X) :
      Misspells (w ++ (Numeral.write n ++ (v ++ X)))

section

variable {cs rest F : List Char} {n : Nat} {cond : Option String} {temporary : Bool} {p : Place}
    {c : Command}

lemma lt_iff_le_max32 : n < 2 ^ 32 ↔ n ≤ Numeral.max32 := Nat.lt_succ_iff

/-! ### After the colon -/

/-- What follows the colon spells a line and a condition exactly if it is read as them. -/
lemma spellsRest_iff : SpellsRest n cond rest ↔
    ∃ mid, lineNumber rest = some (n, mid) ∧ optional condition mid = some (cond, []) := by
  constructor
  · rintro @⟨w, v, C, hw, hn, hv, hC⟩
    refine ⟨C, ?_, (optional_condition_eq_some_iff hC.startsNot).mpr hC⟩
    exact lineNumber_eq_some_iff.mpr ⟨w, v ++ C, hw, rfl, lt_iff_le_max32.mp hn,
      .inr (hC.startsNot_isDigit hv),
      (hC.skipBlanks_append hv).symm⟩
  · rintro ⟨mid, hnumber, hcond⟩
    obtain ⟨w, tail, hw, rfl, hn, -, rfl⟩ := lineNumber_eq_some_iff.mp hnumber
    obtain ⟨v, hv, htail⟩ := exists_skipBlanks tail
    have hC := (optional_condition_eq_some_iff (startsNot_skipBlanks tail)).mp hcond
    rw [htail]
    exact ⟨hw, lt_iff_le_max32.mpr hn, hv, hC⟩

/-- A numeral is scanned as it was written, whatever blanks stand before it. -/
lemma scan?_skipBlanks {w tail : List Char} (hw : IsBlankRow w)
    (htail : StartsNot Char.isDigit tail) (n : Nat) :
    Numeral.scan? (skipBlanks (w ++ (Numeral.write n ++ tail)))
      = some (Numeral.write n, tail) := by
  rw [skipBlanks_append hw, skipBlanks_of_startsNot (Numeral.startsNot_write n tail)]
  exact Numeral.scan?_write_append n htail

/-- The first numeral is the line number, and what comes after it is the condition. -/
lemma SpellsRest.of_scan? (h : SpellsRest n cond rest) {ds tail : List Char}
    (hscan : Numeral.scan? (skipBlanks rest) = some (ds, tail)) :
    ds = Numeral.write n ∧ n < 2 ^ 32 ∧ StartsNot Char.isDigit tail ∧
      SpellsCondition cond (skipBlanks tail) := by
  cases h with
  | @intro w v C hw hn hv hC =>
    rw [scan?_skipBlanks hw (hC.startsNot_isDigit hv) n] at hscan
    cases hscan
    refine ⟨rfl, hn, hC.startsNot_isDigit hv, ?_⟩
    rwa [hC.skipBlanks_append hv]

/-- The word for a condition alone is no condition. -/
lemma not_spellsCondition_if {w : List Char} (hw : IsBlankRow w) (cond : Option String) :
    ¬ SpellsCondition cond ("if".toList ++ w) := by
  generalize hcs : "if".toList ++ w = cs
  rintro (_ | ⟨hT, hne⟩)
  · cases hcs
  · rw [List.append_cancel_left hcs] at hw
    exact hne hw

/-- None of the four ways to go wrong spells a line and a condition. -/
lemma Misspells.not_spellsRest (h : Misspells rest) : ¬ SpellsRest n cond rest := by
  -- after a number, blanks and something that spells no condition nothing is spelled
  have hnoise {w v X : List Char} {m : Nat} (hw : IsBlankRow w) (hv : IsBlankRow v)
      (hfirst : StartsNot isBlank X) (hstop : StartsNot Char.isDigit (v ++ X))
      (hX : ¬ SpellsCondition cond X) :
      ¬ SpellsRest n cond (w ++ (Numeral.write m ++ (v ++ X))) := by
    intro hrest
    obtain ⟨-, -, -, hcond⟩ := hrest.of_scan? (scan?_skipBlanks hw hstop m)
    rw [skipBlanks_append hv, skipBlanks_of_startsNot hfirst] at hcond
    exact hX hcond
  cases h with
  | noCondition hw hv hu =>
    have hif : StartsNot Char.isDigit "if".toList := by decide
    exact hnoise hw hv (Identifier.startsNot_isBlank scan?_if _)
      ((hv.startsNot Numeral.isDigit_of_isBlank).append_startsNot (hif.append (by decide) _))
      (not_spellsCondition_if hu cond)
  | tooLarge hw hm htail =>
    intro hrest
    obtain ⟨hwrite, hn, -, -⟩ := hrest.of_scan? (scan?_skipBlanks hw htail _)
    have hvalue := congrArg Numeral.value hwrite
    rw [Numeral.value_write, Numeral.value_write] at hvalue
    omega
  | @leadingZero w tail d hw hd =>
    intro hrest
    have hzero : StartsNot isBlank ('0' :: d :: tail) := startsNot_cons.mpr (by decide)
    have hscan : Numeral.scan? (skipBlanks (w ++ '0' :: d :: tail))
        = some (['0'], d :: tail) := by
      rw [skipBlanks_append hw, skipBlanks_of_startsNot hzero]
      rfl
    -- the numeral ends after its zero, so what follows is no digit
    obtain ⟨-, -, htail, -⟩ := hrest.of_scan? hscan
    rw [startsNot_cons.mp htail] at hd
    cases hd
  | noise hw hv hfirst hstop hX =>
    exact hnoise hw hv hfirst (hv.startsNot_append Numeral.isDigit_of_isBlank hstop) (hX cond)

/-! ### The whole line -/

/-- What announces a breakpoint leads to its place. -/
lemma Announces.leads (h : Announces temporary F rest cs) (p : Place) (cond : Option String) :
    ∃ K ∈ names (.setBreakpoint p temporary cond), Leads K (F ++ ':' :: rest) cs := by
  cases h with
  | @intro w v K hw hK hv hne hcolon hfirst hstop =>
    have hidentifier := hv.startsNot_append Identifier.isContinue_of_isBlank fun h =>
      (hstop h).append hne (':' :: rest)
    exact ⟨K, mem_names_setBreakpoint.mpr hK,
      .intro hw hv (hfirst.append hne _) (.inr hidentifier)⟩

/-- The place after the word is the file without blanks and the number after the colon. -/
lemma Announces.place_eq (h : Announces temporary F rest cs) : place (F ++ ':' :: rest)
    = (lineNumber rest).map fun r =>
      ({ file := String.ofList (trimBlanks F), line := r.1 }, r.2) := by
  cases h with
  | intro _ _ _ hne hcolon hfirst _ => exact place_append hne hcolon hfirst rest

/-- Once a breakpoint is announced, only what follows the colon decides about it. -/
lemma Announces.isSpelling_iff (h : Announces temporary F rest cs) :
    IsSpelling (.setBreakpoint p temporary cond) cs ↔
      p.file = String.ofList (trimBlanks F) ∧ SpellsRest p.line cond rest := by
  have hmark : "!" ∉ names (.setBreakpoint p temporary cond) := mark_not_mem_names nofun
  have hword := (word_names_eq_some_iff hmark).mpr (h.leads p cond)
  rw [← reader_eq_some_iff, breakpoint_eq_some_iff, spellsRest_iff, hword]
  constructor
  · rintro ⟨text, heq, mid, hplace, hcond⟩
    cases heq
    rw [h.place_eq] at hplace
    obtain ⟨⟨n, mid⟩, hnumber, heq⟩ := Option.map_eq_some_iff.mp hplace
    cases heq
    exact ⟨rfl, mid, hnumber, hcond⟩
  · rintro ⟨hfile, mid, hnumber, hcond⟩
    refine ⟨_, rfl, mid, ?_, hcond⟩
    rw [h.place_eq, hnumber, ← hfile]
    rfl

/-- A command to break has announced a file, whose name is kept without blanks. -/
lemma exists_announces (h : IsSpelling (.setBreakpoint p temporary cond) cs) :
    ∃ F rest, Announces temporary F rest cs ∧ p.file = String.ofList (trimBlanks F) ∧
      SpellsRest p.line cond rest := by
  obtain ⟨text, ⟨K, hK, hleads⟩, hspells⟩ := h
  have hmark : K ≠ "!" := ne_of_mem_of_not_mem hK (mark_not_mem_names nofun)
  cases hspells with
  | plain hc => cases hc
  | setBreakpoint hp hu hC =>
    cases hp with
    | @intro F _ _ _ hne hcolon hfirst ht hn htail =>
      cases hleads with
      | intro hw hv htext hstop =>
        refine ⟨F, _, .intro hw (mem_names_setBreakpoint.mp hK) hv hne hcolon hfirst ?_, rfl,
          ht, lt_iff_le_max32.mpr hn, hu, hC⟩
        rintro rfl
        have hidentifier := hstop.resolve_left hmark
        rw [List.nil_append] at hidentifier
        exact hidentifier.of_append

/-- The words for breakpoints are no words for other commands. -/
lemma exists_eq_of_mem_names {K : String}
    (hK : K ∈ if temporary then ["tbreak"] else ["break", "b"]) (hc : K ∈ names c) :
    ∃ p cond, c = .setBreakpoint p temporary cond := by
  have hall : ∀ K ∈ if temporary then ["tbreak"] else ["break", "b"],
      K ∈ names c → ∃ p cond, c = .setBreakpoint p temporary cond := by
    cases c with
    | setBreakpoint p temporary' cond => cases temporary <;> cases temporary' <;> simp [names]
    | _ => cases temporary <;> simp [names]
  exact hall K hK hc

/-- A line that announces a breakpoint spells nothing else. -/
lemma Announces.exists_eq (h : Announces temporary F rest cs) (hc : IsSpelling c cs) :
    ∃ n cond, c = .setBreakpoint { file := String.ofList (trimBlanks F), line := n }
      temporary cond ∧
      SpellsRest n cond rest := by
  obtain ⟨K, hK, hleads⟩ := h.leads { file := "", line := 0 } none
  have ⟨text, ⟨name, hname, hleads'⟩, _⟩ := hc
  have hsame : name = K :=
    Option.some.inj ((hleads'.opening?_eq hname).symm.trans (hleads.opening?_eq hK))
  obtain ⟨p, cond, rfl⟩ := exists_eq_of_mem_names (mem_names_setBreakpoint.mp hK) (hsame ▸ hname)
  obtain ⟨hfile, hrest⟩ := h.isSpelling_iff.mp hc
  exact ⟨p.line, cond, by rw [← hfile], hrest⟩

/-- A line that announces a breakpoint is no other command, so it is malformed if the rest spells
nothing. -/
lemma Announces.malformed {line : String} (h : Announces temporary F rest line.toList)
    (hrest : ∀ n cond, ¬ SpellsRest n cond rest) : parse line = .error .malformed := by
  refine parse_eq_malformed ?_ fun c hc => ?_
  · obtain ⟨K, hK, hleads⟩ := h.leads { file := "", line := 0 } none
    exact hleads.isBlankText_eq hK
  · obtain ⟨n, cond, -, hspells⟩ := h.exists_eq (parse_eq_ok_iff_isSpelling.mp hc)
    exact hrest n cond hspells

end

/-- A line sets a breakpoint if and only if it is spelled like one, and a line that begins like
one and goes on otherwise is no command: without a condition after `if`, with a line number that
is too large or has a leading zero, and with anything else after the place. -/
theorem breakpoint_language :
    (∀ line file n temporary cond, parse line
      = .ok (.setBreakpoint { file, line := n } temporary cond) ↔
      ∃ F rest, Announces temporary F rest line.toList ∧ file = String.ofList (trimBlanks F) ∧
        SpellsRest n cond rest) ∧
    (∀ line temporary F rest, Announces temporary F rest line.toList →
      (∀ n cond, ¬ SpellsRest n cond rest) →
      parse line = .error .malformed) ∧
    ∀ line temporary F rest, Announces temporary F rest line.toList → Misspells rest →
      parse line = .error .malformed := by
  refine ⟨fun line file n temporary cond => ?_, fun line temporary F rest => Announces.malformed,
    fun line temporary F rest h hrest => h.malformed fun n cond => hrest.not_spellsRest⟩
  rw [parse_eq_ok_iff_isSpelling]
  constructor
  · exact exists_announces
  · rintro ⟨F, rest, h, rfl, hrest⟩
    exact h.isSpelling_iff.mpr ⟨rfl, hrest⟩

/-- Blanks around everything, and the four ways to go wrong. -/
theorem breakpoint_language_read_and_refused :
    parse "\tb a.py : 7if x "
      = .ok (.setBreakpoint { file := "a.py", line := 7 } false (some "x")) ∧
      parse "tbreak a.py:7 if " = .error .malformed ∧
        parse "break a.py:4294967296" = .error .malformed ∧
      parse "break a.py:07" = .error .malformed ∧
        parse "break a.py:7 8" = .error .malformed := by
  obtain ⟨hiff, -, hrefused⟩ := breakpoint_language
  have hb : Announces false "a.py ".toList " 7if x ".toList "\tb a.py : 7if x ".toList :=
    .intro (w := ['\t']) (v := [' ']) (K := "b") (by decide) (by decide) (by decide)
      (by decide) (by decide)
      (by decide) (by decide)
  have hbreak (rest : List Char) : Announces false "a.py".toList rest
      ("break a.py:".toList ++ rest) :=
    .intro (w := []) (v := [' ']) (K := "break") (by decide) (by decide) (by decide)
      (by decide) (by decide)
      (by decide) (by decide)
  have htbreak : Announces true "a.py".toList "7 if ".toList "tbreak a.py:7 if ".toList :=
    .intro (w := []) (v := [' ']) (K := "tbreak") (by decide) (by decide) (by decide)
      (by decide) (by decide)
      (by decide) (by decide)
  have hrest : SpellsRest 7 (some "x") " 7if x ".toList :=
    .intro (w := [' ']) (v := []) (by decide) (by decide) (by decide)
      (.given (T := " x ".toList) (by decide +kernel) (by decide))
  refine ⟨(hiff _ _ _ _ _).mpr ⟨_, _, hb, by decide, hrest⟩, hrefused _ _ _ _ htbreak ?_,
    hrefused _ _ _ _ (hbreak "4294967296".toList) ?_, hrefused _ _ _ _ (hbreak "07".toList) ?_,
    hrefused _ _ _ _ (hbreak "7 8".toList) ?_⟩
  · exact .noCondition (w := []) (v := [' ']) (u := [' ']) (n := 7) (by decide)
      (by decide) (by decide)
  · exact .tooLarge (w := []) (t := []) (n := 4294967296) (by decide) (by decide) (by decide)
  · exact .leadingZero (w := []) (t := []) (by decide) (by decide)
  · exact .noise (w := []) (v := [' ']) (X := ['8']) (n := 7) (by decide) (by decide)
      (by decide) (by decide)
      fun cond h => absurd (h.startsNot_isDigit isBlankRow_nil) (by decide)

end RemoteDebugger.Command
