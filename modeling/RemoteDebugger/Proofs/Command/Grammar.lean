import RemoteDebugger.Command.Parser
import RemoteDebugger.Proofs.Text.Scanning

/-!
# What the parts of the grammar read

Each part of the grammar reads exactly the texts that it describes: a word as a whole identifier,
a numeral without leading zeros, a file up to the first colon, and what is left of a line. Blanks
around them are skipped.
-/

namespace RemoteDebugger.Command

variable {cs rest : List Char}

/-! ### Combinations of parts -/

section

variable {α β : Type} {p p' : Part α}

/-- Two parts read a text exactly if the first one leaves what the second one reads. -/
lemma andThen_eq_some_iff {q : Part β} {r : β × List Char} :
    andThen p q cs = some r ↔ ∃ a mid, p cs = some (a, mid) ∧ q mid = some r := by
  rw [andThen]
  simp [Option.bind_eq_some_iff]

lemma mapPart_eq_some_iff {f : α → β} {b : β} :
    mapPart f p cs = some (b, rest) ↔ ∃ a, p cs = some (a, rest) ∧ f a = b := by
  rw [mapPart]
  simp [Option.map_eq_some_iff]

/-- The second of two parts has its turn only if the first one reads nothing. -/
lemma either_eq_some_iff {r : α × List Char} :
    either p p' cs = some r ↔ p cs = some r ∨ p cs = none ∧ p' cs = some r :=
  Option.or_eq_some_iff

/-- An optional part that reads nothing leaves the text alone. -/
lemma optional_eq_some_iff {o : Option α} : optional p cs = some (o, rest) ↔
    (∃ a, p cs = some (a, rest) ∧ o = some a) ∨ p cs = none ∧ o = none ∧ rest = cs := by
  rw [optional]
  cases h : p cs with
  | none => simp [eq_comm]
  | some r => obtain ⟨a, tail⟩ := r; simp [eq_comm, and_comm]

lemma whole?_eq_some_iff {a : α} : whole? p cs = some a ↔ p cs = some (a, []) := by
  rw [whole?]
  cases h : p cs with
  | none => simp
  | some r => obtain ⟨b, tail⟩ := r; cases tail <;> simp

end

/-! ### Words and numbers -/

/-- A word is read as a whole identifier. -/
lemma word_eq_some_iff {names : List String} : word names cs = some ((), rest) ↔
    ∃ name ∈ names, ∃ w tail, IsBlankRow w ∧ cs = w ++ (name.toList ++ tail) ∧
      Identifier.scan? name.toList = some (name.toList, []) ∧
        StartsNot Identifier.isContinue tail ∧
      rest = skipBlanks tail := by
  rw [word]
  constructor
  · -- what is read is an identifier, and one of the names
    intro h
    obtain ⟨⟨name, tail⟩, hscan, hname⟩ := Option.bind_eq_some_iff.mp h
    dsimp only at hname
    split_ifs at hname with hmem
    obtain ⟨hcs, hself, htail⟩ := Identifier.scan?_eq_some_iff.mp hscan
    obtain ⟨w, hw, heq⟩ := exists_skipBlanks cs
    refine ⟨String.ofList name, List.contains_iff_mem.mp hmem, w, tail, hw, ?_, ?_, htail, ?_⟩
    · rw [String.toList_ofList, ← hcs]
      exact heq
    · rwa [String.toList_ofList]
    · exact (Prod.mk.inj (Option.some.inj hname)).2.symm
  · -- a name that ends where an identifier does is scanned as a whole
    rintro ⟨name, hmem, w, tail, hw, rfl, hself, htail, rfl⟩
    have hskip : skipBlanks (w ++ (name.toList ++ tail)) = name.toList ++ tail := by
      rw [skipBlanks_append hw,
        skipBlanks_of_startsNot (Identifier.startsNot_isBlank hself tail)]
    have hscan : Identifier.scan? (name.toList ++ tail) = some (name.toList, tail) :=
      Identifier.scan?_eq_some_iff.mpr ⟨rfl, hself, htail⟩
    rw [hskip, hscan]
    simp [hmem]

/-- A line number is read if it has no leading zeros and is not too large. -/
lemma lineNumber_eq_some_iff {n : Nat} : lineNumber cs = some (n, rest) ↔
    ∃ w tail, IsBlankRow w ∧ cs = w ++ (Numeral.write n ++ tail) ∧ n ≤ Numeral.max32 ∧
      (n = 0 ∨ StartsNot Char.isDigit tail) ∧ rest = skipBlanks tail := by
  rw [lineNumber]
  constructor
  · intro h
    obtain ⟨⟨ds, tail⟩, hscan, hrest⟩ := Option.bind_eq_some_iff.mp h
    obtain ⟨m, hread, heq⟩ := Option.bind_eq_some_iff.mp hrest
    obtain ⟨hcs, k, rfl, hk⟩ := Numeral.scan?_eq_some_iff.mp hscan
    obtain ⟨w, hw, hsplit⟩ := exists_skipBlanks cs
    rw [Numeral.read?_write] at hread
    split_ifs at hread with hle
    cases hread
    cases heq
    exact ⟨w, tail, hw, hcs ▸ hsplit, hle, hk, rfl⟩
  · rintro ⟨w, tail, hw, rfl, hn, htail, rfl⟩
    have hscan : Numeral.scan? (Numeral.write n ++ tail) = some (Numeral.write n, tail) :=
      Numeral.scan?_eq_some_iff.mpr ⟨rfl, n, rfl, htail⟩
    rw [skipBlanks_append hw, skipBlanks_of_startsNot (Numeral.startsNot_write n tail), hscan]
    simp [Numeral.read?_write, hn]

/-! ### Places -/

/-- A text begins with a place, and `tail` follows: a file, which is everything up to the first
colon, and a line number, which goes on as far as it can. -/
inductive SpellsPlace : Place → List Char → List Char → Prop
  | intro {file w tail : List Char} {n : Nat} (hne : file ≠ []) (hcolon : ':' ∉ file)
      (hfirst : StartsNot isBlank file) (hw : IsBlankRow w) (hn : n ≤ Numeral.max32)
      (htail : n = 0 ∨ StartsNot Char.isDigit tail) :
      SpellsPlace { file := String.ofList (trimBlanks file), line := n }
        (file ++ ':' :: (w ++ (Numeral.write n ++ tail))) tail

lemma not_spellsPlace_nil (p : Place) (tail : List Char) : ¬ SpellsPlace p [] tail := by
  generalize hcs : [] = cs
  rintro ⟨hne, -, -, -, -, -⟩
  simp at hcs

/-- A file may have blanks around it. -/
lemma spellsPlace_of_isBare {file : String} (hbare : IsBare file.toList)
    (hcolon : ':' ∉ file.toList) {w w' tail : List Char} (hw : IsBlankRow w)
    (hw' : IsBlankRow w') {n : Nat} (hn : n ≤ Numeral.max32)
    (htail : StartsNot Char.isDigit tail) :
    SpellsPlace { file, line := n }
      (file.toList ++ (w ++ ':' :: (w' ++ (Numeral.write n ++ tail)))) tail := by
  have hcolon' : ':' ∉ file.toList ++ w := by
    rw [List.mem_append, not_or]
    exact ⟨hcolon, fun hmem => absurd (hw _ hmem) (by decide)⟩
  have hspells := SpellsPlace.intro (List.append_ne_nil_of_left_ne_nil hbare.ne_nil w) hcolon'
    (hbare.first.append hbare.ne_nil w) hw' hn (.inr htail)
  rwa [hbare.trim_append_right hw, String.ofList_toList, List.append_assoc] at hspells

/-- What follows the colon decides on a place. -/
lemma place_append {file : List Char} (hne : file ≠ []) (hcolon : ':' ∉ file)
    (hfirst : StartsNot isBlank file) (tail : List Char) : place (file ++ ':' :: tail)
      = (lineNumber tail).map fun r =>
        ({ file := String.ofList (trimBlanks file), line := r.1 }, r.2) := by
  have hrow : ∀ c ∈ file, (c != ':') = true :=
    fun c hc => bne_iff_ne.mpr fun h => hcolon (h ▸ hc)
  have hstop : StartsNot (· != ':') (':' :: tail) := by simp
  obtain ⟨c, ds, rfl⟩ := List.exists_cons_of_ne_nil hne
  rw [place]
  dsimp only
  rw [skipBlanks_of_startsNot (hfirst.append hne _), takeWhile_row hrow hstop,
    dropWhile_row hrow hstop, Option.map_eq_bind]
  rfl

/-- Without a file and a colon there is no place. -/
lemma exists_of_place (hcs : StartsNot isBlank cs) {r : Place × List Char}
    (h : place cs = some r) :
    ∃ file tail, cs = file ++ ':' :: tail ∧ file ≠ [] ∧ ':' ∉ file ∧ StartsNot isBlank file := by
  have hsplit : cs = cs.takeWhile (· != ':') ++ cs.dropWhile (· != ':') :=
    List.takeWhile_append_dropWhile.symm
  have hcolon : ':' ∉ cs.takeWhile (· != ':') := by
    intro hmem
    simpa using List.mem_takeWhile_imp hmem
  have hstop := startsNot_dropWhile (· != ':') cs
  rw [place] at h
  dsimp only at h
  rw [skipBlanks_of_startsNot hcs] at h
  generalize cs.takeWhile (· != ':') = file at h hsplit hcolon
  generalize cs.dropWhile (· != ':') = tail at h hsplit hstop
  cases file with
  | nil => cases h
  | cons c ds =>
    cases tail with
    | nil => cases h
    | cons d tail =>
      have hd : d = ':' := by simpa using hstop
      rw [hd] at hsplit
      exact ⟨c :: ds, tail, hsplit, List.cons_ne_nil c ds, hcolon, (hsplit ▸ hcs).of_append⟩

/-- A place is read exactly where one is spelled, with the blanks after it. -/
lemma place_eq_some_iff (hcs : StartsNot isBlank cs) {p : Place} :
    place cs = some (p, rest) ↔ ∃ tail, SpellsPlace p cs tail ∧ rest = skipBlanks tail := by
  constructor
  · intro h
    obtain ⟨file, tail, rfl, hne, hcolon, hfirst⟩ := exists_of_place hcs h
    rw [place_append hne hcolon hfirst] at h
    obtain ⟨⟨n, rest⟩, hnumber, heq⟩ := Option.map_eq_some_iff.mp h
    obtain ⟨w, tail, hw, rfl, hn, htail, rfl⟩ := lineNumber_eq_some_iff.mp hnumber
    cases heq
    exact ⟨tail, ⟨hne, hcolon, hfirst, hw, hn, htail⟩, rfl⟩
  · rintro ⟨tail, ⟨hne, hcolon, hfirst, hw, hn, htail⟩, rfl⟩
    rw [place_append hne hcolon hfirst,
      lineNumber_eq_some_iff.mpr ⟨_, tail, hw, rfl, hn, htail, rfl⟩]
    rfl

/-- No place is read exactly where none is spelled. -/
lemma place_eq_none_iff (hcs : StartsNot isBlank cs) :
    place cs = none ↔ ∀ p tail, ¬ SpellsPlace p cs tail := by
  rw [Option.eq_none_iff_forall_ne_some]
  constructor
  · intro h p tail hp
    exact h _ ((place_eq_some_iff hcs).mpr ⟨tail, hp, rfl⟩)
  · rintro h ⟨p, rest⟩ hp
    obtain ⟨tail, hspells, -⟩ := (place_eq_some_iff hcs).mp hp
    exact h p tail hspells

/-! ### What is left of a line -/

/-- The remainder of a text is all of it but the blanks at its ends. -/
lemma remainder_eq_some_iff {text : String} :
    remainder cs = some (text, rest) ↔ cs ≠ [] ∧ text = String.ofList (trimBlanks cs) ∧
      rest = [] := by
  rw [remainder]
  cases cs <;> simp [eq_comm]

lemma scan?_if : Identifier.scan? "if".toList = some ("if".toList, []) := by decide +kernel

/-- A condition is what follows `if`, as a whole identifier, to the end of the line, and there is
something. -/
lemma condition_eq_some_iff (hcs : StartsNot isBlank cs) {text : String} :
    condition cs = some (text, rest) ↔
    ∃ T, cs = "if".toList ++ T ∧ StartsNot Identifier.isContinue T ∧ ¬ IsBlankRow T ∧
      text = String.ofList (trimBlanks T) ∧ rest = [] := by
  rw [condition, andThen_eq_some_iff]
  constructor
  · rintro ⟨⟨⟩, mid, hword, hrest⟩
    obtain ⟨name, hname, w, T, hw, rfl, -, hT, rfl⟩ := word_eq_some_iff.mp hword
    obtain ⟨hne, rfl, rfl⟩ := remainder_eq_some_iff.mp hrest
    cases List.mem_singleton.mp hname
    rw [hw.eq_nil hcs, trimBlanks_skipBlanks]
    exact ⟨T, rfl, hT, fun h => hne (skipBlanks_eq_nil_iff.mpr h), rfl, rfl⟩
  · rintro ⟨T, rfl, hT, hne, rfl, rfl⟩
    have hword : word ["if"] ("if".toList ++ T) = some ((), skipBlanks T) := word_eq_some_iff.mpr
      ⟨"if", List.mem_singleton_self _, [], T, isBlankRow_nil, rfl, scan?_if, hT, rfl⟩
    refine ⟨(), skipBlanks T, hword, remainder_eq_some_iff.mpr ⟨?_, ?_, rfl⟩⟩
    · exact fun h => hne (skipBlanks_eq_nil_iff.mp h)
    · rw [trimBlanks_skipBlanks]

/-- The condition of a breakpoint, if it has one, and a text for it. -/
inductive SpellsCondition : Option String → List Char → Prop
  | without : SpellsCondition none []
  | given {T : List Char} (hT : StartsNot Identifier.isContinue T) (hne : ¬ IsBlankRow T) :
      SpellsCondition (some (String.ofList (trimBlanks T))) ("if".toList ++ T)

/-- A condition may have blanks around it, and must have some before it. -/
lemma spellsCondition_of_isBare {text : String} (hbare : IsBare text.toList) {w w' : List Char}
    (hw : IsBlankRow w) (hne : w ≠ []) (hw' : IsBlankRow w') :
    SpellsCondition (some text) ("if".toList ++ (w ++ (text.toList ++ w'))) := by
  have hT : StartsNot Identifier.isContinue (w ++ (text.toList ++ w')) :=
    (hw.startsNot Identifier.isContinue_of_isBlank).append hne _
  have hblank : ¬ IsBlankRow (w ++ (text.toList ++ w')) := fun hrow =>
    not_isBlankRow_of_startsNot hbare.first hbare.ne_nil
      (List.forall_mem_append.mp (List.forall_mem_append.mp hrow).2).1
  have hspells := SpellsCondition.given hT hblank
  rwa [hbare.trim_append hw hw', String.ofList_toList] at hspells

lemma SpellsCondition.startsNot {cond : Option String} (h : SpellsCondition cond cs) :
    StartsNot isBlank cs := by
  cases h with
  | without => exact startsNot_nil
  | given hT hne => exact Identifier.startsNot_isBlank scan?_if _

/-- Before a condition blanks are skipped. -/
lemma SpellsCondition.skipBlanks_append {cond : Option String} (h : SpellsCondition cond cs)
    {w : List Char} (hw : IsBlankRow w) : skipBlanks (w ++ cs) = cs := by
  rw [RemoteDebugger.skipBlanks_append hw, skipBlanks_of_startsNot h.startsNot]

/-- A condition does not go on with a line number. -/
lemma SpellsCondition.startsNot_isDigit {cond : Option String} (h : SpellsCondition cond cs)
    {w : List Char} (hw : IsBlankRow w) : StartsNot Char.isDigit (w ++ cs) := by
  refine (hw.startsNot Numeral.isDigit_of_isBlank).append_startsNot ?_
  cases h with
  | without => exact startsNot_nil
  | given hT hne => exact startsNot_cons.mpr (by decide)

/-- A condition, or none, is read exactly where it is spelled. -/
lemma optional_condition_eq_some_iff (hcs : StartsNot isBlank cs) {cond : Option String} :
    optional condition cs = some (cond, []) ↔ SpellsCondition cond cs := by
  rw [optional_eq_some_iff]
  constructor
  · rintro (⟨text, hcond, rfl⟩ | ⟨-, rfl, rfl⟩)
    · obtain ⟨T, rfl, hT, hne, rfl, -⟩ := (condition_eq_some_iff hcs).mp hcond
      exact .given hT hne
    · exact .without
  · rintro (_ | ⟨hT, hne⟩)
    · exact .inr ⟨rfl, rfl, rfl⟩
    · exact .inl ⟨_, (condition_eq_some_iff hcs).mpr ⟨_, rfl, hT, hne, rfl, rfl⟩, rfl⟩

end RemoteDebugger.Command
