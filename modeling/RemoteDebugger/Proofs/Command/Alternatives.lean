import RemoteDebugger.Proofs.Command.Grammar

/-!
# The alternatives of the grammar

Every alternative begins with words of its own, so that no two of them match the same line. A
line is what any of them makes of it, whatever their order.
-/

namespace RemoteDebugger.Command

/-- What a line begins with: an identifier, or else a character of its own. -/
def opening? (cs : List Char) : Option String :=
  match Identifier.scan? (skipBlanks cs) with
  | some (name, _) => some (String.ofList name)
  | none           => (skipBlanks cs).head?.map String.singleton

/-- All that a part matches begins with one of some words. -/
def OpensWith {α : Type} (names : List String) (p : Part α) : Prop :=
  ∀ cs r, p cs = some r → ∃ name ∈ names, opening? cs = some name

section

variable {α β : Type} {names names' : List String} {p p' : Part α}

/-- A word is one of its names. -/
lemma opensWith_word (names : List String) : OpensWith names (word names) := by
  intro cs r h
  rw [word] at h
  obtain ⟨⟨name, tail⟩, hscan, hname⟩ := Option.bind_eq_some_iff.mp h
  dsimp only at hname
  split_ifs at hname with hmem
  exact ⟨String.ofList name, List.contains_iff_mem.mp hmem, by rw [opening?, hscan]⟩

/-- A mark that begins no identifier opens what it is read by. -/
lemma opensWith_mark {c : Char} (hc : Identifier.isStart c = false) :
    OpensWith [String.singleton c] (mark c) := by
  intro cs r h
  rw [mark] at h
  cases hskip : skipBlanks cs with
  | nil =>
    rw [hskip] at h
    cases h
  | cons d tail =>
    rw [hskip] at h
    dsimp only at h
    split_ifs at h with hd
    refine ⟨_, List.mem_singleton_self _, ?_⟩
    rw [opening?, hskip, hd, Identifier.scan?, if_neg (by rw [hc]; decide)]
    rfl

/-- What opens the first of two parts opens both. -/
lemma OpensWith.andThen (h : OpensWith names p) (q : Part β) :
    OpensWith names (andThen p q) := by
  intro cs r hr
  obtain ⟨a, mid, hp, -⟩ := andThen_eq_some_iff.mp hr
  exact h cs _ hp

lemma OpensWith.mapPart (h : OpensWith names p) (f : α → β) : OpensWith names (mapPart f p) := by
  intro cs r hr
  obtain ⟨a, hp, -⟩ := mapPart_eq_some_iff.mp hr
  exact h cs _ hp

/-- What opens one of two parts opens the choice between them. -/
lemma OpensWith.either (h : OpensWith names p) (h' : OpensWith names' p') :
    OpensWith (names ++ names') (either p p') := by
  intro cs r hr
  rcases either_eq_some_iff.mp hr with hp | ⟨-, hp⟩
  · obtain ⟨name, hmem, hopen⟩ := h cs r hp
    exact ⟨name, List.mem_append_left _ hmem, hopen⟩
  · obtain ⟨name, hmem, hopen⟩ := h' cs r hp
    exact ⟨name, List.mem_append_right _ hmem, hopen⟩

/-- Between parts that open with different words, the order does not matter. -/
lemma either_eq_some_iff_of_opensWith (h : OpensWith names p) (h' : OpensWith names' p')
    (hdisjoint : ∀ name ∈ names, name ∉ names') {cs : List Char} {r : α × List Char} :
    either p p' cs = some r ↔ p cs = some r ∨ p' cs = some r := by
  rw [either_eq_some_iff]
  refine or_congr_right (and_iff_right_of_imp fun hr => ?_)
  rw [Option.eq_none_iff_forall_ne_some]
  intro r' hr'
  obtain ⟨name, hmem, hopen⟩ := h cs r' hr'
  obtain ⟨name', hmem', hopen'⟩ := h' cs r hr
  have hsame : name = name' := Option.some.inj (hopen.symm.trans hopen')
  exact hdisjoint name hmem (hsame ▸ hmem')

end

lemma opensWith_simple (names : List String) (c : Command) : OpensWith names (simple names c) :=
  (opensWith_word names).mapPart _

lemma opensWith_breakpointAt (temporary : Bool) (names : List String) :
    OpensWith names (breakpointAt temporary names) := by
  intro cs r h
  rw [breakpointAt] at h
  obtain ⟨⟨p, mid⟩, hplace, -⟩ := Option.bind_eq_some_iff.mp h
  exact (opensWith_word names).andThen place cs _ hplace

/-- The words that the alternatives begin with. -/
def openings : List (List String) :=
  [["step", "s"], ["next", "n"], ["return", "r"], ["continue", "c"], ["jump", "j"],
    ["break", "b", "tbreak"], ["clear"],
    ["breakpoints", "bl"], ["eval", "p"], ["exec", "!"], ["where", "w"], ["env"],
      ["interrupt", "i"], ["attach"],
    ["detach"], ["state"], ["quit", "q"], ["help", "h"]]

/-- The alternatives, with the words that they begin with. -/
def opened : List (List String × Part Command) := openings.zip alternatives

/-- The table names the alternatives in their order, each with the words that open it. -/
lemma alternatives_eq : alternatives = opened.map Prod.snd := rfl

/-- Every alternative opens with the words of the table. -/
lemma opensWith_opened : ∀ e ∈ opened, OpensWith e.1 e.2 := by
  have hword := opensWith_word
  have hsimple := opensWith_simple
  have hbreak :=
    (opensWith_breakpointAt false ["break", "b"]).either (opensWith_breakpointAt true ["tbreak"])
  have hexec :=
    ((opensWith_word ["exec"]).either (opensWith_mark (c := '!') (by decide +kernel))).andThen
      remainder
  simp only [opened, openings, alternatives, List.zip_cons_cons, List.zip_nil_left,
    List.forall_mem_cons]
  exact ⟨hsimple _ _, hsimple _ _, hsimple _ _, ((hword _).andThen _).mapPart _,
    ((hword _).andThen _).mapPart _,
    hbreak, (hword _).andThen _, hsimple _ _, ((hword _).andThen _).mapPart _,
      hexec.mapPart _, hsimple _ _,
    hsimple _ _, hsimple _ _, hsimple _ _, hsimple _ _, hsimple _ _, hsimple _ _, hsimple _ _,
      List.forall_mem_nil _⟩

lemma opening?_of_isBlankRow {cs : List Char} (h : IsBlankRow cs) : opening? cs = none := by
  rw [opening?, skipBlanks_eq_nil_iff.mpr h]
  rfl

/-- No alternative matches a blank line. -/
lemma whole?_of_isBlankRow {cs : List Char} (h : IsBlankRow cs) {p : Part Command}
    (hp : p ∈ alternatives) :
    whole? p cs = none := by
  rw [alternatives_eq] at hp
  obtain ⟨e, he, rfl⟩ := List.mem_map.mp hp
  rw [Option.eq_none_iff_forall_ne_some]
  intro c hc
  obtain ⟨name, -, hopen⟩ := opensWith_opened e he cs _ (whole?_eq_some_iff.mp hc)
  rw [opening?_of_isBlankRow h] at hopen
  cases hopen

/-- Two parts that never match the same line. -/
def Excludes (p q : Part Command) : Prop :=
  ∀ cs c d, whole? p cs = some c → whole? q cs = some d → False

/-- No two alternatives match the same line. -/
lemma pairwise_alternatives : alternatives.Pairwise Excludes := by
  have hopenings : (opened.map Prod.fst).Pairwise fun names names' => ∀ name ∈ names,
      name ∉ names' := by
    decide
  rw [alternatives_eq, List.pairwise_map]
  refine (List.pairwise_map.mp hopenings).imp_of_mem fun {e e'} he he' hdisjoint => ?_
  intro cs c d hc hd
  obtain ⟨name, hmem, hopen⟩ := opensWith_opened e he cs _ (whole?_eq_some_iff.mp hc)
  obtain ⟨name', hmem', hopen'⟩ := opensWith_opened e' he' cs _ (whole?_eq_some_iff.mp hd)
  have hsame : name = name' := Option.some.inj (hopen.symm.trans hopen')
  exact hdisjoint name hmem (hsame ▸ hmem')

/-- Among parts that exclude each other, the first one that matches is the only one. -/
lemma findSome?_eq_some_iff {ps : List (Part Command)} (h : ps.Pairwise Excludes)
    {cs : List Char} {c : Command} :
    ps.findSome? (whole? · cs) = some c ↔ ∃ p ∈ ps, whole? p cs = some c := by
  constructor
  · exact List.exists_of_findSome?_eq_some
  · rintro ⟨p, hmem, hp⟩
    induction ps with
    | nil => cases hmem
    | cons q qs ih =>
      obtain ⟨hq, hqs⟩ := List.pairwise_cons.mp h
      rcases List.mem_cons.mp hmem with rfl | hmem
      · rw [List.findSome?_cons, hp]
      · have hnone : whole? q cs = none := by
          rw [Option.eq_none_iff_forall_ne_some]
          exact fun d hd => hq p hmem cs d c hd hp
        rw [List.findSome?_cons, hnone]
        exact ih hqs hmem

/-- What a line spells is what any of the alternatives makes of it. -/
lemma parse_eq_ok_iff {line : String} {c : Command} :
    parse line = .ok c ↔ ∃ p ∈ alternatives, whole? p line.toList = some c := by
  rw [← findSome?_eq_some_iff pairwise_alternatives, parse]
  split_ifs with hblank
  · have hrow : IsBlankRow line.toList := List.all_eq_true.mp hblank
    simp [List.findSome?_eq_none_iff.mpr fun p hp => whole?_of_isBlankRow hrow hp]
  · cases alternatives.findSome? (whole? · line.toList) <;> simp

/-- A line that no alternative matches is no command. -/
lemma parse_eq_malformed {line : String} (hblank : isBlankText line = false)
    (h : ∀ c, parse line ≠ .ok c) :
    parse line = .error .malformed := by
  rw [parse, hblank, if_neg Bool.false_ne_true] at h ⊢
  cases hfind : alternatives.findSome? (whole? · line.toList) with
  | none => rfl
  | some c =>
    rw [hfind] at h
    exact absurd rfl (h c)

end RemoteDebugger.Command
