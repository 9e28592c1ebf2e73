import RemoteDebugger.Json.Printer
import RemoteDebugger.Proofs.Json.Number

/-!
# Tokens read and written

The text of a value is read as the tokens of the value. A word has no mark at its end, so what is
known of a text that ends in a word is only that the reader has the right tokens once the word
ends: `Spelt`. A text after which the reader stands between tokens is `Closed`.
-/

namespace RemoteDebugger.Json

/-! ### Characters of strings -/

/-- The digit that is written for a number is read as the number. -/
lemma hexValue?_hexDigit (n : Nat) : hexValue? (hexDigit n) = some (n % 16) := by
  have h : ∀ m < 16, hexValue? (Nat.digitChar m) = some m := by decide
  exact h (n % 16) (Nat.mod_lt n (by decide))

/-- A digit within a code unit adds to its value. -/
lemma step?_unit (tokens : List Token) (cs : List Char) (high : Option Nat)
    (left value n : Nat) :
    Lexer.step? ⟨tokens, .unit cs high (left + 2) value⟩ (hexDigit n)
      = some ⟨tokens, .unit cs high (left + 1) (16 * value + n % 16)⟩ := by
  simp only [Lexer.step?, hexValue?_hexDigit, Option.bind_eq_bind, Option.bind_some]
  rw [if_neg (by omega)]
  rfl

/-- The last digit of a code unit ends it. -/
lemma step?_unit_last (tokens : List Token) (cs : List Char) (high : Option Nat)
    (value n : Nat) :
    Lexer.step? ⟨tokens, .unit cs high 1 value⟩ (hexDigit n)
      = (Mode.ofUnit? cs high (16 * value + n % 16)).map (⟨tokens, ·⟩) := by
  simp only [Lexer.step?, hexValue?_hexDigit, Option.bind_eq_bind, Option.bind_some]
  cases Mode.ofUnit? cs high (16 * value + n % 16) <;> rfl

/-- An escaped character is read as the character. -/
lemma foldlM_escape (tokens : List Token) (cs : List Char) (c : Char) :
    (escape c).foldlM Lexer.step? ⟨tokens, .text cs⟩ = some ⟨tokens, .text (c :: cs)⟩ := by
  simp only [escape]
  split_ifs with hquote hslash hb ht hn hf hr hcontrol
  all_goals try subst c
  all_goals try rfl
  · -- a code unit, whose value is below that of any half of a character
    have hlow : 16 * (c.toNat / 16 % 16) + c.toNat % 16 = c.toNat := by omega
    have hunit : Mode.ofUnit? cs none c.toNat = some (.text (c :: cs)) := by
      rw [Mode.ofUnit?, if_neg (by omega), if_neg (by omega), Char.ofNat_toNat]
    have hescape : Lexer.step? ⟨tokens, .text cs⟩ '\\' = some ⟨tokens, .escaped cs⟩ := rfl
    have hopen : Lexer.step? ⟨tokens, .escaped cs⟩ 'u' = some ⟨tokens, .unit cs none 4 0⟩ := rfl
    have hfirst : Lexer.step? ⟨tokens, .unit cs none 4 0⟩ '0'
        = some ⟨tokens, .unit cs none 3 0⟩ :=
      step?_unit tokens cs none 2 0 0
    have hsecond : Lexer.step? ⟨tokens, .unit cs none 3 0⟩ '0'
        = some ⟨tokens, .unit cs none 2 0⟩ :=
      step?_unit tokens cs none 1 0 0
    have hthird := step?_unit tokens cs none 0 0 (c.toNat / 16)
    simp only [Nat.mul_zero, Nat.zero_add] at hthird
    simp [hescape, hopen, hfirst, hsecond, hthird, step?_unit_last, hlow, hunit]
  · simp [Lexer.step?, hquote, hslash, hcontrol]

/-- An escaped text is read as the text. -/
lemma foldlM_flatMap_escape (tokens : List Token) (cs ds : List Char) :
    (ds.flatMap escape).foldlM Lexer.step? ⟨tokens, .text cs⟩
      = some ⟨tokens, .text (ds.reverse ++ cs)⟩ := by
  induction ds generalizing cs with
  | nil => rfl
  | cons d ds ih =>
    rw [List.flatMap_cons, List.foldlM_append, foldlM_escape]
    simp [ih]

/-! ### Words -/

/-- A character that neither ends a word nor begins a string. -/
def IsWordChar (c : Char) : Prop := isSpace c = false ∧ c ≠ '"' ∧ Token.ofPunctuation? c = none

instance : DecidablePred IsWordChar := fun c =>
  inferInstanceAs (Decidable (isSpace c = false ∧ c ≠ '"' ∧ Token.ofPunctuation? c = none))

lemma isWordChar_of_isDigit {c : Char} (h : c.isDigit) : IsWordChar c := by
  have hc : 48 ≤ c.toNat ∧ c.toNat ≤ 57 := by
    simpa [Char.isDigit, UInt32.le_iff_toNat_le] using h
  have hne : ∀ d : Char, d.toNat < 48 ∨ 57 < d.toNat → c ≠ d := by
    rintro d hd rfl
    omega
  have hspace : isSpace c = false := by
    simp [isSpace, hne ' ' (by decide), hne '\t' (by decide), hne '\n' (by decide),
      hne '\r' (by decide)]
  refine ⟨hspace, hne '"' (by decide), ?_⟩
  simp [Token.ofPunctuation?, hne '[' (by decide), hne ']' (by decide), hne '{' (by decide),
    hne '}' (by decide), hne ',' (by decide), hne ':' (by decide)]

/-- A word is read to its end. -/
lemma foldlM_word (tokens : List Token) {w : List Char} (hw : ∀ c ∈ w, IsWordChar c)
    (cs : List Char) :
    w.foldlM Lexer.step? ⟨tokens, .word cs⟩ = some ⟨tokens, .word (w.reverse ++ cs)⟩ := by
  induction w generalizing cs with
  | nil => rfl
  | cons c w ih =>
    obtain ⟨⟨hspace, hquote, hmark⟩, hw⟩ := List.forall_mem_cons.mp hw
    rw [List.foldlM_cons, Lexer.step?, Lexer.stepOutside?]
    simp [hspace, hquote, hmark, ih hw]

/-! ### Texts of tokens -/

/-- The text of the tokens is read as these tokens, and the reader then stands between tokens. -/
def Closed (ts : List Token) : Prop :=
  ∀ before, (ts.flatMap Token.write).foldlM Lexer.step? ⟨before, .between⟩
    = some ⟨ts.reverse ++ before, .between⟩

/-- The text of the tokens is read as these tokens, the last of which may still lack its end. -/
def Spelt (ts : List Token) : Prop :=
  ∀ before, ∃ l, (ts.flatMap Token.write).foldlM Lexer.step? ⟨before, .between⟩ = some l ∧
    l.endWord? = some (ts.reverse ++ before)

lemma closed_nil : Closed [] := fun _ => rfl

lemma Closed.spelt {ts : List Token} (h : Closed ts) : Spelt ts :=
  fun before => ⟨_, h before, rfl⟩

lemma Closed.append_spelt {ts us : List Token} (ht : Closed ts) (hu : Spelt us) :
    Spelt (ts ++ us) := by
  intro before
  obtain ⟨l, hl, hend⟩ := hu (ts.reverse ++ before)
  refine ⟨l, ?_, by simp [hend]⟩
  rw [List.flatMap_append, List.foldlM_append, ht before]
  exact hl

/-- Punctuation ends a word. -/
lemma Spelt.append_mark {ts : List Token} (h : Spelt ts) {t : Token} {c : Char}
    (hwrite : t.write = [c]) (hmark : Token.ofPunctuation? c = some t) : Closed (ts ++ [t]) := by
  intro before
  obtain ⟨l, hl, hend⟩ := h before
  have hmode : l.mode = .between ∨ ∃ w, l.mode = .word w := by
    cases hm : l.mode with
    | between => exact .inl rfl
    | word w => exact .inr ⟨w, rfl⟩
    | _ => simp [Lexer.endWord?, hm] at hend
  have hspace : isSpace c = false := by
    by_contra hs
    simp only [isSpace, Bool.or_eq_true, beq_iff_eq, Bool.not_eq_false] at hs
    rcases hs with ((rfl | rfl) | rfl) | rfl <;> simp [Token.ofPunctuation?] at hmark
  have hquote : c ≠ '"' := by
    rintro rfl
    simp [Token.ofPunctuation?] at hmark
  have hstep : l.step? c = some ⟨t :: (ts.reverse ++ before), .between⟩ := by
    rcases hmode with hm | ⟨w, hm⟩ <;>
      simp [Lexer.step?, Lexer.stepOutside?, hm, hspace, hquote, hmark, hend]
  rw [List.flatMap_append, List.foldlM_append, hl]
  simp [hwrite, hstep]

/-- A string has an end of its own. -/
lemma closed_string (s : String) : Closed [.string s] := by
  intro before
  simp only [List.flatMap_cons, List.flatMap_nil, List.append_nil, Token.write, quote,
    List.cons_append, List.foldlM_cons, List.foldlM_append]
  simp [Lexer.step?, Lexer.stepOutside?, isSpace, Lexer.endWord?, foldlM_flatMap_escape]

/-- A word that spells a token. -/
lemma spelt_word {t : Token} (hchars : ∀ c ∈ t.write, IsWordChar c) (hne : t.write ≠ [])
    (hword : Token.ofWord? t.write = some t) : Spelt [t] := by
  intro before
  obtain ⟨c, w, hw⟩ := List.exists_cons_of_ne_nil hne
  rw [hw] at hchars
  obtain ⟨⟨hspace, hquote, hmark⟩, hrest⟩ := List.forall_mem_cons.mp hchars
  have hfirst : Lexer.step? ⟨before, .between⟩ c = some ⟨before, .word [c]⟩ := by
    simp [Lexer.step?, Lexer.stepOutside?, hspace, hquote, hmark]
  refine ⟨⟨before, .word t.write.reverse⟩, ?_, by simp [Lexer.endWord?, hword]⟩
  simp [hw, hfirst, foldlM_word before hrest]

/-- A number is written as one word. -/
lemma isWordChar_of_mem_write {n : Number} (h : n.IsWhole) {c : Char} (hc : c ∈ n.write) :
    IsWordChar c := by
  match n with
  | .int i =>
    rw [Number.write] at hc
    split_ifs at hc
    · rcases List.mem_cons.mp hc with rfl | hc
      · decide
      · exact isWordChar_of_isDigit (Numeral.isDigit_of_mem_write hc)
    · exact isWordChar_of_isDigit (Numeral.isDigit_of_mem_write hc)

lemma spelt_number {n : Number} (h : n.IsWhole) : Spelt [.number n] := by
  have hread : Number.ofWord? n.write = some n := Number.ofWord?_write h
  apply spelt_word
  · exact fun c hc => isWordChar_of_mem_write h hc
  · intro hnil
    rw [Token.write] at hnil
    rw [hnil] at hread
    cases hread
  · -- none of the three names is a numeral
    have hname : ∀ w, Number.ofWord? w = none → n.write ≠ w := by
      rintro _ hw rfl
      rw [hw] at hread
      cases hread
    simp [Token.write, Token.ofWord?, hname _ (rfl : Number.ofWord? ['n', 'u', 'l', 'l'] = none),
      hname _ (rfl : Number.ofWord? ['t', 'r', 'u', 'e'] = none),
      hname _ (rfl : Number.ofWord? ['f', 'a', 'l', 's', 'e'] = none), hread]

lemma spelt_null : Spelt [.null] := by
  refine spelt_word ?_ (by decide) rfl
  simp [Token.write, IsWordChar, isSpace, Token.ofPunctuation?]

lemma spelt_bool (b : Bool) : Spelt [.bool b] := by
  cases b
  · refine spelt_word ?_ (by decide) rfl
    simp [Token.write, IsWordChar, isSpace, Token.ofPunctuation?]
  · refine spelt_word ?_ (by decide) rfl
    simp [Token.write, IsWordChar, isSpace, Token.ofPunctuation?]

/-- What is spelt is read. -/
lemma tokenize?_of_spelt {ts : List Token} (h : Spelt ts) :
    tokenize? (ts.flatMap Token.write) = some ts := by
  obtain ⟨l, hl, hend⟩ := h []
  simp only [tokenize?, hl, Option.bind_eq_bind, Option.bind_some, hend, List.append_nil,
    List.reverse_reverse]

/-! ### Numbers among the tokens -/

variable {P : Number → Prop}

/-- The numbers that were read so far are all of one kind. -/
def NumbersIn (P : Number → Prop) (ts : List Token) : Prop := ∀ n, .number n ∈ ts → P n

lemma numbersIn_nil : NumbersIn P [] := fun _ h => nomatch h

lemma NumbersIn.cons {t : Token} {ts : List Token} (h : NumbersIn P ts)
    (ht : ∀ n, t = .number n → P n) : NumbersIn P (t :: ts) := by
  intro n hn
  rcases List.mem_cons.mp hn with hn | hn
  · exact ht n hn.symm
  · exact h n hn

lemma not_number_of_ofPunctuation? {c : Char} {t : Token} (h : Token.ofPunctuation? c = some t)
    (n : Number) : t ≠ .number n := by
  rintro rfl
  simp only [Token.ofPunctuation?] at h
  split_ifs at h <;> cases h

variable (hP : ∀ w n, Number.ofWord? w = some n → P n)
include hP

/-- A number among the words is what `ofWord?` reads as one. -/
lemma numbersIn_ofWord? {w : List Char} {t : Token} (h : Token.ofWord? w = some t) (n : Number)
    (hn : t = .number n) : P n := by
  subst hn
  simp only [Token.ofWord?] at h
  split_ifs at h
  · cases h
  · cases h
  · cases h
  · obtain ⟨m, hm, hmn⟩ := Option.map_eq_some_iff.mp h
    cases hmn
    exact hP w n hm

lemma numbersIn_endWord? {l : Lexer} {ts : List Token} (hl : NumbersIn P l.tokens)
    (h : l.endWord? = some ts) : NumbersIn P ts := by
  simp only [Lexer.endWord?] at h
  split at h
  · cases h
    exact hl
  · obtain ⟨t, ht, h⟩ := Option.bind_eq_some_iff.mp h
    cases h
    exact hl.cons (numbersIn_ofWord? hP ht)
  · cases h

lemma numbersIn_stepOutside? {l l' : Lexer} {c : Char} (hl : NumbersIn P l.tokens)
    (h : l.stepOutside? c = some l') : NumbersIn P l'.tokens := by
  simp only [Lexer.stepOutside?] at h
  split_ifs at h
  · obtain ⟨ts, hts, h⟩ := Option.bind_eq_some_iff.mp h
    cases h
    exact numbersIn_endWord? hP hl hts
  · obtain ⟨ts, hts, h⟩ := Option.bind_eq_some_iff.mp h
    cases h
    exact numbersIn_endWord? hP hl hts
  · split at h
    · next t _ ht =>
      obtain ⟨ts, hts, h⟩ := Option.bind_eq_some_iff.mp h
      cases h
      exact (numbersIn_endWord? hP hl hts).cons fun n hn =>
        absurd hn (not_number_of_ofPunctuation? ht n)
    · cases h
      exact hl
    · cases h
      exact hl

/-- Inside a string no number is read. -/
lemma numbersIn_step? {l l' : Lexer} {c : Char} (hl : NumbersIn P l.tokens)
    (h : l.step? c = some l') : NumbersIn P l'.tokens := by
  simp only [Lexer.step?] at h
  split at h
  · exact numbersIn_stepOutside? hP hl h
  · exact numbersIn_stepOutside? hP hl h
  · split_ifs at h <;> cases h
    · -- a text ends, and it is no number
      exact hl.cons nofun
    · exact hl
    · exact hl
  · split_ifs at h
    · cases h
      exact hl
    · obtain ⟨d, -, h⟩ := Option.bind_eq_some_iff.mp h
      cases h
      exact hl
  · obtain ⟨d, -, h⟩ := Option.bind_eq_some_iff.mp h
    split_ifs at h
    · obtain ⟨m, -, h⟩ := Option.bind_eq_some_iff.mp h
      cases h
      exact hl
    · cases h
      exact hl
  · split_ifs at h
    cases h
    exact hl
  · split_ifs at h
    cases h
    exact hl

/-- The numbers of a text are those that its words are read as. -/
lemma numbersIn_foldlM_step? {cs : List Char} {l l' : Lexer} (hl : NumbersIn P l.tokens)
    (h : cs.foldlM Lexer.step? l = some l') : NumbersIn P l'.tokens := by
  induction cs generalizing l with
  | nil =>
    cases h
    exact hl
  | cons c cs ih =>
    rw [List.foldlM_cons] at h
    obtain ⟨q, hq, h⟩ := Option.bind_eq_some_iff.mp h
    exact ih (numbersIn_step? hP hl hq) h

/-- The numbers of a text are those that words spell. -/
lemma numbersIn_tokenize? {cs : List Char} {ts : List Token} (h : tokenize? cs = some ts) :
    NumbersIn P ts := by
  obtain ⟨l, hl, h⟩ := Option.bind_eq_some_iff.mp h
  obtain ⟨us, hus, h⟩ := Option.bind_eq_some_iff.mp h
  cases h
  have hread : NumbersIn P l.tokens := numbersIn_foldlM_step? hP numbersIn_nil hl
  intro n hn
  exact numbersIn_endWord? hP hread hus n (List.mem_reverse.mp hn)

end RemoteDebugger.Json
