import Mathlib.Data.List.Basic
import Mathlib.Data.List.Induction
import Mathlib.Data.List.TakeWhile
import Mathlib.Tactic.IntervalCases
import RemoteDebugger.Proofs.Text.Numeral
import RemoteDebugger.Text.Basic
import RemoteDebugger.Text.Identifier

/-!
# Rows of characters of a kind

What a scanner takes of a text is a row of characters of some kind, and what follows does not
begin with another one of them. This tells how blanks are skipped, how texts are trimmed, and how
identifiers and numerals are scanned.
-/

namespace RemoteDebugger

/-- `cs` does not begin with a character of the kind `q`. -/
def StartsNot (q : Char → Bool) (cs : List Char) : Prop := ∀ c ∈ cs.head?, q c = false

instance (q : Char → Bool) : DecidablePred (StartsNot q) :=
  fun cs => Option.decidableForallMem cs.head?

section

variable {q : Char → Bool} {cs row rest : List Char}

@[simp] lemma startsNot_nil : StartsNot q [] := fun _ h => nomatch h

@[simp] lemma startsNot_cons {c : Char} : StartsNot q (c :: cs) ↔ q c = false := by
  simp [StartsNot]

lemma StartsNot.append (h : StartsNot q row) (hne : row ≠ []) (cs : List Char) :
    StartsNot q (row ++ cs) := by
  obtain ⟨c, ds, rfl⟩ := List.exists_cons_of_ne_nil hne
  exact startsNot_cons.mpr (startsNot_cons.mp h)

lemma StartsNot.append_startsNot (h : StartsNot q row) (hcs : StartsNot q cs) :
    StartsNot q (row ++ cs) := by
  cases row with
  | nil => exact hcs
  | cons c ds => exact h.append (List.cons_ne_nil c ds) cs

lemma startsNot_of_forall (h : ∀ c ∈ cs, q c = false) : StartsNot q cs :=
  fun c hc => h c (List.mem_of_mem_head? hc)

lemma StartsNot.of_append (h : StartsNot q (row ++ cs)) : StartsNot q row := by
  cases row with
  | nil => exact startsNot_nil
  | cons c ds => exact startsNot_cons.mpr (startsNot_cons.mp h)

lemma startsNot_dropWhile (q : Char → Bool) (cs : List Char) : StartsNot q (cs.dropWhile q) := by
  intro c hc
  have hhead := List.head?_dropWhile_not q cs
  rw [Option.mem_def] at hc
  rwa [hc] at hhead

lemma dropWhile_of_startsNot (h : StartsNot q cs) : cs.dropWhile q = cs := by
  cases cs with
  | nil => rfl
  | cons c cs => rw [List.dropWhile_cons, startsNot_cons.mp h]; rfl

lemma takeWhile_of_startsNot (h : StartsNot q cs) : cs.takeWhile q = [] := by
  cases cs with
  | nil => rfl
  | cons c cs => rw [List.takeWhile_cons, startsNot_cons.mp h]; rfl

/-- A row is scanned as a whole and no further. -/
lemma takeWhile_row (hrow : ∀ c ∈ row, q c) (hrest : StartsNot q rest) :
    (row ++ rest).takeWhile q = row := by
  rw [List.takeWhile_append_of_pos hrow, takeWhile_of_startsNot hrest, List.append_nil]

lemma dropWhile_row (hrow : ∀ c ∈ row, q c) (hrest : StartsNot q rest) :
    (row ++ rest).dropWhile q = rest := by
  rw [List.dropWhile_append_of_pos hrow, dropWhile_of_startsNot hrest]

end

/-! ### Blanks -/

/-- A row of blanks, which may be none. -/
def IsBlankRow (w : List Char) : Prop := ∀ c ∈ w, isBlank c

instance : DecidablePred IsBlankRow := List.decidableBAll (isBlank ·)

/-- A text with no blank at either end, and not empty. -/
structure IsBare (cs : List Char) : Prop where
  ne_nil : cs ≠ []
  first : StartsNot isBlank cs
  last : StartsNot isBlank cs.reverse

section

variable {cs rest w w' : List Char}

lemma isBlankRow_nil : IsBlankRow [] := fun _ h => nomatch h

lemma IsBlankRow.reverse (h : IsBlankRow w) :
    IsBlankRow w.reverse := fun c hc => h c (List.mem_reverse.mp hc)

lemma IsBlankRow.eq_nil (h : IsBlankRow w) (hfirst : StartsNot isBlank (w ++ cs)) : w = [] := by
  cases w with
  | nil => rfl
  | cons c w =>
    have hc : isBlank c := h c List.mem_cons_self
    rw [startsNot_cons.mp hfirst] at hc
    cases hc

lemma IsBlankRow.startsNot (h : IsBlankRow w) {q : Char → Bool}
    (hq : ∀ c, isBlank c → q c = false) :
    StartsNot q w :=
  startsNot_of_forall fun c hc => hq c (h c hc)

lemma IsBlankRow.startsNot_append (h : IsBlankRow w) {q : Char → Bool}
    (hq : ∀ c, isBlank c → q c = false) (hcs : w = [] → StartsNot q cs) :
    StartsNot q (w ++ cs) := by
  cases w with
  | nil => exact hcs rfl
  | cons c w => exact startsNot_cons.mpr (hq c (h c List.mem_cons_self))

/-- A text that starts with no blank is not blank. -/
lemma not_isBlankRow_of_startsNot (h : StartsNot isBlank cs) (hne : cs ≠ []) :
    ¬ IsBlankRow cs := by
  intro hrow
  rw [← List.append_nil cs] at h
  exact hne (hrow.eq_nil h)

lemma skipBlanks_append (h : IsBlankRow w) (cs : List Char) :
    skipBlanks (w ++ cs) = skipBlanks cs :=
  List.dropWhile_append_of_pos h

lemma skipBlanks_of_startsNot (h : StartsNot isBlank cs) :
    skipBlanks cs = cs := dropWhile_of_startsNot h

lemma skipBlanks_eq_nil_iff : skipBlanks cs = [] ↔ IsBlankRow cs := List.dropWhile_eq_nil_iff

lemma startsNot_skipBlanks (cs : List Char) :
    StartsNot isBlank (skipBlanks cs) := startsNot_dropWhile isBlank cs

lemma exists_skipBlanks (cs : List Char) : ∃ w, IsBlankRow w ∧ cs = w ++ skipBlanks cs :=
  ⟨cs.takeWhile isBlank, fun _ => List.mem_takeWhile_imp, List.takeWhile_append_dropWhile.symm⟩

/-- Blanks around a text are trimmed. -/
lemma IsBare.trim_append (h : IsBare cs) (hw : IsBlankRow w) (hw' : IsBlankRow w') :
    trimBlanks (w ++ (cs ++ w')) = cs := by
  rw [trimBlanks, skipBlanks_append hw, skipBlanks_of_startsNot (h.first.append h.ne_nil w'),
    List.reverse_append, skipBlanks_append hw'.reverse, skipBlanks_of_startsNot h.last,
      List.reverse_reverse]

lemma IsBare.trim_append_right (h : IsBare cs) (hw : IsBlankRow w) : trimBlanks (cs ++ w) = cs :=
  h.trim_append isBlankRow_nil hw

lemma trimBlanks_skipBlanks (cs : List Char) : trimBlanks (skipBlanks cs) = trimBlanks cs := by
  rw [trimBlanks, trimBlanks, skipBlanks_of_startsNot (startsNot_skipBlanks cs)]

/-- Nothing but blanks is trimmed of a text. -/
lemma exists_skipBlanks_eq (cs : List Char) :
    ∃ w, IsBlankRow w ∧ skipBlanks cs = trimBlanks cs ++ w := by
  obtain ⟨w, hw, hrev⟩ := exists_skipBlanks (skipBlanks cs).reverse
  refine ⟨w.reverse, hw.reverse, ?_⟩
  rw [trimBlanks, ← List.reverse_append, ← hrev, List.reverse_reverse]

/-- What is trimmed has no blank at either end, unless it was blank. -/
lemma isBare_trimBlanks (h : ¬ IsBlankRow cs) : IsBare (trimBlanks cs) := by
  obtain ⟨w, hw, hskip⟩ := exists_skipBlanks_eq cs
  refine ⟨?_, ?_, ?_⟩
  · intro hnil
    rw [hnil, List.nil_append] at hskip
    have hnone : skipBlanks (skipBlanks cs) = [] := skipBlanks_eq_nil_iff.mpr (hskip ▸ hw)
    rw [skipBlanks_of_startsNot (startsNot_skipBlanks cs)] at hnone
    exact h (skipBlanks_eq_nil_iff.mp hnone)
  · have hfirst := startsNot_skipBlanks cs
    rw [hskip] at hfirst
    exact hfirst.of_append
  · rw [trimBlanks, List.reverse_reverse]
    exact startsNot_skipBlanks _

end

/-! ### Identifiers -/

namespace Identifier

/-- The codes of the blanks, in ranges. -/
def blankRanges : List (Nat × Nat) :=
  [(9, 13), (0x20, 0x20), (0x85, 0x85), (0xa0, 0xa0), (0x1680, 0x1680), (0x2000, 0x200a),
    (0x2028, 0x2029),
    (0x202f, 0x202f), (0x205f, 0x205f), (0x3000, 0x3000)]

/-- Whether two ranges have nothing in common. -/
def areApart (r s : Nat × Nat) : Bool := Nat.blt r.2 s.1 || Nat.blt s.2 r.1

lemma exists_blankRange {c : Char} (h : isBlank c) :
    ∃ r ∈ blankRanges, r.1 ≤ c.toNat ∧ c.toNat ≤ r.2 := by
  simp only [isBlank, Bool.or_eq_true, Bool.and_eq_true, decide_eq_true_eq, beq_iff_eq] at h
  simp only [blankRanges, List.mem_cons, List.not_mem_nil, or_false, exists_eq_or_imp,
    exists_eq_left]
  omega

/-- Identifiers hold no blanks. -/
lemma isContinue_of_isBlank (c : Char) (h : isBlank c) : isContinue c = false := by
  have hapart : (startRanges ++ extendRanges).all fun r => blankRanges.all (areApart r) := by
    decide +kernel
  obtain ⟨s, hs, hlow, hhigh⟩ := exists_blankRange h
  rw [isContinue, isStart, ← List.any_append, List.any_eq_false]
  intro r hr hc
  have hrs := List.all_eq_true.mp (List.all_eq_true.mp hapart r hr) s hs
  simp only [areApart, Bool.or_eq_true, Nat.blt_eq, Bool.and_eq_true, decide_eq_true_eq]
    at hc hrs
  omega

variable {name rest cs : List Char}

/-- An identifier as a whole. -/
lemma scan?_self_iff : scan? name = some (name, []) ↔
    ∃ c ds, name = c :: ds ∧ isStart c ∧ ∀ d ∈ ds, isContinue d := by
  cases name with
  | nil => simp [scan?]
  | cons c ds =>
    rw [scan?]
    by_cases hc : isStart c
    · rw [if_pos hc, Option.some.injEq, Prod.mk.injEq, List.cons.injEq,
        List.takeWhile_eq_self_iff, List.dropWhile_eq_nil_iff]
      simp [hc]
    · rw [if_neg hc]
      simp [hc]

/-- An identifier is scanned if it begins the text and does not go on. -/
lemma scan?_eq_some_iff : scan? cs = some (name, rest) ↔
    cs = name ++ rest ∧ scan? name = some (name, []) ∧ StartsNot isContinue rest := by
  rw [scan?_self_iff]
  constructor
  · intro h
    cases cs with
    | nil => cases h
    | cons c cs =>
      rw [scan?] at h
      split_ifs at h with hc
      cases h
      refine ⟨?_, ⟨c, _, rfl, hc, fun _ => List.mem_takeWhile_imp⟩,
        startsNot_dropWhile isContinue cs⟩
      rw [List.cons_append, List.takeWhile_append_dropWhile]
  · rintro ⟨rfl, ⟨c, ds, rfl, hc, hds⟩, hrest⟩
    rw [List.cons_append, scan?, if_pos hc, takeWhile_row hds hrest, dropWhile_row hds hrest]

/-- An identifier begins with no blank. -/
lemma startsNot_isBlank (h : scan? name = some (name, [])) (tail : List Char) :
    StartsNot isBlank (name ++ tail) := by
  obtain ⟨c, ds, rfl, hc, -⟩ := scan?_self_iff.mp h
  refine startsNot_cons.mpr (Bool.eq_false_iff.mpr fun hblank => ?_)
  have hcontinue := isContinue_of_isBlank _ hblank
  rw [isContinue, hc, Bool.true_or] at hcontinue
  cases hcontinue

end Identifier

/-! ### Numerals -/

namespace Numeral

variable {cs ds rest : List Char}

lemma value_concat (ds : List Char) (d : Char) :
    value (ds ++ [d]) = 10 * value ds + digitValue d := by
  rw [value, List.foldl_append]
  rfl

/-- A digit is the character of its value. -/
lemma digitChar_digitValue {d : Char} (h : d.isDigit) :
    digitValue d < 10 ∧ (digitValue d).digitChar = d := by
  have hrange : 48 ≤ d.toNat ∧ d.toNat ≤ 57 := by
    simp only [Char.isDigit, Bool.and_eq_true, decide_eq_true_eq, UInt32.le_iff_toNat_le] at h
    exact h
  have hvalue : d.toNat = digitValue d + 48 ∧ digitValue d < 10 := by
    have hzero : '0'.toNat = 48 := rfl
    rw [digitValue, hzero]
    omega
  refine ⟨hvalue.2, Char.toNat_inj.mp ?_⟩
  rw [hvalue.1]
  generalize digitValue d = k at hvalue
  obtain ⟨-, hlt⟩ := hvalue
  interval_cases k <;> rfl

/-- A row of digits without a leading zero is the numeral of its value. -/
lemma write_value (hdigits : ∀ d ∈ ds, d.isDigit) (hne : ds ≠ [])
    (hzero : ds.head? = some '0' → ds = ['0']) :
    write (value ds) = ds := by
  induction ds using List.reverseRecOn with
  | nil => exact absurd rfl hne
  | append_singleton ds d ih =>
    obtain ⟨hds, hd⟩ := List.forall_mem_append.mp hdigits
    obtain ⟨hlt, hchar⟩ := digitChar_digitValue (hd d List.mem_cons_self)
    rw [value_concat]
    -- a single digit may be zero, and more of them have no zero in front
    by_cases hnil : ds = []
    · subst hnil
      rw [write, Nat.toDigits_of_lt_base (by simpa [value] using hlt)]
      simpa [value] using hchar
    · have hhead : (ds ++ [d]).head? = ds.head? := List.head?_append_of_ne_nil _ hnil
      have hnonzero : ds.head? ≠ some '0' := by
        intro h
        have hlength := congrArg List.length (hzero (hhead.trans h))
        rw [List.length_append] at hlength
        exact hnil (List.length_eq_zero_iff.mp (Nat.succ.inj hlength))
      have hwrite := ih hds hnil fun h => absurd h hnonzero
      have hpos : 0 < value ds := by
        refine Nat.pos_of_ne_zero fun h => ?_
        rw [h] at hwrite
        exact hnonzero (hwrite ▸ rfl)
      have happend := Nat.toDigits_append_toDigits (b := 10) (by decide) hpos hlt
      rw [write, ← happend, Nat.toDigits_of_lt_base hlt, hchar]
      exact congrArg (· ++ [d]) hwrite

/-- A digit is no blank. -/
lemma isBlank_of_isDigit {d : Char} (h : d.isDigit) : isBlank d = false := by
  simp only [Char.isDigit, Bool.and_eq_true, decide_eq_true_eq, UInt32.le_iff_toNat_le] at h
  simp only [isBlank, Char.toNat, Bool.or_eq_false_iff, Bool.and_eq_false_iff,
    decide_eq_false_iff_not, beq_eq_false_iff_ne]
  change 48 ≤ _ ∧ _ ≤ 57 at h
  omega

/-- A blank is no digit. -/
lemma isDigit_of_isBlank (d : Char) (h : isBlank d) : d.isDigit = false := by
  refine Bool.eq_false_iff.mpr fun hdigit => ?_
  rw [isBlank_of_isDigit hdigit] at h
  cases h

lemma write_ne_nil (n : Nat) : write n ≠ [] := Nat.toDigits_ne_nil

lemma startsNot_write (n : Nat) (tail : List Char) : StartsNot isBlank (write n ++ tail) := by
  obtain ⟨d, ds, hw⟩ := List.exists_cons_of_ne_nil (write_ne_nil n)
  rw [hw]
  exact startsNot_cons.mpr
    (isBlank_of_isDigit (isDigit_of_mem_write (n := n) (hw ▸ List.mem_cons_self)))

/-- A text that ends in a numeral does not end in blanks. -/
lemma eq_nil_of_append_write {w : List Char} (hw : IsBlankRow w) {n : Nat}
    (h : cs ++ w = ds ++ write n) : w = [] := by
  have hdigits : StartsNot isBlank (write n).reverse := startsNot_of_forall fun c hc =>
    isBlank_of_isDigit (isDigit_of_mem_write (List.mem_reverse.mp hc))
  have hreverse : w.reverse ++ cs.reverse = (write n).reverse ++ ds.reverse := by
    rw [← List.reverse_append, h, List.reverse_append]
  have hfirst : StartsNot isBlank (w.reverse ++ cs.reverse) := by
    rw [hreverse]
    exact hdigits.append (List.reverse_ne_nil_iff.mpr (write_ne_nil n)) _
  exact List.reverse_eq_nil_iff.mp (hw.reverse.eq_nil hfirst)

/-- A numeral is scanned if it begins the text, and as far as it goes. After a zero it never goes
on. -/
lemma scan?_eq_some_iff : scan? cs = some (ds, rest) ↔
    cs = ds ++ rest ∧ ∃ n, ds = write n ∧ (n = 0 ∨ StartsNot Char.isDigit rest) := by
  constructor
  · intro h
    cases cs with
    | nil => cases h
    | cons c cs =>
      rw [scan?] at h
      split_ifs at h with hzero hdigit
      · cases h
        exact ⟨by rw [hzero]; rfl, 0, rfl, .inl rfl⟩
      · cases h
        refine ⟨?_, value (c :: cs.takeWhile Char.isDigit),
          (write_value ?_ (List.cons_ne_nil _ _) ?_).symm,
          .inr (startsNot_dropWhile Char.isDigit cs)⟩
        · rw [List.cons_append, List.takeWhile_append_dropWhile]
        · exact List.forall_mem_cons.mpr ⟨hdigit, fun _ => List.mem_takeWhile_imp⟩
        · intro h
          exact absurd (Option.some.inj h) hzero
  · rintro ⟨rfl, n, rfl, rfl | hrest⟩
    · rfl
    · exact scan?_write_append n hrest

end Numeral

end RemoteDebugger
