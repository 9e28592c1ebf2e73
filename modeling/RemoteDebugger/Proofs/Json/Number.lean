import Mathlib.Tactic.Common
import RemoteDebugger.Json.Number
import RemoteDebugger.Proofs.Text.Numeral

/-!
# Whole numbers read and written

A whole number of 64 bits, signed or unsigned, is read back from its numeral. What is read from a
word is such a number or a double.
-/

namespace RemoteDebugger.Number

/-- A whole number that fits 64 bits, signed or unsigned. -/
def IsWhole : Number → Prop
  | .int i    => -(maxNegative : Int) ≤ i ∧ i ≤ Numeral.max64
  | .double _ => False

instance : DecidablePred IsWhole
  | .int i    => inferInstanceAs (Decidable (-(maxNegative : Int) ≤ i ∧ i ≤ Numeral.max64))
  | .double _ => inferInstanceAs (Decidable False)

/-! ### Writing and reading -/

lemma le_ofDigitChars (n : Nat) (ds : List Char) : n ≤ Nat.ofDigitChars 10 ds n := by
  induction ds generalizing n with
  | nil => simp
  | cons d ds ih =>
    rw [Nat.ofDigitChars_cons]
    exact Nat.le_trans (by omega) (ih _)

/-- Digits are gathered to the last one if their number fits 64 bits. -/
lemma gather_of_fits {n : Nat} {ds : List Char} (h : Nat.ofDigitChars 10 ds n ≤ Numeral.max64) :
    gather n ds = (Nat.ofDigitChars 10 ds n, []) := by
  induction ds generalizing n with
  | nil => simp [gather]
  | cons d ds ih =>
    rw [Nat.ofDigitChars_cons] at h ⊢
    have hd : 10 * n + Numeral.digitValue d ≤ Numeral.max64 :=
      Nat.le_trans (le_ofDigitChars _ ds) h
    rw [gather, if_pos hd]
    exact ih h

/-- The digits of a number of 64 bits make that number. -/
lemma ofUnsigned?_write {n : Nat} (h : n ≤ Numeral.max64) (negative : Bool) :
    ofUnsigned? negative (Numeral.write n) = ofWhole? negative n := by
  have hvalue : Nat.ofDigitChars 10 (Numeral.write n) 0 = n := Numeral.value_write n
  have hgather : gather 0 (Numeral.write n) = (n, []) := by
    rw [gather_of_fits (by rw [hvalue]; exact h), hvalue]
  simp [ofUnsigned?, Numeral.scan?_write, hgather]

/-- A whole number of 64 bits is read back from its numeral. -/
lemma ofWord?_write {n : Number} (h : n.IsWhole) : ofWord? n.write = some n := by
  match n with
  | .int i =>
    obtain ⟨hlow, hhigh⟩ := h
    by_cases hneg : i < 0
    · -- negative: the sign is read first, and then the digits
      have hfits : i.natAbs ≤ Numeral.max64 := by
        simp only [maxNegative, Numeral.max64] at *
        omega
      have hsigned : 0 < i.natAbs ∧ i.natAbs ≤ maxNegative := by omega
      rw [write, if_pos hneg, ofWord?, ofUnsigned?_write hfits, ofWhole?]
      simp only [Bool.not_true, Bool.false_eq_true, if_false, if_pos hsigned, Option.some.injEq,
        int.injEq]
      omega
    · have hfits : i.natAbs ≤ Numeral.max64 := by omega
      -- the numeral of a number that is not negative has no sign
      have hsign : ∀ cs, Numeral.write i.natAbs ≠ '-' :: cs := by
        intro cs hcs
        have hdigit : '-'.isDigit := Numeral.isDigit_of_mem_write (hcs ▸ List.mem_cons_self)
        exact absurd hdigit (by decide)
      rw [write, if_neg hneg, ofWord?, ofUnsigned?_write hfits, ofWhole?]
      · simp only [Bool.not_false, if_true, Option.some.injEq, int.injEq]
        omega
      · exact hsign

/-! ### What is read -/

/-- Digits are gathered up to 64 bits and no further. -/
lemma gather_le {n : Nat} (h : n ≤ Numeral.max64) (ds : List Char) :
    (gather n ds).1 ≤ Numeral.max64 := by
  induction ds generalizing n with
  | nil => exact h
  | cons d ds ih =>
    rw [gather]
    split
    · next hd => exact ih hd
    · exact h

/-- What whole digits make is whole, or too large and a double. -/
lemma ofWhole?_eq_some {negative : Bool} {m : Nat} {n : Number} (hm : m ≤ Numeral.max64)
    (h : ofWhole? negative m = some n) : n.IsWhole ∨ ∃ x, n = .double x := by
  simp only [ofWhole?] at h
  split_ifs at h with hsign hfits
  · cases h
    left
    exact ⟨by simp only [maxNegative]; omega, by exact_mod_cast hm⟩
  · cases h
    left
    exact ⟨by omega, by simp only [Numeral.max64]; omega⟩
  · obtain ⟨x, -, rfl⟩ := Option.map_eq_some_iff.mp h
    right
    exact ⟨x, rfl⟩

/-- What a scale makes is a double. -/
lemma ofScaled?_eq_some {negative : Bool} {m : Nat} {e : Int} {cs : List Char} {n : Number}
    (h : ofScaled? negative m e cs = some n) : ∃ x, n = .double x := by
  cases cs with
  | nil =>
    obtain ⟨x, -, rfl⟩ := Option.map_eq_some_iff.mp h
    exact ⟨x, rfl⟩
  | cons c cs =>
    rw [ofScaled?] at h
    split_ifs at h
    obtain ⟨k, -, h⟩ := Option.bind_eq_some_iff.mp h
    obtain ⟨x, -, rfl⟩ := Option.map_eq_some_iff.mp h
    exact ⟨x, rfl⟩

/-- What a word spells is a whole number of 64 bits or a double. -/
lemma ofWord?_eq_some {w : List Char} {n : Number} (h : ofWord? w = some n) :
    n.IsWhole ∨ ∃ x, n = .double x := by
  have hunsigned : ∀ negative cs, ofUnsigned? negative cs = some n →
      n.IsWhole ∨ ∃ x, n = .double x := by
    intro negative cs h
    cases hscan : Numeral.scan? cs with
    | none => simp [ofUnsigned?, hscan] at h
    | some parts =>
      have hle : (gather 0 parts.1).1 ≤ Numeral.max64 := gather_le (Nat.zero_le _) parts.1
      simp only [ofUnsigned?, hscan, Option.bind_eq_bind, Option.bind_some] at h
      split at h
      · split_ifs at h
        · exact ofWhole?_eq_some hle h
        · exact .inr (ofScaled?_eq_some h)
      · split_ifs at h
        exact .inr (ofScaled?_eq_some h)
      · exact .inr (ofScaled?_eq_some h)
  simp only [ofWord?] at h
  split at h
  · exact hunsigned true _ h
  · exact hunsigned false _ h

end RemoteDebugger.Number
