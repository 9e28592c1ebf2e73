import Mathlib.Data.List.TakeWhile
import Mathlib.Tactic.IntervalCases
import RemoteDebugger.Text.Basic

/-!
# Numerals read and written

A number is read back from its numeral, which begins with a zero only if the number is zero.
-/

namespace RemoteDebugger.Numeral

lemma value_write (n : Nat) : value (write n) = n := Nat.ofDigitChars_ten_toDigits

lemma isDigit_of_mem_write {n : Nat} {c : Char} (h : c ∈ write n) : c.isDigit :=
  Nat.isDigit_of_mem_toDigits (by decide) (by decide) h

/-- The first digit of a positive number is not zero. -/
lemma write_eq_cons {n : Nat} (h : 0 < n) : ∃ c cs, write n = c :: cs ∧ c ≠ '0' := by
  induction n using Nat.strong_induction_on with
  | _ n ih =>
    by_cases hn : n < 10
    · refine ⟨n.digitChar, [], Nat.toDigits_of_lt_base hn, ?_⟩
      interval_cases n <;> decide
    · obtain ⟨c, cs, hw, hc⟩ := ih (n / 10) (by omega) (by omega)
      refine ⟨c, cs ++ [(n % 10).digitChar], ?_, hc⟩
      rw [write, Nat.toDigits_of_base_le (by decide) (by omega)]
      rw [write] at hw
      rw [hw, List.cons_append]

/-- The numeral of a number is read if the number is not too large. -/
lemma read?_write (n max : Nat) : read? max (write n) = if n ≤ max then some n else none := by
  have hdigits : (write n).all Char.isDigit :=
    List.all_eq_true.mpr fun c hc => isDigit_of_mem_write hc
  have hsome : (write n).isEmpty = false := by
    rcases Nat.eq_zero_or_pos n with rfl | hn
    · rfl
    · obtain ⟨c, cs, hw, -⟩ := write_eq_cons hn
      rw [hw]
      rfl
  rw [read?, hdigits, hsome, value_write, if_neg (by decide)]

/-- A numeral is scanned as a whole if no digit follows. -/
lemma scan?_write_append (n : Nat) {tail : List Char}
    (htail : ∀ c ∈ tail.head?, c.isDigit = false) :
    scan? (write n ++ tail) = some (write n, tail) := by
  rcases Nat.eq_zero_or_pos n with rfl | hn
  · rfl
  · obtain ⟨c, cs, hw, hc⟩ := write_eq_cons hn
    have hdigits : ∀ d ∈ c :: cs, d.isDigit := fun d hd => isDigit_of_mem_write (hw ▸ hd)
    obtain ⟨hfirst, hrest⟩ := List.forall_mem_cons.mp hdigits
    have hstop : tail.takeWhile Char.isDigit = [] ∧ tail.dropWhile Char.isDigit = tail := by
      cases tail with
      | nil => exact ⟨rfl, rfl⟩
      | cons d ds =>
        have hd : d.isDigit = false := htail d rfl
        rw [List.takeWhile_cons, List.dropWhile_cons, hd]
        exact ⟨rfl, rfl⟩
    rw [hw, List.cons_append, scan?, if_neg hc, if_pos hfirst,
      List.takeWhile_append_of_pos hrest, List.dropWhile_append_of_pos hrest, hstop.1, hstop.2,
        List.append_nil]

/-- A numeral is scanned as a whole. -/
lemma scan?_write (n : Nat) : scan? (write n) = some (write n, []) := by
  have hnothing : ∀ c ∈ ([] : List Char).head?, c.isDigit = false := nofun
  simpa using scan?_write_append n hnothing

end RemoteDebugger.Numeral
