import RemoteDebugger.Proofs.Time.Doubling

/-!
# Repeated tries

Something is tried again as long as it fails in a way that may pass, and there is a try left.
What comes of it is what came of the last try, and there is a pause between any two tries.
-/

namespace RemoteDebugger.Backoff

variable {ε α : Type}

/-- Whether an outcome is a failure that may pass. -/
def mayPass (again : ε → Bool) : Except ε α → Bool
  | .ok _    => false
  | .error e => again e

lemma mayPass_eq_true_iff {again : ε → Bool} {r : Except ε α} :
    mayPass again r ↔ ∃ e, r = .error e ∧ again e := by
  cases r <;> simp [mayPass]

lemma mayPass_eq_false_iff {again : ε → Bool} {r : Except ε α} :
    mayPass again r = false ↔ ∀ e, r = .error e → again e = false := by
  cases r <;> simp [mayPass]

/-- All that was tried, one after the other, with `n` tries at most: every outcome but the last
one may pass, and the last one does not or there is no try left. -/
structure IsTried (again : α → Bool) (n : Nat) (outcomes : List α) : Prop where
  ne_nil : outcomes ≠ []
  length_le : outcomes.length ≤ n
  again_of_mem_dropLast : ∀ r ∈ outcomes.dropLast, again r
  done : outcomes.length = n ∨ ∃ r ∈ outcomes.getLast?, again r = false

section

variable {again : α → Bool} {n : Nat} {outcomes : List α} {r : α}

/-- Before a try that may pass there may be tries as before any other. -/
lemma IsTried.cons (h : IsTried again n outcomes) (hr : again r) :
    IsTried again (n + 1) (r :: outcomes) where
  ne_nil := List.cons_ne_nil r outcomes
  length_le := Nat.succ_le_succ h.length_le
  again_of_mem_dropLast := by
    rw [List.dropLast_cons_of_ne_nil h.ne_nil]
    exact List.forall_mem_cons.mpr ⟨hr, h.again_of_mem_dropLast⟩
  done := by
    rw [List.length_cons, List.getLast?_cons_of_ne_nil h.ne_nil]
    exact h.done.imp_left (congrArg Nat.succ)

/-- One try is enough if it is the only one, or if its result does not pass. -/
lemma isTried_singleton (hn : 0 < n) (hr : n = 1 ∨ again r = false) : IsTried again n [r] where
  ne_nil := List.cons_ne_nil r []
  length_le := hn
  again_of_mem_dropLast := nofun
  done := hr.imp Eq.symm fun hr => ⟨r, rfl, hr⟩

end

variable (again : ε → Bool) (tries : Nat → Except ε α)

/-- Tries end with the first one that does not fail in a way that may pass, or with the last
one. -/
lemma tryFrom_eq {limit : Duration} {left j : Nat} (hj : j ≤ left) {k : Nat}
    (hbefore : ∀ i < j, mayPass again (tries (k + i)))
    (hlast : j < left → mayPass again (tries (k + j)) = false) (next : Duration) :
    tryFrom again tries limit left next k
      = { outcome := tries (k + j),
          pauses := List.iterate (fun d => d.double.min limit) next j } := by
  induction left generalizing j k next with
  | zero =>
    obtain rfl : j = 0 := Nat.le_zero.mp hj
    rfl
  | succ left ih =>
    rw [tryFrom]
    -- the first try is the last one, or it is followed by the others
    cases j with
    | zero =>
      have hends := hlast (Nat.succ_pos left)
      rw [Nat.add_zero] at hends ⊢
      cases hk : tries k with
      | ok a => rfl
      | error e =>
        rw [hk] at hends
        exact if_neg (Bool.eq_false_iff.mp hends)
    | succ j =>
      have hfirst := hbefore 0 (Nat.succ_pos j)
      rw [Nat.add_zero] at hfirst
      obtain ⟨e, hk, hagain⟩ := mayPass_eq_true_iff.mp hfirst
      have hcomm (i : Nat) : k + (i + 1) = k + 1 + i := by omega
      have hrest := ih (Nat.le_of_succ_le_succ hj) (k := k + 1)
        (fun i hi => hcomm i ▸ hbefore (i + 1) (Nat.succ_lt_succ hi))
        (fun hless => hcomm j ▸ hlast (Nat.succ_lt_succ hless)) (next.double.min limit)
      rw [hk]
      dsimp only
      rw [if_pos hagain, hrest, hcomm j]
      rfl

/-- There is a last try. -/
lemma exists_last (left : Nat) : ∃ j ≤ left, (∀ i < j, mayPass again (tries i)) ∧
    (j < left → mayPass again (tries j) = false) := by
  induction left with
  | zero => exact ⟨0, Nat.le_refl 0, nofun, nofun⟩
  | succ left ih =>
    obtain ⟨j, hj, hbefore, hlast⟩ := ih
    by_cases hends : mayPass again (tries j)
    · -- a try that may pass is followed by another one
      have hsame : j = left := by
        by_contra hne
        rw [hlast (Nat.lt_of_le_of_ne hj hne)] at hends
        cases hends
      subst hsame
      refine ⟨j + 1, Nat.le_refl _, fun i hi => ?_, fun h => absurd h (Nat.lt_irrefl _)⟩
      rcases Nat.lt_succ_iff_lt_or_eq.mp hi with hless | rfl
      · exact hbefore i hless
      · exact hends
    · exact ⟨j, Nat.le_succ_of_le hj, hbefore, fun _ => Bool.eq_false_iff.mpr hends⟩

/-- The result of tries is that of the last one, after as many pauses as came before it. -/
lemma retry_eq {b : Backoff} {j : Nat} (hj : j ≤ b.attempts - 1)
    (hbefore : ∀ i < j, mayPass again (tries i))
    (hlast : j < b.attempts - 1 → mayPass again (tries j) = false) :
    b.retry again tries = { outcome := tries j, pauses := b.delays.take j } := by
  have hpauses : b.delays.take j
      = List.iterate (fun d => d.double.min b.limit) (b.initial.min b.limit) j := by
    rw [delays_eq_iterate, List.take_iterate, Nat.min_eq_left hj]
  have htries : tryFrom again tries b.limit (b.attempts - 1) (b.initial.min b.limit) 0 = {
      outcome := tries (0 + j),
      pauses := List.iterate (fun d => d.double.min b.limit) (b.initial.min b.limit) j } :=
    tryFrom_eq again tries hj (by simpa using hbefore) (by simpa using hlast)
      (b.initial.min b.limit)
  rw [Nat.zero_add] at htries
  rw [hpauses]
  exact htries

/-- All tries before the last one failed in a way that may pass, and the last one did so only if
none was left. -/
lemma outcome_retry (b : Backoff) :
    ∃ j ≤ b.attempts - 1, (b.retry again tries).outcome = tries j ∧
    (∀ i < j, ∃ e, tries i = .error e ∧ again e) ∧
    (j < b.attempts - 1 → ∀ e, tries j = .error e → again e = false) := by
  obtain ⟨j, hj, hbefore, hlast⟩ := exists_last again tries (b.attempts - 1)
  refine ⟨j, hj, by
    rw [retry_eq again tries hj hbefore hlast], fun i hi =>
      mayPass_eq_true_iff.mp (hbefore i hi), fun hless => mayPass_eq_false_iff.mp (hlast hless)⟩

/-- What comes of tries is what came of those that were made, whatever others would have come to.
There is a pause between any two of them. -/
lemma exists_isTried (b : Backoff) :
    ∃ k, IsTried (mayPass again) (max 1 b.attempts) ((List.range k).map tries) ∧
      (b.retry again tries).outcome = tries (k - 1) ∧
      (b.retry again tries).pauses = b.delays.take (k - 1) ∧
      ∀ tries', (∀ i < k, tries' i = tries i) → b.retry again tries' = b.retry again tries := by
  obtain ⟨j, hj, hbefore, hlast⟩ := exists_last again tries (b.attempts - 1)
  have heq := retry_eq again tries hj hbefore hlast
  refine ⟨j + 1, ⟨by simp, ?_, ?_, ?_⟩, by rw [heq]; rfl, by rw [heq]; rfl,
    fun tries' hsame => ?_⟩
  · rw [List.length_map, List.length_range]
    omega
  · rw [List.range_succ, List.map_append, List.map_singleton, List.dropLast_concat]
    intro r hr
    obtain ⟨i, hi, rfl⟩ := List.mem_map.mp hr
    exact hbefore i (List.mem_range.mp hi)
  · rw [List.length_map, List.length_range, List.range_succ, List.map_append, List.map_singleton,
      List.getLast?_concat]
    rcases Nat.lt_or_eq_of_le hj with hless | heq
    · exact .inr ⟨_, rfl, hlast hless⟩
    · left
      omega
  · have hbefore' : ∀ i < j, mayPass again (tries' i) := fun i hi => by
      rw [hsame i (Nat.lt_succ_of_lt hi)]
      exact hbefore i hi
    rw [heq, retry_eq again tries' hj hbefore' fun hless => by
      rw [hsame j (Nat.lt_succ_self j)]; exact hlast hless, hsame j (Nat.lt_succ_self j)]

end RemoteDebugger.Backoff
