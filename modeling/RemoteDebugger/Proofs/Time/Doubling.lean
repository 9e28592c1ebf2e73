import Mathlib.Data.List.Iterate
import Mathlib.Tactic.Common
import RemoteDebugger.Time.Backoff

/-!
# Pauses in closed form

The pauses between tries double up to a limit. Each of them is the first one times a power of
two, or the limit if that is shorter, and the largest duration never comes in between. This is so
too for durations that are doubled as they are kept, in a word of seconds and a word of
nanoseconds.
-/

namespace RemoteDebugger

namespace Duration

lemma eq_of_nanoseconds {d e : Duration} (h : d.nanoseconds = e.nanoseconds) :
    d = e := congrArg Duration.mk h

lemma nanoseconds_min (d e : Duration) :
    (d.min e).nanoseconds = Min.min d.nanoseconds e.nanoseconds := rfl

lemma nanoseconds_double (d : Duration) :
    d.double.nanoseconds = Min.min (2 * d.nanoseconds) largest.nanoseconds := rfl

lemma nanoseconds_largest : largest.nanoseconds = 2 ^ 64 * 1000000000 - 1 := rfl

/-! ### Durations in words -/

/-- A duration in words: whole seconds of 64 bits, and nanoseconds of less than a second. -/
structure Words where
  seconds : UInt64
  nanoseconds : UInt32
  lt_perSecond : nanoseconds.toNat < perSecond

/-- The sum of two words, unless it wraps. -/
def add? (a b : UInt64) : Option UInt64 := if a ≤ a + b then some (a + b) else none

namespace Words

def duration (w : Words) : Duration := ofParts w.seconds.toNat w.nanoseconds.toNat

def largest : Words := ⟨0xffffffffffffffff, 999999999, by decide⟩

lemma nanoseconds_duration (w : Words) :
    w.duration.nanoseconds = w.seconds.toNat * 1000000000 + w.nanoseconds.toNat := rfl

/-- Twice the nanoseconds of `w`, which may be more than a second. -/
def doubled (w : Words) : UInt64 := 2 * w.nanoseconds.toUInt64

/-- The part below a second can be doubled in a word. -/
lemma toNat_doubled (w : Words) : w.doubled.toNat = 2 * w.nanoseconds.toNat := by
  have hlt := w.lt_perSecond
  rw [perSecond] at hlt
  rw [doubled, UInt64.toNat_mul, UInt32.toNat_toUInt64]
  exact Nat.mod_eq_of_lt (show 2 * w.nanoseconds.toNat < 2 ^ 64 by omega)

lemma toNat_doubled_mod (w : Words) :
    (w.doubled % 1000000000).toUInt32.toNat = 2 * w.nanoseconds.toNat % perSecond := by
  have hlt : w.doubled.toNat % 1000000000 < 2 ^ 32 := by omega
  rw [UInt64.toNat_toUInt32, UInt64.toNat_mod, toNat_doubled] at *
  exact Nat.mod_eq_of_lt hlt

/-- Twice the duration, field by field. A second among the nanoseconds is carried over, and if
the seconds do not fit their word, it is the largest duration. -/
def double (w : Words) : Words :=
  match (add? w.seconds w.seconds).bind (add? · (w.doubled / 1000000000)) with
  | some seconds =>
    { seconds
      nanoseconds  := (w.doubled % 1000000000).toUInt32
      lt_perSecond := by
        rw [toNat_doubled_mod]
        exact Nat.mod_lt _ (by decide) }
  | none         => largest

/-- The shorter one of two durations: seconds are compared first. -/
def min (v w : Words) : Words :=
  if v.seconds < w.seconds || v.seconds == w.seconds &&
    v.nanoseconds ≤ w.nanoseconds then v else w

/-- The pauses between tries, computed in words. -/
def pauses (attempts : Nat) (initial limit : Words) : List Words :=
  List.iterate (fun w => w.double.min limit) (initial.min limit) (attempts - 1)

end Words

/-- Words are added exactly, if the sum fits. -/
lemma add?_eq_some_iff {a b c : UInt64} : add? a b = some c ↔ c.toNat = a.toNat + b.toNat := by
  have ha := a.toNat_lt
  have hb := b.toNat_lt
  have hc := c.toNat_lt
  rw [add?, Option.ite_none_right_eq_some, Option.some.injEq, UInt64.le_iff_toNat_le,
    ← UInt64.toNat_inj, UInt64.toNat_add]
  omega

/-- Words are not added if their sum does not fit. -/
lemma add?_eq_none_iff {a b : UInt64} : add? a b = none ↔ 2 ^ 64 ≤ a.toNat + b.toNat := by
  have ha := a.toNat_lt
  have hb := b.toNat_lt
  rw [add?, ite_eq_right_iff, UInt64.le_iff_toNat_le, UInt64.toNat_add]
  simp only [reduceCtorEq, imp_false]
  omega

namespace Words

lemma duration_largest : largest.duration = Duration.largest := by decide

/-- No duration of words is longer than the largest. -/
lemma nanoseconds_le_largest (w : Words) :
    w.duration.nanoseconds ≤ Duration.largest.nanoseconds := by
  have hseconds := w.seconds.toNat_lt
  have hlt : w.nanoseconds.toNat < 1000000000 := w.lt_perSecond
  rw [nanoseconds_duration, nanoseconds_largest]
  omega

/-- Doubling in words is doubling: nothing wraps, and no carry is lost. -/
lemma duration_double (w : Words) : w.double.duration = w.duration.double := by
  have hlt : w.nanoseconds.toNat < 1000000000 := w.lt_perSecond
  have hcarry : (w.doubled / 1000000000).toNat = 2 * w.nanoseconds.toNat / 1000000000 := by
    rw [UInt64.toNat_div, toNat_doubled]
    rfl
  apply eq_of_nanoseconds
  rw [nanoseconds_double, nanoseconds_largest, nanoseconds_duration w, double]
  split
  · next seconds hsome =>
    obtain ⟨twice, htwice, hsum⟩ := Option.bind_eq_some_iff.mp hsome
    rw [add?_eq_some_iff] at htwice hsum
    have hword := seconds.toNat_lt
    rw [nanoseconds_duration]
    dsimp only
    rw [toNat_doubled_mod, perSecond]
    omega
  · next hnone =>
    rw [duration_largest, nanoseconds_largest]
    cases htwice : add? w.seconds w.seconds with
    | none =>
      rw [add?_eq_none_iff] at htwice
      omega
    | some twice =>
      have hsum := add?_eq_none_iff.mp (Option.bind_eq_none_iff.mp hnone twice htwice)
      rw [add?_eq_some_iff] at htwice
      omega

lemma duration_min (v w : Words) : (v.min w).duration = v.duration.min w.duration := by
  have hv : v.nanoseconds.toNat < 1000000000 := v.lt_perSecond
  have hw : w.nanoseconds.toNat < 1000000000 := w.lt_perSecond
  apply eq_of_nanoseconds
  rw [nanoseconds_min, nanoseconds_duration v, nanoseconds_duration w]
  simp only [Words.min, Bool.or_eq_true, Bool.and_eq_true, decide_eq_true_eq, beq_iff_eq,
    UInt64.lt_iff_toNat_lt, ← UInt64.toNat_inj, UInt32.le_iff_toNat_le]
  split_ifs with hle
  · rw [nanoseconds_duration]
    omega
  · rw [nanoseconds_duration]
    omega

end Words

/-- What is doubled up to a limit over and over is the first duration times a power of two, up to
the limit. -/
lemma iterate_double {limit : Duration} (hlimit : limit.nanoseconds ≤ largest.nanoseconds)
    (initial : Duration) (i : Nat) : (fun d => d.double.min limit)^[i] (initial.min limit)
      = ⟨Min.min (initial.nanoseconds * 2 ^ i) limit.nanoseconds⟩ := by
  induction i with
  | zero => rw [Nat.pow_zero, Nat.mul_one]; rfl
  | succ i ih =>
    have hpow : initial.nanoseconds * 2 ^ (i + 1) = 2 * (initial.nanoseconds * 2 ^ i) := by
      rw [Nat.pow_succ, ← Nat.mul_assoc, Nat.mul_comm]
    rw [Function.iterate_succ_apply', ih, hpow]
    generalize initial.nanoseconds * 2 ^ i = n
    apply eq_of_nanoseconds
    rw [nanoseconds_min, nanoseconds_double]
    dsimp only
    omega

end Duration

/-! ### All pauses -/

/-- As many pauses as are asked for, or as there are: each is twice the one before it, up to the
limit. -/
lemma Pauses.take_eq_iterate (n : Nat) (p : Pauses) :
    Pauses.take n p = List.iterate (fun d => d.double.min p.limit) p.next (min n p.left) := by
  induction n generalizing p with
  | zero => rw [Nat.zero_min]; rfl
  | succ n ih =>
    obtain ⟨left, next, limit⟩ := p
    cases left with
    | zero => rfl
    | succ left =>
      have htake := ih { left, next := next.double.min limit, limit }
      rw [Nat.succ_min_succ]
      exact congrArg (next :: ·) htake

namespace Backoff

/-- All pauses, in order. -/
def delays (b : Backoff) : List Duration := Pauses.take b.pauses.left b.pauses

/-- Each pause is twice the one before it, up to the limit. -/
lemma delays_eq_iterate (b : Backoff) :
    b.delays = List.iterate (fun d => d.double.min b.limit) (b.initial.min b.limit)
      (b.attempts - 1) := by
  rw [delays, Pauses.take_eq_iterate, Nat.min_self]
  rfl

/-- The first pauses are the first ones of all. -/
lemma take_pauses (b : Backoff) (n : Nat) : Pauses.take n b.pauses = b.delays.take n := by
  rw [delays, Pauses.take_eq_iterate, Pauses.take_eq_iterate, List.take_iterate, Nat.min_self]

lemma delays_eq_map {b : Backoff} (hlimit : b.limit.nanoseconds ≤ Duration.largest.nanoseconds) :
    b.delays = (List.range (b.attempts - 1)).map
      fun i => ⟨min (b.initial.nanoseconds * 2 ^ i) b.limit.nanoseconds⟩ := by
  rw [delays_eq_iterate, ← List.range_map_iterate]
  exact List.map_congr_left fun i _ => Duration.iterate_double hlimit b.initial i

/-- The backoff for a number of tries and durations in words. -/
def ofWords (attempts : Nat) (initial limit : Duration.Words) : Backoff :=
  { attempts, initial := initial.duration, limit := limit.duration }

/-- The pauses are those that the program counts in words. -/
lemma delays_ofWords (attempts : Nat) (initial limit : Duration.Words) :
    (ofWords attempts initial limit).delays
      = (Duration.Words.pauses attempts initial limit).map (·.duration) := by
  have hiterate (i : Nat) : ((fun w => w.double.min limit)^[i] (initial.min limit)).duration
      = (fun d => d.double.min limit.duration)^[i] (initial.duration.min limit.duration) := by
    rw [← Duration.Words.duration_min]
    refine Function.Semiconj.iterate_right (f := Duration.Words.duration) (fun w => ?_) i _
    rw [Duration.Words.duration_min, Duration.Words.duration_double]
  rw [delays_eq_iterate, Duration.Words.pauses, ← List.range_map_iterate,
    ← List.range_map_iterate, List.map_map]
  exact List.map_congr_left fun i _ => (hiterate i).symm

/-- There is a pause between any two tries. Each one is the first duration times a power of two,
or the limit if that is shorter, and the same comes out in words. So pauses never get shorter or
longer than the limit. -/
theorem delays_closed_form (attempts : Nat) (initial limit : Duration.Words) :
    (ofWords attempts initial limit).delays = (List.range (max attempts 1 - 1)).map
      (fun i => ⟨min (initial.duration.nanoseconds * 2 ^ i) limit.duration.nanoseconds⟩) ∧
    (Duration.Words.pauses attempts initial limit).map (·.duration)
      = (ofWords attempts initial limit).delays ∧
    (∀ n, Pauses.take n (ofWords attempts initial limit).pauses
      = (ofWords attempts initial limit).delays.take n) ∧
    (ofWords attempts initial limit).delays.Pairwise (fun d e => d.nanoseconds ≤ e.nanoseconds) ∧
    ∀ d ∈ (ofWords attempts initial limit).delays,
      d.nanoseconds ≤ limit.duration.nanoseconds := by
  have hmap : (ofWords attempts initial limit).delays = (List.range (attempts - 1)).map
      fun i => ⟨min (initial.duration.nanoseconds * 2 ^ i) limit.duration.nanoseconds⟩ :=
    delays_eq_map limit.nanoseconds_le_largest
  refine ⟨?_, (delays_ofWords attempts initial limit).symm, take_pauses _, ?_, ?_⟩
  · have hattempts : max attempts 1 - 1 = attempts - 1 := by omega
    rw [hattempts]
    exact hmap
  · rw [hmap, List.pairwise_map]
    refine List.pairwise_lt_range.imp fun {i j} hij => ?_
    have hpow : 2 ^ i ≤ 2 ^ j := Nat.pow_le_pow_right Nat.two_pos (Nat.le_of_lt hij)
    exact min_le_min_right _ (Nat.mul_le_mul_left _ hpow)
  · rw [hmap]
    intro d hd
    obtain ⟨i, -, rfl⟩ := List.mem_map.mp hd
    exact Nat.min_le_right _ _

/-- The longest pauses: the second one is the limit, and twice that would not fit. -/
theorem delays_closed_form_largest :
    (ofWords 4 ⟨0x8000000000000000, 500000000, by decide⟩ Duration.Words.largest).delays
        = [.ofParts 0x8000000000000000 500000000, Duration.largest, Duration.largest] ∧
      Duration.largest.nanoseconds ≤ Duration.Words.largest.duration.nanoseconds := by
  obtain ⟨hdelays, -, -, -, hle⟩ :=
    delays_closed_form 4 ⟨0x8000000000000000, 500000000, by decide⟩ .largest
  have hlist : (ofWords 4 ⟨0x8000000000000000, 500000000, by decide⟩
      Duration.Words.largest).delays
        = [.ofParts 0x8000000000000000 500000000, Duration.largest, Duration.largest] := by
    rw [hdelays]
    decide +kernel
  exact ⟨hlist, hle _ (hlist ▸ List.mem_cons_of_mem _ List.mem_cons_self)⟩

end Backoff

end RemoteDebugger
