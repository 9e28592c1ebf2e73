import Mathlib.Data.List.Sort
import Mathlib.Data.Prod.Lex
import Mathlib.Data.String.Basic
import RemoteDebugger.Breakpoint.Registry

/-!
# Registries as finite maps

The order of keys is strict and total. A registry whose breakpoints are in that order holds one
breakpoint a key, so that it is a finite map, and two of them are equal if they find the same.
-/

namespace RemoteDebugger

/-! ### Keys -/

namespace Breakpoint

/-- A line by a number, no line first of all. -/
def lineRank : Option Nat → Nat
  | none   => 0
  | some n => n + 1

/-- What keys are ordered by. -/
def Key.rank (k : Key) : String ×ₗ ℕ ×ₗ Bool :=
  toLex (k.file, toLex (lineRank k.line, k.temporary))

lemma lineRank_injective : Function.Injective lineRank := by
  intro a b h
  cases a <;> cases b <;> simp_all [lineRank]

/-- The order of lines is that of numbers, with no line before the first one. -/
lemma lineBefore_iff (a b : Option Nat) : lineBefore a b ↔ lineRank a < lineRank b := by
  cases a <;> cases b <;> simp [lineBefore, lineRank]

/-- The order of keys is the lexicographic order of their ranks, so it is a strict total
order. -/
lemma Key.before_iff (a b : Key) : a.before b ↔ a.rank < b.rank := by
  simp only [before, rank, Prod.Lex.toLex_lt_toLex, lineBefore_iff, Bool.lt_iff, Bool.or_eq_true,
    Bool.and_eq_true, decide_eq_true_iff, beq_iff_eq, Bool.not_eq_true',
      lineRank_injective.eq_iff]

/-- A key is known by its rank. -/
lemma Key.rank_injective : Function.Injective Key.rank := by
  rintro ⟨file, line, temporary⟩ ⟨file', line', temporary'⟩ h
  obtain ⟨hfile, hrest⟩ := Prod.mk.inj (toLex.injective h)
  obtain ⟨hline, htemporary⟩ := Prod.mk.inj (toLex.injective hrest)
  rw [Key.mk.injEq]
  exact ⟨hfile, lineRank_injective hline, htemporary⟩

lemma Key.before_trans {a b c : Key} (h : a.before b) (h' : b.before c) : a.before c := by
  rw [before_iff] at h h' ⊢
  exact h.trans h'

lemma Key.not_before_self (a : Key) : ¬ a.before a := by
  rw [before_iff]
  exact lt_irrefl _

lemma Key.before_of_not_before {a b : Key} (h : ¬ a.before b) (hne : a ≠ b) : b.before a := by
  rw [before_iff] at h ⊢
  exact lt_of_le_of_ne (not_lt.mp h) fun heq => hne (rank_injective heq).symm

/-- The order of breakpoints. -/
def Precedes (b c : Breakpoint) : Prop := b.key.before c.key

instance : DecidableRel Precedes := fun b c => inferInstanceAs (Decidable (b.key.before c.key))

instance : Std.Irrefl Precedes := ⟨fun b => Key.not_before_self b.key⟩

instance : Std.Antisymm Precedes :=
  ⟨fun b _ h h' => absurd (Key.before_trans h h') (Key.not_before_self b.key)⟩

end Breakpoint

/-! ### Registries -/

namespace Registry

open Breakpoint

variable {r r' : Registry} {b : Breakpoint} {k : Key}

/-- The breakpoints are in the order of their keys. -/
def IsSorted (r : Registry) : Prop := r.entries.Pairwise Precedes

/-- To put a breakpoint in brings in no other one. -/
lemma mem_insertInto {cs : List Breakpoint} {c : Breakpoint} (h : c ∈ insertInto b cs) :
    c = b ∨ c ∈ cs := by
  induction cs with
  | nil => exact .inl (List.mem_singleton.mp h)
  | cons d ds ih =>
    rw [insertInto] at h
    split_ifs at h
    · exact List.mem_cons.mp h
    · exact (List.mem_cons.mp h).imp_right (List.mem_cons_of_mem d)
    · rcases List.mem_cons.mp h with rfl | h
      · exact .inr List.mem_cons_self
      · exact (ih h).imp_right (List.mem_cons_of_mem d)

/-- To put a breakpoint in where it belongs keeps the order. -/
lemma pairwise_insertInto {cs : List Breakpoint} (h : cs.Pairwise Precedes) :
    (insertInto b cs).Pairwise Precedes := by
  induction cs with
  | nil => exact List.pairwise_singleton _ _
  | cons d ds ih =>
    obtain ⟨hd, hds⟩ := List.pairwise_cons.mp h
    rw [insertInto]
    split_ifs with hbefore hkey
    · -- before all that are there
      refine List.pairwise_cons.mpr ⟨?_, h⟩
      intro c hc
      rcases List.mem_cons.mp hc with rfl | hc
      · exact hbefore
      · exact Key.before_trans hbefore (hd c hc)
    · -- in the place of one with its key
      refine List.pairwise_cons.mpr ⟨?_, hds⟩
      intro c hc
      rw [Precedes, hkey]
      exact hd c hc
    · -- further on
      refine List.pairwise_cons.mpr ⟨?_, ih hds⟩
      intro c hc
      rcases mem_insertInto hc with rfl | hc
      · exact Key.before_of_not_before hbefore hkey
      · exact hd c hc

lemma IsSorted.insert (h : r.IsSorted) (b : Breakpoint) :
    (r.insert b).IsSorted := pairwise_insertInto h

lemma IsSorted.erase (h : r.IsSorted) (k : Key) :
    (r.erase k).IsSorted := List.Pairwise.filter _ h

lemma IsSorted.removeFile (h : r.IsSorted) (file : String) : (r.removeFile file).2.IsSorted :=
  List.Pairwise.filter _ h

lemma find?_cons_key (c : Breakpoint) (cs : List Breakpoint) (k : Key) :
    (c :: cs).find? (·.key == k) = if c.key = k then some c else cs.find? (·.key == k) := by
  by_cases hk : c.key = k <;> simp [hk]

/-- What is put in is found instead of what had its key. -/
lemma find?_insert (r : Registry) (b : Breakpoint) (k : Key) :
    (r.insert b).find? k = if b.key = k then some b else r.find? k := by
  show (insertInto b r.entries).find? _ = if b.key = k then some b else r.entries.find? _
  induction r.entries with
  | nil => exact find?_cons_key b [] k
  | cons d ds ih =>
    rw [insertInto]
    by_cases hbefore : b.key.before d.key
    · rw [if_pos hbefore, find?_cons_key]
    · rw [if_neg hbefore]
      by_cases hsame : b.key = d.key
      · rw [if_pos hsame, find?_cons_key, find?_cons_key, ← hsame]
        split_ifs <;> rfl
      · rw [if_neg hsame, find?_cons_key, find?_cons_key, ih]
        split_ifs with hd hb
        · exact absurd (hb.trans hd.symm) hsame
        · rfl
        · rfl
        · rfl

/-- What is left by its key is found as before, and what is not left is not found. -/
lemma find?_filter_key (q : Key → Bool) (cs : List Breakpoint) (k : Key) :
    (cs.filter fun c => q c.key).find? (·.key == k) = if q k then cs.find? (·.key == k)
      else none := by
  induction cs with
  | nil => simp
  | cons d ds ih =>
    rw [List.filter_cons, find?_cons_key]
    by_cases hk : d.key = k
    · subst hk
      by_cases hq : q d.key <;> simp [hq, ih]
    · by_cases hq : q d.key <;> simp [hq, hk, ih]

/-- A registry without a key finds nothing under it, and the rest as before. -/
lemma find?_erase (r : Registry) (k k' : Key) :
    (r.erase k).find? k' = if k' = k then none else r.find? k' := by
  rw [find?, erase, find?_filter_key (· != k)]
  by_cases hk : k' = k <;> simp [hk, find?]

/-- A registry without a file finds nothing of it, and the rest as before. -/
lemma find?_removeFile (r : Registry) (file : String) (k : Key) :
    (r.removeFile file).2.find? k = if k.file = file then none else r.find? k := by
  have hfilter := find?_filter_key (·.file != file) r.entries k
  rw [find?, removeFile]
  refine hfilter.trans ?_
  by_cases hfile : k.file = file <;> simp [hfile, find?]

/-- In an ordered registry each breakpoint is found under its key. -/
lemma IsSorted.find?_key (h : r.IsSorted) (hb : b ∈ r.entries) : r.find? b.key = some b := by
  obtain ⟨entries⟩ := r
  show entries.find? _ = some b
  induction entries with
  | nil => cases hb
  | cons d ds ih =>
    obtain ⟨hd, hds⟩ := List.pairwise_cons.mp h
    rw [find?_cons_key]
    rcases List.mem_cons.mp hb with rfl | hb
    · rw [if_pos rfl]
    · have hne : d.key ≠ b.key := by
        intro hsame
        have hself := hd b hb
        rw [Precedes, hsame] at hself
        exact Key.not_before_self _ hself
      rw [if_neg hne]
      exact ih hds hb

lemma IsSorted.mem_iff_find? (h : r.IsSorted) : b ∈ r.entries ↔ r.find? b.key = some b :=
  ⟨h.find?_key, List.mem_of_find?_eq_some⟩

/-- Registries that find the same are equal. -/
lemma IsSorted.ext (h : r.IsSorted) (h' : r'.IsSorted) (hfind : ∀ k, r.find? k = r'.find? k) :
    r = r' := by
  have hentries : r.entries = r'.entries := by
    refine List.Pairwise.eq_of_mem_iff h h' fun b => ?_
    rw [h.mem_iff_find?, h'.mem_iff_find?, hfind]
  cases r
  cases r'
  exact congrArg Registry.mk hentries

end Registry

end RemoteDebugger
