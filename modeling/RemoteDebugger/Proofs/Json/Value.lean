import Mathlib.Data.String.Basic
import Mathlib.Tactic.Common
import RemoteDebugger.Json.Value

/-!
# Members and nesting

An object has its members in increasing order of their keys, and a member that is put in takes
the place that its key has. A value whose objects have their members in any order, several of
them under one key, is `normal` once they are put in order. How deep arrays and objects are
nested is the `depth` of a value.
-/

namespace RemoteDebugger.Json

/-! ### Members in order -/

/-- The members come in strictly increasing order of their keys. -/
def Sorted (ms : Members) : Prop := ms.Pairwise fun a b => a.1 < b.1

lemma mem_insertMember {key : String} {value : Json} {ms : Members} {m : String × Json}
    (h : m ∈ insertMember key value ms) : m = (key, value) ∨ m ∈ ms := by
  induction ms with
  | nil => exact .inl (List.mem_singleton.mp h)
  | cons n ms ih =>
    rw [insertMember] at h
    split_ifs at h
    · exact List.mem_cons.mp h
    · rcases List.mem_cons.mp h with rfl | h
      · exact .inl rfl
      · exact .inr (List.mem_cons_of_mem n h)
    · rcases List.mem_cons.mp h with rfl | h
      · exact .inr List.mem_cons_self
      · exact (ih h).imp_right (List.mem_cons_of_mem n)

/-- A member that is put into a sorted object leaves it sorted. -/
lemma Sorted.insertMember {ms : Members} (h : Sorted ms) (key : String) (value : Json) :
    Sorted (insertMember key value ms) := by
  induction ms with
  | nil => exact List.pairwise_singleton _ _
  | cons m ms ih =>
    obtain ⟨hm, hms⟩ := List.pairwise_cons.mp h
    rw [Json.insertMember]
    split_ifs with hlt heq
    · refine List.pairwise_cons.mpr ⟨fun n hn => ?_, h⟩
      rcases List.mem_cons.mp hn with rfl | hn
      · exact hlt
      · exact lt_trans hlt (hm n hn)
    · subst heq
      exact List.pairwise_cons.mpr ⟨hm, hms⟩
    · refine List.pairwise_cons.mpr ⟨fun n hn => ?_, ih hms⟩
      rcases mem_insertMember hn with rfl | hn
      · exact lt_of_le_of_ne (not_lt.mp hlt) (Ne.symm heq)
      · exact hm n hn

/-- A member whose key is above all others goes to the end. -/
lemma insertMember_of_forall_lt {key : String} {ms : Members} (h : ∀ m ∈ ms, m.1 < key)
    (value : Json) : insertMember key value ms = ms ++ [(key, value)] := by
  induction ms with
  | nil => rfl
  | cons m ms ih =>
    obtain ⟨hm, hms⟩ := List.forall_mem_cons.mp h
    rw [insertMember, if_neg (lt_asymm hm), if_neg (ne_of_gt hm), ih hms, List.cons_append]

/-- Members that are in order are put in one after the other. -/
lemma foldl_insertMember {ns ms : Members} (h : Sorted (ns ++ ms)) :
    ms.foldl (fun sorted m => insertMember m.1 m.2 sorted) ns = ns ++ ms := by
  induction ms generalizing ns with
  | nil => simp
  | cons m ms ih =>
    have hlast : ∀ n ∈ ns, n.1 < m.1 :=
      fun n hn => (List.pairwise_append.mp h).2.2 n hn m List.mem_cons_self
    rw [List.foldl_cons, insertMember_of_forall_lt hlast, ih (by simpa using h)]
    simp

lemma sortMembers_of_sorted {ms : Members} (h : Sorted ms) : sortMembers ms = ms :=
  foldl_insertMember (by simpa using h)

lemma lookup_cons_eq_ite (k l : String) (v : Json) (ms : Members) :
    ((l, v) :: ms).lookup k = if k = l then some v else ms.lookup k := by
  by_cases h : k = l
  · subst h
    simp
  · simp [List.lookup_cons, beq_false_of_ne h, h]

/-- The last member put in under a key is the one that is found. -/
lemma lookup_insertMember (key k : String) (value : Json) (ms : Members) :
    (insertMember key value ms).lookup k = if k = key then some value else ms.lookup k := by
  induction ms with
  | nil => rw [insertMember, lookup_cons_eq_ite]
  | cons m ms ih =>
    obtain ⟨l, v⟩ := m
    rw [insertMember]
    by_cases hlt : key < l
    · rw [if_pos hlt, lookup_cons_eq_ite]
    · by_cases heq : key = l
      · subst heq
        rw [if_neg hlt, if_pos rfl, lookup_cons_eq_ite, lookup_cons_eq_ite]
        split_ifs <;> rfl
      · rw [if_neg hlt, if_neg heq, lookup_cons_eq_ite, lookup_cons_eq_ite, ih]
        by_cases hk : k = key
        · subst hk
          rw [if_neg heq, if_pos rfl, if_pos rfl]
        · rw [if_neg hk, if_neg hk]

/-- Of the members of one key the last is the one that is found. -/
lemma lookup_foldl_insertMember (k : String) (ms sorted : Members) :
    (ms.foldl (fun sorted m => insertMember m.1 m.2 sorted) sorted).lookup k
      = (ms.reverse.lookup k).or (sorted.lookup k) := by
  induction ms generalizing sorted with
  | nil => simp
  | cons m ms ih =>
    obtain ⟨l, v⟩ := m
    rw [List.foldl_cons, ih, lookup_insertMember, List.reverse_cons, List.lookup_append,
      lookup_cons_eq_ite]
    split_ifs <;> cases ms.reverse.lookup k <;> simp

/-- Of several members with one key the last one counts. -/
lemma lookup_sortMembers (k : String) (ms : Members) :
    (sortMembers ms).lookup k = ms.reverse.lookup k := by
  rw [sortMembers, lookup_foldl_insertMember]
  simp

lemma mem_of_mem_foldl_insertMember {ms sorted : Members} {m : String × Json}
    (h : m ∈ ms.foldl (fun sorted m => insertMember m.1 m.2 sorted) sorted) :
    m ∈ ms ∨ m ∈ sorted := by
  induction ms generalizing sorted with
  | nil => exact .inr h
  | cons n ms ih =>
    rcases ih h with h | h
    · exact .inl (List.mem_cons_of_mem n h)
    · rcases mem_insertMember h with rfl | h
      · exact .inl List.mem_cons_self
      · exact .inr h

lemma mem_of_mem_sortMembers {ms : Members} {m : String × Json} (h : m ∈ sortMembers ms) :
    m ∈ ms :=
  (mem_of_mem_foldl_insertMember h).resolve_right List.not_mem_nil

lemma sorted_foldl_insertMember {sorted : Members} (h : Sorted sorted) (ms : Members) :
    Sorted (ms.foldl (fun sorted m => insertMember m.1 m.2 sorted) sorted) := by
  induction ms generalizing sorted with
  | nil => exact h
  | cons m ms ih => exact ih (h.insertMember m.1 m.2)

lemma sorted_sortMembers (ms : Members) : Sorted (sortMembers ms) :=
  sorted_foldl_insertMember List.Pairwise.nil ms

/-! ### Values in order -/

mutual

/-- The members of all objects come in order, and all numbers are of one kind. -/
def Canonical (P : Number → Prop) : Json → Prop
  | .number n  => P n
  | .array xs  => CanonicalItems P xs
  | .object ms => Sorted ms ∧ CanonicalMembers P ms
  | _          => True

def CanonicalItems (P : Number → Prop) : List Json → Prop
  | []      => True
  | x :: xs => x.Canonical P ∧ CanonicalItems P xs

def CanonicalMembers (P : Number → Prop) : List (String × Json) → Prop
  | []           => True
  | (_, v) :: ms => v.Canonical P ∧ CanonicalMembers P ms

end

variable {P : Number → Prop}

lemma canonicalMembers_iff {ms : Members} :
    CanonicalMembers P ms ↔ ∀ m ∈ ms, m.2.Canonical P := by
  induction ms with
  | nil => simp [CanonicalMembers]
  | cons m ms ih => simp [CanonicalMembers, ih]

/-- An object is canonical if its members are, and if they are sorted. -/
lemma canonical_object {ms : Members} :
    (object ms).Canonical P ↔ Sorted ms ∧ ∀ m ∈ ms, m.2.Canonical P := by
  rw [Canonical, canonicalMembers_iff]

mutual

/-- The value with the members of all its objects in order, and of several under one key the last
one. -/
def normal : Json → Json
  | .array xs  => .array (normalItems xs)
  | .object ms => .object (sortMembers (normalMembers ms))
  | v          => v

/-- Items, each with the members of its objects in order. -/
def normalItems : List Json → List Json
  | []      => []
  | x :: xs => x.normal :: normalItems xs

/-- Members, each with the members of the objects of its value in order. -/
def normalMembers : List (String × Json) → List (String × Json)
  | []           => []
  | (k, v) :: ms => (k, v.normal) :: normalMembers ms

end

mutual

/-- A canonical value is its own normal form. -/
lemma normal_of_canonical (v : Json) (h : v.Canonical P) : v.normal = v := by
  match v with
  | .array xs => rw [normal, normalItems_of_canonical xs h]
  | .object ms => rw [normal, normalMembers_of_canonical ms h.2, sortMembers_of_sorted h.1]
  | .null | .bool _ | .number _ | .string _ => rfl

lemma normalItems_of_canonical (xs : List Json) (h : CanonicalItems P xs) :
    normalItems xs = xs := by
  match xs with
  | [] => rfl
  | x :: xs => rw [normalItems, normal_of_canonical x h.1, normalItems_of_canonical xs h.2]

lemma normalMembers_of_canonical (ms : Members) (h : CanonicalMembers P ms) :
    normalMembers ms = ms := by
  match ms with
  | [] => rfl
  | (k, v) :: ms =>
    rw [normalMembers, normal_of_canonical v h.1, normalMembers_of_canonical ms h.2]

end

/-- The value under a key of an object is the last one that was there, in order. -/
lemma lookup_sortMembers_normalMembers (k : String) (ms : Members) :
    (sortMembers (normalMembers ms)).lookup k = (ms.reverse.lookup k).map normal := by
  rw [lookup_sortMembers]
  induction ms with
  | nil => rfl
  | cons m ms ih =>
    obtain ⟨l, v⟩ := m
    rw [normalMembers, List.reverse_cons, List.reverse_cons, List.lookup_append,
      List.lookup_append, ih, lookup_cons_eq_ite, lookup_cons_eq_ite]
    cases ms.reverse.lookup k <;> split_ifs <;> rfl

/-! ### Depth -/

mutual

/-- How many arrays and objects are nested. -/
def depth : Json → Nat
  | .array xs  => itemsDepth xs + 1
  | .object ms => membersDepth ms + 1
  | _          => 0

def itemsDepth : List Json → Nat
  | []      => 0
  | x :: xs => max x.depth (itemsDepth xs)

def membersDepth : List (String × Json) → Nat
  | []           => 0
  | (_, v) :: ms => max v.depth (membersDepth ms)

end

lemma membersDepth_le_iff {ms : Members} {n : Nat} :
    membersDepth ms ≤ n ↔ ∀ m ∈ ms, m.2.depth ≤ n := by
  induction ms with
  | nil => simp [membersDepth]
  | cons m ms ih => simp [membersDepth, ih]

mutual

/-- A value does not get deeper by being normalized. -/
lemma depth_normal_le (v : Json) : v.normal.depth ≤ v.depth := by
  match v with
  | .array xs => exact Nat.succ_le_succ (itemsDepth_normalItems_le xs)
  | .object ms =>
    refine Nat.succ_le_succ (Nat.le_trans ?_ (membersDepth_normalMembers_le ms))
    exact membersDepth_le_iff.mpr fun m hm =>
      membersDepth_le_iff.mp le_rfl m (mem_of_mem_sortMembers hm)
  | .null | .bool _ | .number _ | .string _ => exact le_rfl

lemma itemsDepth_normalItems_le (xs : List Json) :
    itemsDepth (normalItems xs) ≤ itemsDepth xs := by
  match xs with
  | [] => exact le_rfl
  | x :: xs => exact max_le_max (depth_normal_le x) (itemsDepth_normalItems_le xs)

lemma membersDepth_normalMembers_le (ms : Members) :
    membersDepth (normalMembers ms) ≤ membersDepth ms := by
  match ms with
  | [] => exact le_rfl
  | (_, v) :: ms => exact max_le_max (depth_normal_le v) (membersDepth_normalMembers_le ms)

end

end RemoteDebugger.Json
