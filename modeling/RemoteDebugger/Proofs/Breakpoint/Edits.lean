import Mathlib.Data.Finset.Card
import Mathlib.Data.Set.Card
import Mathlib.Logic.Function.Basic
import RemoteDebugger.Proofs.Breakpoint.Registry
import RemoteDebugger.Session.Operation

/-!
# Edits of the registry

Whatever users put into a registry and take off it, under whatever names they spell, it is a
finite map from keys to conditions, and its breakpoints are those of the map in the order of
their keys.
-/

namespace RemoteDebugger

open Breakpoint

/-- What users do to a registry. Files are named as users spell them. -/
inductive Edit where
  | add (file : String) (line : Option Nat) (temporary : Bool) (condition : Option String)
  | remove (file : String) (line : Option Nat) (temporary : Bool) (condition : Option String)
  | removeFile (file : String)

/-- The registry after an edit in `directory`. -/
def Registry.edit (directory : String) (r : Registry) : Edit → Registry
  | .add file line temporary condition    =>
      (r.add (build directory file line temporary condition)).1
  | .remove file line temporary condition =>
      (r.remove (build directory file line temporary condition)).1
  | .removeFile file                      => (r.removeFile (FileName.canonical directory file)).2

/-- A map from the keys of breakpoints to their conditions. -/
abbrev Conditions := Key → Option (Option String)

/-- The map after an edit in `directory`. -/
def Conditions.edit (directory : String) (m : Conditions) : Edit → Conditions
  | .add file line temporary condition =>
    Function.update m ⟨FileName.canonical directory file, line, temporary⟩ (some condition)
  | .remove file line temporary _ =>
      Function.update m ⟨FileName.canonical directory file, line, temporary⟩ none
  | .removeFile file => fun k => if k.file = FileName.canonical directory file then none else m k

/-- The breakpoint with a key and a condition. -/
def Breakpoint.Key.entry (k : Key) (condition : Option String) : Breakpoint :=
  { file := k.file, line := k.line, temporary := k.temporary, condition }

/-- The breakpoints of a map, each once, by file, then by line, no line first, then lasting ones
first. -/
structure Lists (bs : List Breakpoint) (m : Conditions) : Prop where
  mem_iff : ∀ k condition, k.entry condition ∈ bs ↔ m k = some condition
  increasing : bs.Pairwise fun b c => b.key.rank < c.key.rank

namespace Registry

variable {r : Registry} {directory : String}

/-- The map that a registry stands for. -/
def conditions (r : Registry) : Conditions := fun k => (r.find? k).map (·.condition)

lemma eq_entry_of_find? {k : Key} {b : Breakpoint} (h : r.find? k = some b) :
    b = k.entry b.condition := by
  have hkey : b.key = k := by simpa using List.find?_some h
  rw [← hkey]
  rfl

/-- What a registry holds under a key is what its map says, with the key put back. -/
lemma find?_eq (r : Registry) (k : Key) : r.find? k = (r.conditions k).map k.entry := by
  rw [conditions]
  cases h : r.find? k with
  | none => rfl
  | some b => exact congrArg some (eq_entry_of_find? h)

/-- To remove a breakpoint gives back the condition that was kept, or fails and changes
nothing. -/
lemma remove_eq (r : Registry) (b : Breakpoint) : r.remove b = match r.conditions b.key with
    | some condition => (r.erase b.key, .ok (b.key.entry condition))
    | none           => (r, .error (.unknownBreakpoint b.display)) := by
  rw [remove, remove?, find?_eq]
  cases r.conditions b.key <;> rfl

lemma conditions_insert (r : Registry) (b : Breakpoint) :
    (r.insert b).conditions = Function.update r.conditions b.key (some b.condition) := by
  funext k
  rw [conditions, find?_insert, Function.update_apply]
  by_cases hk : k = b.key
  · -- the key that is put in
    rw [if_pos hk.symm, if_pos hk, Option.map_some]
  · -- any other key
    rw [if_neg (Ne.symm hk), if_neg hk, conditions]

lemma conditions_erase (r : Registry) (k : Key) :
    (r.erase k).conditions = Function.update r.conditions k none := by
  funext k'
  rw [conditions, find?_erase, Function.update_apply]
  split_ifs <;> rfl

lemma conditions_remove (r : Registry) (b : Breakpoint) :
    (r.remove b).1.conditions = Function.update r.conditions b.key none := by
  rw [remove_eq]
  split
  · exact conditions_erase r b.key
  · next h => rw [← h, Function.update_eq_self]

/-- What is left of a registry by its keys. -/
lemma conditions_filter (q : Key → Bool) (r : Registry) :
    conditions ⟨r.entries.filter fun b => q b.key⟩ = fun k =>
      if q k then r.conditions k else none := by
  funext k
  rw [conditions, find?, find?_filter_key]
  by_cases hk : q k
  · rw [if_pos hk, if_pos hk]
    rfl
  · rw [if_neg hk, if_neg hk, Option.map_none]

/-- Each edit does to the map of a registry what it does to the registry. -/
lemma conditions_edit (r : Registry) (e : Edit) :
    (r.edit directory e).conditions = r.conditions.edit directory e := by
  cases e with
  | add file line temporary condition => exact conditions_insert r _
  | remove file line temporary condition => exact conditions_remove r _
  | removeFile file =>
    have hfilter := conditions_filter (·.file != FileName.canonical directory file) r
    refine hfilter.trans (funext fun k => ?_)
    by_cases hk : k.file = FileName.canonical directory file <;> simp [Conditions.edit, hk]

/-- No edit disturbs the order. -/
lemma IsSorted.edit (h : r.IsSorted) (e : Edit) : (r.edit directory e).IsSorted := by
  cases e with
  | add file line temporary condition => exact h.insert _
  | remove file line temporary condition =>
    rw [Registry.edit, remove_eq]
    split
    · exact h.erase _
    · exact h
  | removeFile file => exact h.removeFile _

/-- A registry that was edited, and the map that was edited in the same way. -/
lemma IsSorted.foldl_edit (h : r.IsSorted) (directory : String) (edits : List Edit) :
    (edits.foldl (Registry.edit directory) r).IsSorted ∧
      (edits.foldl (Registry.edit directory) r).conditions
        = edits.foldl (Conditions.edit directory) r.conditions := by
  induction edits generalizing r with
  | nil => exact ⟨h, rfl⟩
  | cons e edits ih =>
    rw [List.foldl_cons, List.foldl_cons, ← conditions_edit]
    exact ih (h.edit e)

/-- An ordered registry lists its map: each key once, and in order. -/
lemma IsSorted.lists (h : r.IsSorted) : Lists r.entries r.conditions where
  mem_iff k condition := by
    rw [h.mem_iff_find?, find?_eq]
    show (r.conditions k).map k.entry = some (k.entry condition) ↔
      r.conditions k = some condition
    simp [Key.entry]
  increasing := h.imp fun {b c} hbc => (Key.before_iff b.key c.key).mp hbc

/-- What is taken off with a file is what the map has for that file. -/
lemma IsSorted.lists_removeFile (h : r.IsSorted) (file : String) :
    Lists (r.removeFile file).1 fun k => if k.file = file then r.conditions k else none := by
  have hsorted : IsSorted ⟨(r.removeFile file).1⟩ := List.Pairwise.filter _ h
  have hfilter := conditions_filter (·.file == file) r
  have hlists := hsorted.lists
  simp only [beq_iff_eq] at hfilter
  exact hfilter ▸ hlists

/-- A registry holds as many breakpoints as its map has keys. -/
lemma IsSorted.size_eq (h : r.IsSorted) : r.size = {k | r.conditions k ≠ none}.ncard := by
  -- the order is strict, so no key stands twice
  have hnodup : (r.entries.map key).Nodup := by
    rw [List.Nodup, List.pairwise_map]
    refine h.imp fun {b c} hbc hsame => ?_
    rw [Precedes, hsame] at hbc
    exact Key.not_before_self c.key hbc
  have hkeys : {k | r.conditions k ≠ none} = ↑(r.entries.map key).toFinset := by
    ext k
    simp only [Set.mem_ofPred_eq, Finset.mem_coe, List.mem_toFinset, List.mem_map, ne_eq,
      Option.ne_none_iff_exists', ← h.lists.mem_iff]
    constructor
    · rintro ⟨condition, hmem⟩
      exact ⟨_, hmem, rfl⟩
    · rintro ⟨b, hmem, rfl⟩
      exact ⟨b.condition, hmem⟩
  rw [hkeys, Set.ncard_coe_finset, List.toFinset_card_of_nodup hnodup, List.length_map]
  rfl

/-- Registries that stand for the same map are equal. -/
lemma IsSorted.eq_of_conditions {r' : Registry} (h : r.IsSorted) (h' : r'.IsSorted)
    (hsame : r.conditions = r'.conditions) : r = r' :=
  h.ext h' fun k => by rw [find?_eq, find?_eq, hsame]

/-- A row of breakpoints that is put in overwrites the map one after the other. -/
lemma conditions_foldl_insert (r : Registry) (bs : List Breakpoint) :
    (bs.foldl Registry.insert r).conditions
    = bs.foldl (fun (m : Conditions) b => Function.update m b.key (some b.condition))
      r.conditions := by
  induction bs generalizing r with
  | nil => rfl
  | cons b bs ih => rw [List.foldl_cons, List.foldl_cons, ih, conditions_insert]

lemma IsSorted.foldl_insert (h : r.IsSorted) (bs : List Breakpoint) :
    (bs.foldl Registry.insert r).IsSorted := by
  induction bs generalizing r with
  | nil => exact h
  | cons b bs ih => exact ih (h.insert b)

/-- Breakpoints with different keys can be put in in any order. -/
lemma IsSorted.foldl_insert_perm (h : r.IsSorted) {bs bs' : List Breakpoint}
    (hperm : bs.Perm bs') (hkeys : (bs.map key).Nodup) :
    bs.foldl Registry.insert r = bs'.foldl Registry.insert r := by
  refine (h.foldl_insert bs).eq_of_conditions (h.foldl_insert bs') ?_
  rw [conditions_foldl_insert, conditions_foldl_insert]
  refine hperm.foldl_eq' (fun b hb c hc m => ?_) _
  by_cases hsame : b.key = c.key
  · rw [List.inj_on_of_nodup_map hkeys hb hc hsame]
  · exact Function.update_comm hsame _ _ m

/-- A registry is a finite map from keys to conditions, under all edits. What is put in is new if
there is nothing with its key, what is taken off is given back as it was kept, and the
breakpoints are those of the map in order, whatever led to it. -/
theorem edited_as_map (directory : String) (edits : List Edit) :
    let r := edits.foldl (Registry.edit directory) {}
    let m : Conditions := edits.foldl (Conditions.edit directory) fun _ => none
    (∀ file line temporary condition,
      let b := build directory file line temporary condition
      let k : Key := ⟨FileName.canonical directory file, line, temporary⟩
      ((r.add b).2 ↔ m k = none) ∧ Lists (r.add b).1.all (Function.update m k (some condition)) ∧
        (∀ kept, m k = some kept →
          (r.remove b).2 = .ok (k.entry kept) ∧
            Lists (r.remove b).1.all (Function.update m k none)) ∧
        (m k = none → r.remove b = (r, .error (.unknownBreakpoint b.display))) ∧
        (r.contains b.key ↔ m k ≠ none)) ∧
      (∀ file, let file' := FileName.canonical directory file
        Lists (r.removeFile file').1 (fun k => if k.file = file' then m k else none) ∧
          Lists (r.removeFile file').2.all (fun k => if k.file = file' then none else m k)) ∧
      Lists r.all m ∧ r.size = {k | m k ≠ none}.ncard ∧
      (∀ edits' : List Edit, edits'.foldl (Conditions.edit directory) (fun _ => none) = m →
        (edits'.foldl (Registry.edit directory) {}).all = r.all) ∧
      ∀ bs bs' : List Breakpoint, bs.Perm bs' → (bs.map key).Nodup →
        (bs.foldl (fun r b => (r.add b).1) r).all
          = (bs'.foldl (fun r b => (r.add b).1) r).all := by
  intro r m
  have hempty : IsSorted {} := List.Pairwise.nil
  obtain ⟨hsorted, hconditions⟩ : r.IsSorted ∧ r.conditions = m :=
    hempty.foldl_edit directory edits
  have hedit : ∀ e, Lists (r.edit directory e).all (m.edit directory e) := by
    intro e
    rw [← hconditions, ← conditions_edit]
    exact (hsorted.edit e).lists
  refine ⟨fun file line temporary condition => ?_, fun file => ⟨?_, hedit (.removeFile file)⟩,
    hconditions ▸ hsorted.lists, hconditions ▸ hsorted.size_eq, ?_, ?_⟩
  · -- one breakpoint: put in, taken off, looked for
    intro b k
    have hremove := remove_eq r b
    have hk : r.conditions b.key = m k := congrFun hconditions k
    have hcontains : r.contains b.key = (m k).isSome := by
      rw [contains, find?_eq, hk, Option.isSome_map]
    rw [hk] at hremove
    refine ⟨?_, hedit (.add file line temporary condition), ?_, ?_, ?_⟩
    · rw [add, hcontains]
      cases m k <;> simp
    · intro kept hkept
      refine ⟨?_, hedit (.remove file line temporary condition)⟩
      rw [hremove, hkept]
      rfl
    · intro hnone
      rw [hremove, hnone]
    · rw [hcontains]
      cases m k <;> simp
  · exact hconditions ▸ hsorted.lists_removeFile (FileName.canonical directory file)
  · -- two ways to the same map
    intro edits' hsame
    obtain ⟨hsorted', hconditions'⟩ := hempty.foldl_edit directory edits'
    exact congrArg all
      (hsorted'.eq_of_conditions hsorted (hconditions'.trans (hsame.trans hconditions.symm)))
  · -- a row of breakpoints in two orders
    intro bs bs' hperm hkeys
    exact congrArg all (hsorted.foldl_insert_perm hperm hkeys)

/-- A condition that is replaced, a file spelled in two ways, and a file that is given up. -/
def scribbles : List Edit :=
  [.add "b.py" (some 2) false none, .add "/a.py" (some 9) true none,
    .add "./a.py" none false (some "x"),
    .add "/lib/../a.py" none false (some "y"), .removeFile "/b.pyc",
    .add "/a.py" (some 9) false none]

/-- One spelling replaces the condition of another one, a file that was given up holds nothing
any more, and two new breakpoints may come in any order. -/
theorem edited_as_map_scribbles :
    let r := scribbles.foldl (Registry.edit "/") {}
    let m : Conditions := scribbles.foldl (Conditions.edit "/") fun _ => none
    let b := build "/" "b.py" (some 2)
    let c := build "/" "c.py" none true (some "x")
    m ⟨"/a.py", none, false⟩ = some (some "y") ∧
      (r.remove (build "/" "a.pyo" none false (some "z"))).2
        = .ok (build "/" "a.py" none false (some "y")) ∧
      m ⟨"/b.py", some 2, false⟩ = none ∧
        r.remove b = (r, .error (.unknownBreakpoint b.display)) ∧
      ([b, c].map key).Nodup ∧ ((r.add b).1.add c).1.all = ((r.add c).1.add b).1.all := by
  intro r m b c
  obtain ⟨hkeyed, -, -, -, -, horder⟩ := edited_as_map "/" scribbles
  have hfile : FileName.canonical "/" "a.pyo" = "/a.py" := by decide +kernel
  have hfile' : FileName.canonical "/" "b.py" = "/b.py" := by decide +kernel
  have hkept : m ⟨"/a.py", none, false⟩ = some (some "y") := by decide +kernel
  have hnone : m ⟨"/b.py", some 2, false⟩ = none := by decide +kernel
  have hdistinct : ([b, c].map key).Nodup := by decide +kernel
  obtain ⟨-, -, htaken, -⟩ := hkeyed "a.pyo" none false (some "z")
  obtain ⟨-, -, -, hmissed, -⟩ := hkeyed "b.py" (some 2) false none
  have htakes := (htaken (some "y") (hfile ▸ hkept)).1
  refine ⟨hkept, htakes.trans ?_, hnone, hmissed (hfile' ▸ hnone), hdistinct,
    horder [b, c] [c, b] (List.Perm.swap c b []) hdistinct⟩
  rfl

end Registry

end RemoteDebugger
