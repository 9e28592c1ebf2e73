import Mathlib.Data.List.Infix
import Mathlib.Logic.Relation
import RemoteDebugger.Breakpoint.FileName

/-!
# Canonical file names

The name that a file is known by is the path of a walk from the root that goes down only, to a
source file. It stays the same if it is made canonical once more, in whatever directory, and
names that differ in detours, slashes and where they begin are known by the same one.
-/

namespace RemoteDebugger

lemma pieces_eq_splitOn (sep : Char) (cs : List Char) : pieces sep cs = cs.splitOn sep := by
  induction cs with
  | nil => rfl
  | cons c cs ih =>
    rw [pieces, List.splitOn_cons_eq_if_modifyHead, ih]
    by_cases hc : c = sep
    · rw [if_pos hc, if_pos (beq_iff_eq.mpr hc)]
    · rw [if_neg hc, if_neg (by simpa using hc)]
      cases h : cs.splitOn sep with
      | nil => exact absurd h (List.splitOn_ne_nil _ _)
      | cons p ps => rfl

/-- No piece of a text has the separator in it. -/
lemma not_mem_of_mem_pieces {sep : Char} {cs p : List Char} (h : p ∈ pieces sep cs) :
    sep ∉ p := by
  induction cs generalizing p with
  | nil =>
    cases List.mem_singleton.mp h
    exact List.not_mem_nil
  | cons c cs ih =>
    rw [pieces] at h
    split_ifs at h with hc
    · rcases List.mem_cons.mp h with rfl | h
      · exact List.not_mem_nil
      · exact ih h
    · cases hps : pieces sep cs with
      | nil =>
        rw [hps] at h
        cases List.mem_singleton.mp h
        exact List.not_mem_cons_of_ne_of_not_mem (Ne.symm hc) List.not_mem_nil
      | cons q qs =>
        rw [hps] at h ih
        rcases List.mem_cons.mp h with rfl | h
        · exact List.not_mem_cons_of_ne_of_not_mem (Ne.symm hc) (ih List.mem_cons_self)
        · exact ih (List.mem_cons_of_mem q h)

namespace FileName

/-! ### Walks -/

/-- A name that leads one step down. -/
structure IsName (x : List Char) : Prop where
  ne_nil : x ≠ []
  no_slash : '/' ∉ x
  ne_here : x ≠ ['.']
  ne_up : x ≠ ['.', '.']

/-- The directories that lead to a place, the innermost first, after a path from there. -/
def walk (trail : List (List Char)) (path : List Char) :
    List (List Char) := (pieces '/' path).foldl enter trail

/-- A name leads one step down. -/
lemma enter_name {x : List Char} (h : IsName x) (trail : List (List Char)) :
    enter trail x = x :: trail := by
  rw [enter, if_neg (by simp [h.ne_nil, h.ne_here]), if_neg h.ne_up]

/-- A path is walked segment by segment. -/
lemma walk_append_slash (trail : List (List Char)) (p q : List Char) :
    walk trail (p ++ '/' :: q) = walk (walk trail p) q := by
  simp only [walk, pieces_eq_splitOn, List.splitOn_append_cons_self, List.foldl_append]

/-- Slashes at the head of a path lead nowhere. -/
lemma walk_slash (trail : List (List Char)) (q : List Char) :
    walk trail ('/' :: q) = walk trail q :=
  walk_append_slash trail [] q

lemma walk_name {x : List Char} (h : IsName x) (trail : List (List Char)) :
    walk trail x = x :: trail := by
  rw [walk, pieces_eq_splitOn, List.splitOn_eq_singleton h.no_slash]
  exact enter_name h trail

lemma walk_up (trail : List (List Char)) : walk trail ['.', '.'] = trail.tail := rfl

/-- From the root, a path of names leads to the last of them. -/
lemma walk_absolute {names : List (List Char)} (h : ∀ x ∈ names, IsName x) :
    walk [] (absolute names) = names.reverse := by
  have hfold : ∀ trail, names.foldl enter trail = names.reverse ++ trail := by
    induction names with
    | nil => exact fun _ => rfl
    | cons x xs ih =>
      obtain ⟨hx, hxs⟩ := List.forall_mem_cons.mp h
      intro trail
      rw [List.foldl_cons, enter_name hx, ih hxs, List.reverse_cons, List.append_assoc]
      rfl
  rw [absolute, walk_slash]
  by_cases hnames : names = []
  · rw [hnames]
    rfl
  · have hslash : ∀ x ∈ names, '/' ∉ x := fun x hx => (h x hx).no_slash
    rw [walk, pieces_eq_splitOn, List.splitOn_intercalate '/' hslash hnames, hfold,
      List.append_nil]

/-- Only names are left of a walk. -/
lemma isName_of_mem_walk {trail : List (List Char)} (htrail : ∀ x ∈ trail, IsName x)
    (path : List Char) :
    ∀ x ∈ walk trail path, IsName x := by
  have hslash : ∀ p ∈ pieces '/' path, '/' ∉ p := fun p hp => not_mem_of_mem_pieces hp
  rw [walk]
  generalize pieces '/' path = ps at hslash
  induction ps generalizing trail with
  | nil => exact htrail
  | cons p ps ih =>
    obtain ⟨hp, hps⟩ := List.forall_mem_cons.mp hslash
    refine ih ?_ hps
    intro x hx
    rw [enter] at hx
    split_ifs at hx with hidle hup
    · exact htrail x hx
    · exact htrail x (List.mem_of_mem_tail hx)
    · rw [not_or] at hidle
      rcases List.mem_cons.mp hx with rfl | hx
      · exact ⟨hidle.1, hp, hidle.2, hup⟩
      · exact htrail x hx

/-! ### Normal names -/

/-- A path from the root that goes down only, and to no compiled file. -/
structure IsNormal (path : List Char) : Prop where
  names : ∃ names, (∀ x ∈ names, IsName x) ∧ path = '/' :: ['/'].intercalate names
  not_compiled : ¬ ".pyc".toList <:+ path
  not_optimized : ¬ ".pyo".toList <:+ path

/-- The path of names ends with the last of them, after a slash. -/
lemma absolute_concat (names : List (List Char)) (x : List Char) :
    absolute (names ++ [x]) = names.flatMap ('/' :: ·) ++ '/' :: x := by
  induction names with
  | nil => simp [absolute]
  | cons name names ih =>
    have hcons : absolute (name :: (names ++ [x]))
        = '/' :: (name ++ absolute (names ++ [x])) := by
      cases names <;> simp [absolute, List.intercalate_cons_cons]
    rw [List.cons_append, hcons, ih, List.flatMap_cons]
    simp

/-- A path to a compiled file. -/
def IsCompiled (path : List Char) : Prop := ".pyc".toList <:+ path ∨ ".pyo".toList <:+ path

instance (path : List Char) : Decidable (IsCompiled path) := inferInstanceAs (Decidable (_ ∨ _))

/-- The source of a compiled file has the same path without its last character. -/
lemma source_eq (path : List Char) :
    source path = if IsCompiled path then path.dropLast else path := by
  rw [source]
  refine if_congr ?_ rfl rfl
  rw [Bool.or_eq_true, List.isSuffixOf_iff_suffix, List.isSuffixOf_iff_suffix]
  rfl

lemma isCompiled_iff {path : List Char} :
    IsCompiled path ↔ ∃ stem, path = stem ++ ".pyc".toList ∨ path = stem ++ ".pyo".toList := by
  rw [exists_or]
  exact or_congr (exists_congr fun _ => eq_comm) (exists_congr fun _ => eq_comm)

/-- Whether a file is compiled is a matter of the last name of its path. -/
lemma isCompiled_of_concat {names : List (List Char)} {x : List Char}
    (h : IsCompiled (absolute (names ++ [x]))) : IsCompiled x := by
  have hlast : '/' :: x <:+ absolute (names ++ [x]) := by
    rw [absolute_concat]
    exact List.suffix_append _ _
  have hname : ∀ {ext : List Char}, '/' ∉ ext → ext ≠ [] → ext <:+ absolute (names ++ [x]) →
      ext <:+ x := by
    intro ext hslash hne hext
    rcases List.suffix_or_suffix_of_suffix hext hlast with h | h
    · rcases List.suffix_cons_iff.mp h with rfl | h
      · exact absurd List.mem_cons_self hslash
      · exact h
    · exact absurd (h.subset List.mem_cons_self) hslash
  exact h.imp (hname (by decide) (by decide)) (hname (by decide) (by decide))

/-- A source file is not a compiled one. -/
lemma not_isCompiled_py (stem : List Char) : ¬ IsCompiled (stem ++ ".py".toList) := by
  rw [isCompiled_iff]
  rintro ⟨base, h | h⟩ <;> simpa using congrArg List.getLast? h

/-- The source of a compiled file is a file beside it. -/
lemma source_absolute_concat {x : List Char} (hx : IsName x) (hcompiled : IsCompiled x) :
    ∃ stem, IsName (stem ++ ".py".toList) ∧
      ∀ names, source (absolute (names ++ [x]))
        = absolute (names ++ [stem ++ ".py".toList]) := by
  obtain ⟨stem, c, rfl, hext⟩ : ∃ stem c, x = stem ++ (".py".toList ++ [c]) ∧
      IsCompiled (".py".toList ++ [c]) := by
    obtain ⟨stem, rfl | rfl⟩ := isCompiled_iff.mp hcompiled
    · exact ⟨stem, 'c', rfl, by decide⟩
    · exact ⟨stem, 'o', rfl, by decide⟩
  refine ⟨stem, ⟨by simp, ?_, ?_, ?_⟩, fun names => ?_⟩
  · exact fun h => hx.no_slash (List.mem_append_left _ (by simpa using h))
  · exact fun h => by simpa using congrArg List.getLast? h
  · exact fun h => by simpa using congrArg List.getLast? h
  -- the last character of the path is that of the last name, and it is what goes
  · have hpath : absolute (names ++ [stem ++ (".py".toList ++ [c])])
        = absolute (names ++ [stem ++ ".py".toList]) ++ [c] := by
      rw [absolute_concat, absolute_concat]
      simp
    have hends : IsCompiled (absolute (names ++ [stem ++ (".py".toList ++ [c])])) := by
      rw [absolute_concat]
      have hsuffix : ".py".toList ++ [c] <:+ names.flatMap ('/' :: ·) ++ '/' ::
          (stem ++ (".py".toList ++ [c])) :=
        ⟨names.flatMap ('/' :: ·) ++ '/' :: stem, by simp⟩
      exact hext.imp (·.trans hsuffix) (·.trans hsuffix)
    rw [source_eq, if_pos hends, hpath, List.dropLast_concat]

/-- The source of a file is known by a normal name. -/
lemma isNormal_source {names : List (List Char)} (h : ∀ x ∈ names, IsName x) :
    IsNormal (source (absolute names)) := by
  by_cases hcompiled : IsCompiled (absolute names)
  · obtain rfl | ⟨init, x, rfl⟩ := List.eq_nil_or_concat names
    · exact absurd hcompiled (by decide)
    · rw [List.concat_eq_append] at h hcompiled ⊢
      have hx : IsName x := h x (by simp)
      obtain ⟨stem, hstem, hsource⟩ := source_absolute_concat hx (isCompiled_of_concat hcompiled)
      have hpy : ¬ IsCompiled (absolute (init ++ [stem ++ ".py".toList])) :=
        fun hc => not_isCompiled_py stem (isCompiled_of_concat hc)
      rw [hsource]
      refine ⟨⟨_, ?_, rfl⟩, fun hc => hpy (.inl hc), fun hc => hpy (.inr hc)⟩
      intro y hy
      rcases List.mem_append.mp hy with hy | hy
      · exact h y (List.mem_append_left _ hy)
      · exact List.mem_singleton.mp hy ▸ hstem
  · rw [source_eq, if_neg hcompiled]
    exact ⟨⟨names, h, rfl⟩, fun hc => hcompiled (.inl hc), fun hc => hcompiled (.inr hc)⟩

/-! ### The canonical name -/

lemma canonical_of_isPseudo {directory name : String} (h : isPseudo name) :
    canonical directory name = name :=
  if_pos h

/-- The canonical name is the source at the end of the walk from the directory. -/
lemma toList_canonical {directory name : String} (h : isPseudo name = false) :
    (canonical directory name).toList
      = source (absolute (walk [] (fromDirectory directory.toList name.toList)).reverse) := by
  rw [canonical, if_neg (by rw [h]; decide), String.toList_ofList]
  rfl

/-- Wherever the walk leads, the canonical name is normal. -/
lemma isNormal_canonical {directory name : String} (h : isPseudo name = false) :
    IsNormal (canonical directory name).toList := by
  rw [toList_canonical h]
  apply isNormal_source
  intro x hx
  exact isName_of_mem_walk (fun _ h => absurd h List.not_mem_nil) _ x (List.mem_reverse.mp hx)

/-- A normal name is canonical, in whatever directory. -/
lemma canonical_of_isNormal {name : String} (h : IsNormal name.toList) (directory : String) :
    canonical directory name = name := by
  obtain ⟨names, hnames, hpath⟩ := h.names
  have hpseudo : isPseudo name = false := by rw [isPseudo, hpath]; rfl
  have hcompiled : ¬ IsCompiled name.toList := not_or.mpr ⟨h.not_compiled, h.not_optimized⟩
  have habsolute : name.toList = absolute names := hpath
  have hfrom : fromDirectory directory.toList name.toList = absolute names := by
    rw [fromDirectory, habsolute]
    rfl
  rw [← String.toList_inj, toList_canonical hpseudo, hfrom, walk_absolute hnames,
    List.reverse_reverse, ← habsolute, source_eq, if_neg hcompiled]

/-! ### Spellings of one name -/

/-- Segments that lead nowhere: none between two slashes, the place itself, or a name that is
left at once. -/
inductive IsIdle : List Char → Prop
  | empty : IsIdle []
  | here : IsIdle ['.']
  | detour {x : List Char} (hx : IsName x) : IsIdle (x ++ "/..".toList)

/-- An idle segment leads nowhere. -/
lemma walk_idle {d : List Char} (h : IsIdle d) (trail : List (List Char)) :
    walk trail d = trail := by
  cases h with
  | empty => rfl
  | here => rfl
  | @detour x hx =>
    have hpath : x ++ "/..".toList = x ++ '/' :: ['.', '.'] := rfl
    rw [hpath, walk_append_slash, walk_name hx, walk_up, List.tail_cons]

/-- A name and another spelling of it: with idle segments where it begins, between two segments
or where it ends, from the directory, or with a step up from the root. -/
inductive Respelling (directory : List Char) : List Char → List Char → Prop
  | first {d q : List Char} (hd : IsIdle d) (hne : d ≠ []) (hq : q.head? ≠ some '/') :
      Respelling directory q (d ++ '/' :: q)
  | between {d : List Char} (p q : List Char) (hd : IsIdle d) :
      Respelling directory (p ++ '/' :: q) (p ++ '/' :: (d ++ '/' :: q))
  | last {d p : List Char} (hd : IsIdle d) (hp : p ≠ []) : Respelling directory p (p ++ '/' :: d)
  | fromDirectory {p : List Char} (hp : p.head? ≠ some '/') :
      Respelling directory p (directory ++ '/' :: p)
  | aboveRoot (q : List Char) : Respelling directory ('/' :: q) ("/../".toList ++ q)

/-- Where the walk to a file begins: at the root, or in the directory. -/
lemma walk_fromDirectory (directory path : List Char) :
    walk [] (FileName.fromDirectory directory path)
    = walk (if path.head? = some '/' then [] else walk [] directory) path := by
  rw [FileName.fromDirectory]
  split_ifs
  · rfl
  · exact walk_append_slash [] directory path

/-- An idle segment does not begin at the root. -/
lemma IsIdle.head?_ne {d : List Char} (h : IsIdle d) (hne : d ≠ []) (q : List Char) :
    (d ++ q).head? ≠ some '/' := by
  cases h with
  | empty => exact absurd rfl hne
  | here => simp
  | @detour x hx =>
    obtain ⟨c, cs, rfl⟩ := List.exists_cons_of_ne_nil hx.ne_nil
    intro hc
    exact hx.no_slash (List.mem_cons.mpr (.inl (Option.some.inj hc).symm))

/-- Spellings of one name lead to the same file. -/
lemma walk_respelling {directory p q : List Char} (hdirectory : directory.head? = some '/')
    (h : Respelling directory p q) :
    walk [] (FileName.fromDirectory directory p)
      = walk [] (FileName.fromDirectory directory q) := by
  rw [walk_fromDirectory, walk_fromDirectory]
  cases h with
  | @first d q hd hne hq =>
    rw [if_neg hq, if_neg (hd.head?_ne hne _), walk_append_slash, walk_idle hd]
  | @between d p q hd =>
    have hhead : ∀ r, (p ++ '/' :: r).head? = (p ++ ['/']).head? := by
      cases p <;> exact fun _ => rfl
    rw [hhead q, hhead (d ++ '/' :: q), walk_append_slash, walk_append_slash,
      walk_append_slash, walk_idle hd]
  | @last d p hd hp =>
    have hhead : (p ++ '/' :: d).head? = p.head? := List.head?_append_of_ne_nil _ hp
    rw [hhead, walk_append_slash, walk_idle hd]
  | @fromDirectory p hp =>
    have hhead : (directory ++ '/' :: p).head? = some '/' := by
      rw [List.head?_append, hdirectory]
      rfl
    rw [if_neg hp, if_pos hhead, walk_append_slash]
  | aboveRoot q =>
    have hup : "/../".toList ++ q = '/' :: (['.', '.'] ++ '/' :: q) := rfl
    rw [hup, List.head?_cons, List.head?_cons, if_pos rfl, walk_slash, walk_slash,
      walk_append_slash, walk_up, List.tail_nil]

/-- All spellings that can be turned into each other have one canonical name. -/
lemma canonical_respelled {directory p q : String}
    (hdirectory : directory.toList.head? = some '/')
    (h : Relation.EqvGen (Respelling directory.toList) p.toList q.toList)
    (hp : isPseudo p = false) (hq : isPseudo q = false) :
    canonical directory p = canonical directory q := by
  have hwalk : ∀ {a b}, Relation.EqvGen (Respelling directory.toList) a b →
      walk [] (fromDirectory directory.toList a)
        = walk [] (fromDirectory directory.toList b) := by
    intro a b hab
    induction hab with
    | rel a b h => exact walk_respelling hdirectory h
    | refl a => rfl
    | symm a b _ ih => exact ih.symm
    | trans a b c _ _ ih ih' => exact ih.trans ih'
  rw [← String.toList_inj, toList_canonical hp, toList_canonical hq, hwalk h]

/-- Names of code without a file are left alone. Every other name becomes a normal one, which
stays as it is in whatever directory it is made canonical again, and names that are spelled
differently become the same. -/
theorem canonical_names (directory : String) (hdirectory : directory.toList.head? = some '/')
    (name : String) :
    (isPseudo name → canonical directory name = name) ∧
      (¬ isPseudo name → IsNormal (canonical directory name).toList) ∧
      (∀ directory', canonical directory' (canonical directory name)
        = canonical directory name) ∧
      ∀ name', Relation.EqvGen (Respelling directory.toList) name.toList name'.toList →
        ¬ isPseudo name → ¬ isPseudo name' →
          canonical directory name = canonical directory name' := by
  refine ⟨canonical_of_isPseudo, fun h => isNormal_canonical (Bool.eq_false_iff.mpr h), ?_, ?_⟩
  · intro directory'
    cases h : isPseudo name with
    | true => rw [canonical_of_isPseudo h, canonical_of_isPseudo h]
    | false => exact canonical_of_isNormal (isNormal_canonical h) directory'
  · intro name' hspelled hname hname'
    exact canonical_respelled hdirectory hspelled (Bool.eq_false_iff.mpr hname)
      (Bool.eq_false_iff.mpr hname')

/-- A compiled file beside the directory, and the same file with a detour and more slashes. -/
theorem canonical_names_detoured :
    "/usr".toList.head? = some '/' ∧ ¬ isPseudo "../<x>/a.pyc" ∧
      ¬ isPseudo "/usr/b/../../<x>//a.pyc/" ∧
      canonical "/usr" "../<x>/a.pyc" = "/<x>/a.py" ∧
        IsNormal (canonical "/usr" "../<x>/a.pyc").toList ∧
      canonical "/usr" "../<x>/a.pyc" = canonical "/usr" "/usr/b/../../<x>//a.pyc/" := by
  have hroot : "/usr".toList.head? = some '/' := by decide
  have hname : ¬ isPseudo "../<x>/a.pyc" := by decide
  have hname' : ¬ isPseudo "/usr/b/../../<x>//a.pyc/" := by decide
  obtain ⟨-, hnormal, -, hspelled⟩ := canonical_names "/usr" hroot "../<x>/a.pyc"
  refine ⟨hroot, hname, hname', by decide +kernel, hnormal hname, hspelled _ ?_ hname hname'⟩
  have hb : IsName ['b'] := ⟨by decide, by decide, by decide, by decide⟩
  have hfrom : Respelling "/usr".toList "../<x>/a.pyc".toList "/usr/../<x>/a.pyc".toList :=
    .fromDirectory (by decide)
  have hdetour : Respelling "/usr".toList "/usr/../<x>/a.pyc".toList
      "/usr/b/../../<x>/a.pyc".toList :=
    .between "/usr".toList "../<x>/a.pyc".toList (.detour hb)
  have hslash : Respelling "/usr".toList "/usr/b/../../<x>/a.pyc".toList
      "/usr/b/../../<x>//a.pyc".toList :=
    .between "/usr/b/../../<x>".toList "a.pyc".toList .empty
  have hend : Respelling "/usr".toList "/usr/b/../../<x>//a.pyc".toList
      "/usr/b/../../<x>//a.pyc/".toList :=
    .last .empty (by decide)
  exact (((Relation.EqvGen.rel _ _ hfrom).trans _ _ _ (.rel _ _ hdetour)).trans _ _ _
    (.rel _ _ hslash)).trans _ _ _
    (.rel _ _ hend)

end FileName

end RemoteDebugger
