import RemoteDebugger.Json.Parser
import RemoteDebugger.Proofs.Json.Token
import RemoteDebugger.Proofs.Json.Value

/-!
# Values built from tokens

A row of tokens builds a value if and only if it is the row of a value that is nested no deeper
than `maxDepth`, whose objects may have their members in any order and several of them under one
key. The value that is built has them in order.
-/

namespace RemoteDebugger.Json

variable {P : Number → Prop}

/-! ### The tokens of a value -/

lemma itemTokens_cons_cons (x y : Json) (xs : List Json) :
    itemTokens (x :: y :: xs) = x.tokens ++ .comma :: itemTokens (y :: xs) := rfl

lemma memberTokens_cons_cons (k : String) (v : Json) (m : String × Json) (ms : Members) :
    memberTokens ((k, v) :: m :: ms)
      = .string k :: .colon :: v.tokens ++ .comma :: memberTokens (m :: ms) := rfl

/-- No item begins with the end of an array. -/
lemma foldlM_firstItem (x : Json) (xs : List Json) (o : List Level) :
    (itemTokens (x :: xs)).foldlM Reading.step? (.firstItem o)
      = (itemTokens (x :: xs)).foldlM Reading.step? (.value o) := by
  cases xs with
  | nil => cases x <;> simp [itemTokens, tokens, Reading.step?]
  | cons y ys =>
    rw [itemTokens_cons_cons]
    cases x <;> simp [tokens, Reading.step?]

mutual

/-- The tokens of a value put it, in order, where it belongs. -/
lemma foldlM_tokens (v : Json) (o : List Level) (hdepth : o.length + v.depth ≤ maxDepth) :
    v.tokens.foldlM Reading.step? (.value o) = Reading.put? v.normal o := by
  match v with
  | .null => simp [tokens, normal, Reading.step?, Reading.begin?]
  | .bool b => simp [tokens, normal, Reading.step?, Reading.begin?]
  | .number n => simp [tokens, normal, Reading.step?, Reading.begin?]
  | .string s => simp [tokens, normal, Reading.step?, Reading.begin?]
  | .array [] =>
    have ho : o.length < maxDepth := by simp only [depth] at hdepth; omega
    simp [tokens, itemTokens, normal, normalItems, Reading.step?, Reading.begin?, ho]
  | .array (x :: xs) =>
    have ho : o.length < maxDepth := by simp only [depth] at hdepth; omega
    have hitems := foldlM_itemTokens x xs [] o (by simp only [depth] at hdepth; omega)
    have hopen : (Reading.value o).step? .openArray = some (.firstItem (.array [] :: o)) := by
      simp [Reading.step?, Reading.begin?, ho]
    rw [tokens, List.cons_append, List.foldlM_cons, hopen]
    simp [foldlM_firstItem, hitems, normal, Reading.step?]
  | .object [] =>
    have ho : o.length < maxDepth := by simp only [depth] at hdepth; omega
    simp [tokens, memberTokens, normal, normalMembers, sortMembers, Reading.step?,
      Reading.begin?, ho]
  | .object ((k, w) :: ms) =>
    have ho : o.length < maxDepth := by simp only [depth] at hdepth; omega
    have hmembers := foldlM_memberTokens k w ms [] o true (by simp only [depth] at hdepth; omega)
    have hopen : (Reading.value o).step? .openObject = some (.key [] o true) := by
      simp [Reading.step?, Reading.begin?, ho]
    rw [tokens, List.cons_append, List.foldlM_cons, hopen]
    simp [hmembers, normal, sortMembers, Reading.step?]
termination_by sizeOf v

/-- The tokens of items put them into the array that is open. -/
lemma foldlM_itemTokens (x : Json) (xs acc : List Json) (o : List Level)
    (hdepth : o.length + 1 + itemsDepth (x :: xs) ≤ maxDepth) :
    (itemTokens (x :: xs)).foldlM Reading.step? (.value (.array acc :: o))
      = some (.next (.array ((normalItems (x :: xs)).reverse ++ acc) :: o)) := by
  have hx : x.tokens.foldlM Reading.step? (.value (.array acc :: o))
      = some (.next (.array (x.normal :: acc) :: o)) :=
    foldlM_tokens x (.array acc :: o) (by simp only [itemsDepth, List.length_cons] at *; omega)
  match xs with
  | [] => exact hx
  | y :: ys =>
    have hys := foldlM_itemTokens y ys (x.normal :: acc) o
      (by simp only [itemsDepth] at *; omega)
    rw [itemTokens_cons_cons, List.foldlM_append, hx]
    simp [normalItems, Reading.step?, hys]
termination_by sizeOf (x :: xs)

/-- The tokens of members put them into the object that is open. -/
lemma foldlM_memberTokens (k : String) (v : Json) (ms acc : Members) (o : List Level)
    (opened : Bool) (hdepth : o.length + 1 + membersDepth ((k, v) :: ms) ≤ maxDepth) :
    (memberTokens ((k, v) :: ms)).foldlM Reading.step? (.key acc o opened)
      = some (.next (.object ((normalMembers ((k, v) :: ms)).foldl
          (fun sorted m => insertMember m.1 m.2 sorted) acc) :: o)) := by
  have hv : v.tokens.foldlM Reading.step? (.value (.member acc k :: o))
      = some (.next (.object (insertMember k v.normal acc) :: o)) :=
    foldlM_tokens v (.member acc k :: o)
      (by simp only [membersDepth, List.length_cons] at *; omega)
  match ms with
  | [] => simp [memberTokens, normalMembers, Reading.step?, hv]
  | (l, w) :: ns =>
    have hns := foldlM_memberTokens l w ns (insertMember k v.normal acc) o false
      (by simp only [membersDepth] at *; omega)
    rw [memberTokens_cons_cons]
    simp only [List.cons_append, List.foldlM_cons, List.foldlM_append]
    simp [normalMembers, Reading.step?, hv, hns]
termination_by sizeOf ((k, v) :: ms)

end

/-- The tokens of a value are read as the value in order. -/
lemma ofTokens?_tokens {v : Json} (hdepth : v.depth ≤ maxDepth) :
    ofTokens? v.tokens = some v.normal := by
  have hread := foldlM_tokens v [] (by simpa using hdepth)
  rw [ofTokens?, hread]
  rfl

/-! ### What tokens build -/

/-- The tokens complete what was read so far to a value. -/
def Reading.Completes (r : Reading) (ts : List Token) (v : Json) : Prop :=
  ts.foldlM Reading.step? r = some (.complete v)

open Reading

/-- A text is completed one token at a time. -/
lemma completes_cons {r : Reading} {t : Token} {ts : List Token} {v : Json} :
    r.Completes (t :: ts) v ↔ ∃ r', r.step? t = some r' ∧ r'.Completes ts v := by
  rw [Completes, List.foldlM_cons]
  exact Option.bind_eq_some_iff

/-- After a value nothing may follow. -/
lemma completes_complete {v w : Json} {ts : List Token}
    (h : (Reading.complete v).Completes ts w) :
    ts = [] ∧ w = v := by
  cases ts with
  | nil =>
    cases h
    exact ⟨rfl, rfl⟩
  | cons t ts =>
    obtain ⟨r, hstep, -⟩ := completes_cons.mp h
    cases hstep

/-- After an item there is a comma and an item, or the end of the array. -/
lemma completes_next_array {xs : List Json} {o : List Level} {ts : List Token} {v : Json}
    (h : (next (.array xs :: o)).Completes ts v) :
    (∃ us, ts = .comma :: us ∧ (value (.array xs :: o)).Completes us v) ∨
      ∃ us r, ts = .closeArray :: us ∧ put? (.array xs.reverse) o = some r ∧
        r.Completes us v := by
  cases ts with
  | nil => cases h
  | cons t us =>
    obtain ⟨r, hstep, hrest⟩ := completes_cons.mp h
    cases t with
    | comma =>
      cases hstep
      exact .inl ⟨us, rfl, hrest⟩
    | closeArray => exact .inr ⟨us, r, rfl, hstep, hrest⟩
    | _ => cases hstep

/-- After a member there is a comma and a member, or the end of the object. -/
lemma completes_next_object {ms : Members} {o : List Level} {ts : List Token} {v : Json}
    (h : (next (.object ms :: o)).Completes ts v) :
    (∃ us, ts = .comma :: us ∧ (key ms o false).Completes us v) ∨
      ∃ us r, ts = .closeObject :: us ∧ put? (.object ms) o = some r ∧ r.Completes us v := by
  cases ts with
  | nil => cases h
  | cons t us =>
    obtain ⟨r, hstep, hrest⟩ := completes_cons.mp h
    cases t with
    | comma =>
      cases hstep
      exact .inl ⟨us, rfl, hrest⟩
    | closeObject => exact .inr ⟨us, r, rfl, hstep, hrest⟩
    | _ => cases hstep

/-- After the beginning of an array there is its end or an item. -/
lemma completes_firstItem {xs : List Json} {o : List Level} {ts : List Token} {v : Json}
    (h : (firstItem (.array xs :: o)).Completes ts v) :
    (∃ us r, ts = .closeArray :: us ∧ put? (.array xs.reverse) o = some r ∧ r.Completes us v) ∨
      (value (.array xs :: o)).Completes ts v := by
  cases ts with
  | nil => cases h
  | cons t us =>
    obtain ⟨r, hstep, hrest⟩ := completes_cons.mp h
    cases t with
    | closeArray => exact .inl ⟨us, r, rfl, hstep, hrest⟩
    | _ => exact .inr h

/-- After the beginning of an object there is its end or a member. -/
lemma completes_key_opened {ms : Members} {o : List Level} {ts : List Token} {v : Json}
    (h : (key ms o true).Completes ts v) :
    (∃ us r, ts = .closeObject :: us ∧ put? (.object ms) o = some r ∧ r.Completes us v) ∨
      (key ms o false).Completes ts v := by
  cases ts with
  | nil => cases h
  | cons t us =>
    obtain ⟨r, hstep, hrest⟩ := completes_cons.mp h
    cases t with
    | closeObject => exact .inl ⟨us, r, rfl, hstep, hrest⟩
    | _ => exact .inr h

/-- A member begins with its key and a colon. -/
lemma completes_key {ms : Members} {o : List Level} {ts : List Token} {v : Json}
    (h : (key ms o false).Completes ts v) :
    ∃ k us, ts = .string k :: .colon :: us ∧ (value (.member ms k :: o)).Completes us v := by
  match ts with
  | [] => cases h
  | [t] =>
    obtain ⟨r, hstep, h⟩ := completes_cons.mp h
    cases h
    cases t <;> cases hstep
  | t :: u :: us =>
    obtain ⟨r, hstep, h⟩ := completes_cons.mp h
    obtain ⟨r', hstep', h⟩ := completes_cons.mp h
    cases t with
    | string k =>
      cases hstep
      cases u with
      | colon =>
        cases hstep'
        exact ⟨k, us, rfl, h⟩
      | _ => cases hstep'
    | _ => cases hstep

mutual

/-- What completes a value begins with the tokens of a value. -/
lemma tokens_of_completes {o : List Level} {ts : List Token} {v : Json}
    (ho : o.length ≤ maxDepth) (h : (value o).Completes ts v) :
    ∃ (x : Json) (us : List Token) (r : Reading), ts = x.tokens ++ us ∧
      o.length + x.depth ≤ maxDepth ∧ put? x.normal o = some r ∧ r.Completes us v := by
  match ts with
  | [] => cases h
  | t :: us =>
    obtain ⟨r, hstep, hrest⟩ := completes_cons.mp h
    cases t with
    | null => exact ⟨.null, us, r, rfl, ho, hstep, hrest⟩
    | bool b => exact ⟨.bool b, us, r, rfl, ho, hstep, hrest⟩
    | number n => exact ⟨.number n, us, r, rfl, ho, hstep, hrest⟩
    | string s => exact ⟨.string s, us, r, rfl, ho, hstep, hrest⟩
    | openArray =>
      rw [step?, begin?] at hstep
      split_ifs at hstep with hopen
      cases hstep
      -- the array is closed at once, or its items come first
      rcases completes_firstItem hrest with ⟨us, r, rfl, hput, hrest⟩ | hrest
      · exact ⟨.array [], us, r, rfl, hopen, hput, hrest⟩
      · obtain ⟨x, xs, us, r, rfl, hdepth, hput, hrest⟩ := itemTokens_of_completes hopen hrest
        refine ⟨.array (x :: xs), us, r, by simp [tokens], ?_, hput, hrest⟩
        simp only [depth]
        omega
    | openObject =>
      rw [step?, begin?] at hstep
      split_ifs at hstep with hopen
      cases hstep
      -- likewise for an object
      rcases completes_key_opened hrest with ⟨us, r, rfl, hput, hrest⟩ | hrest
      · exact ⟨.object [], us, r, rfl, hopen, hput, hrest⟩
      · obtain ⟨k, w, ms, us, r, rfl, hdepth, hput, hrest⟩ :=
          memberTokens_of_completes hopen hrest
        refine ⟨.object ((k, w) :: ms), us, r, by simp [tokens], ?_, hput, hrest⟩
        simp only [depth]
        omega
    | _ => cases hstep
termination_by (ts.length, 0)

/-- What completes an array at one of its items begins with the tokens of items and ends the
array. -/
lemma itemTokens_of_completes {acc : List Json} {o : List Level} {ts : List Token} {v : Json}
    (ho : o.length + 1 ≤ maxDepth) (h : (value (.array acc :: o)).Completes ts v) :
    ∃ (x : Json) (xs : List Json) (us : List Token) (r : Reading),
      ts = itemTokens (x :: xs) ++ .closeArray :: us ∧
        o.length + 1 + itemsDepth (x :: xs) ≤ maxDepth ∧
      put? (.array (acc.reverse ++ normalItems (x :: xs))) o = some r ∧ r.Completes us v := by
  obtain ⟨x, us, r, rfl, hdepth, hput, hrest⟩ := tokens_of_completes (o := .array acc :: o) ho h
  rw [List.length_cons] at hdepth
  cases hput
  rcases completes_next_array hrest with ⟨us, rfl, hrest⟩ | ⟨us, r, rfl, hput, hrest⟩
  · obtain ⟨y, ys, us, r, rfl, hdepth', hput, hrest⟩ := itemTokens_of_completes ho hrest
    refine ⟨x, y :: ys, us,
      r, by simp [itemTokens_cons_cons], ?_, by simpa [normalItems] using hput, hrest⟩
    rw [itemsDepth]
    omega
  · refine ⟨x, [], us, r, rfl, ?_, by simpa [normalItems] using hput, hrest⟩
    simp only [itemsDepth]
    omega
termination_by (ts.length, 1)

/-- What completes an object at one of its members begins with the tokens of members and ends the
object. -/
lemma memberTokens_of_completes {acc : Members} {o : List Level} {ts : List Token} {v : Json}
    (ho : o.length + 1 ≤ maxDepth) (h : (key acc o false).Completes ts v) :
    ∃ (k : String) (w : Json) (ms : Members) (us : List Token) (r : Reading),
      ts = memberTokens ((k, w) :: ms) ++ .closeObject :: us ∧
      o.length + 1 + membersDepth ((k, w) :: ms) ≤ maxDepth ∧
      put? (.object ((normalMembers ((k, w) :: ms)).foldl
        (fun sorted m => insertMember m.1 m.2 sorted) acc)) o = some r ∧ r.Completes us v := by
  obtain ⟨k, us, rfl, hvalue⟩ := completes_key h
  obtain ⟨w, us, r, rfl, hdepth, hput, hrest⟩ :=
    tokens_of_completes (o := .member acc k :: o) ho hvalue
  rw [List.length_cons] at hdepth
  cases hput
  rcases completes_next_object hrest with ⟨us, rfl, hrest⟩ | ⟨us, r, rfl, hput, hrest⟩
  · obtain ⟨l, u, ms, us, r, rfl, hdepth', hput, hrest⟩ := memberTokens_of_completes ho hrest
    refine ⟨k, w, (l, u) :: ms, us, r, by simp [memberTokens_cons_cons], ?_, hput, hrest⟩
    rw [membersDepth]
    omega
  · refine ⟨k, w, [], us, r, rfl, ?_, hput, hrest⟩
    simp only [membersDepth]
    omega
termination_by (ts.length, 1)

end

/-- The rows of tokens that are read are those of values, which are read in order. -/
lemma ofTokens?_eq_some_iff {ts : List Token} {v : Json} :
    ofTokens? ts = some v ↔ ∃ x : Json, ts = x.tokens ∧ x.depth ≤ maxDepth ∧ v = x.normal := by
  constructor
  · intro h
    have hread : (value []).Completes ts v := by
      rw [ofTokens?] at h
      split at h
      · next hread =>
        cases h
        exact hread
      · cases h
    obtain ⟨x, us, r, rfl, hdepth, hput, hrest⟩ := tokens_of_completes (Nat.zero_le _) hread
    cases hput
    obtain ⟨rfl, rfl⟩ := completes_complete hrest
    exact ⟨x, List.append_nil _, by simpa using hdepth, rfl⟩
  · rintro ⟨x, rfl, hdepth, rfl⟩
    exact ofTokens?_tokens hdepth

/-! ### Numbers of what is read -/

mutual

/-- A value in order is canonical if its tokens have the right numbers. -/
lemma canonical_normal (v : Json) (h : NumbersIn P v.tokens) : v.normal.Canonical P := by
  match v with
  | .number n => exact h n List.mem_cons_self
  | .array xs =>
    have hitems : NumbersIn P (itemTokens xs) :=
      fun n hn => h n (List.mem_cons_of_mem _ (List.mem_append_left _ hn))
    exact canonicalItems_normalItems xs hitems
  | .object ms =>
    have hmembers : NumbersIn P (memberTokens ms) :=
      fun n hn => h n (List.mem_cons_of_mem _ (List.mem_append_left _ hn))
    have hnormal := canonicalMembers_iff.mp (canonicalMembers_normalMembers ms hmembers)
    rw [normal, canonical_object]
    exact ⟨sorted_sortMembers _, fun m hm => hnormal m (mem_of_mem_sortMembers hm)⟩
  | .null | .bool _ | .string _ => trivial

lemma canonicalItems_normalItems (xs : List Json) (h : NumbersIn P (itemTokens xs)) :
    CanonicalItems P (normalItems xs) := by
  match xs with
  | [] => trivial
  | [x] => exact ⟨canonical_normal x h, trivial⟩
  | x :: y :: xs =>
    rw [itemTokens_cons_cons] at h
    exact ⟨canonical_normal x fun n hn => h n (List.mem_append_left _ hn),
      canonicalItems_normalItems (y :: xs) fun n hn =>
        h n (List.mem_append_right _ (List.mem_cons_of_mem _ hn))⟩

lemma canonicalMembers_normalMembers (ms : Members) (h : NumbersIn P (memberTokens ms)) :
    CanonicalMembers P (normalMembers ms) := by
  match ms with
  | [] => trivial
  | [(k, v)] =>
    have hvalue : NumbersIn P v.tokens :=
      fun n hn => h n (List.mem_cons_of_mem _ (List.mem_cons_of_mem _ hn))
    exact ⟨canonical_normal v hvalue, trivial⟩
  | (k, v) :: m :: ms =>
    rw [memberTokens_cons_cons] at h
    have hvalue : NumbersIn P v.tokens := fun n hn =>
      h n (List.mem_append_left _ (List.mem_cons_of_mem _ (List.mem_cons_of_mem _ hn)))
    exact ⟨canonical_normal v hvalue, canonicalMembers_normalMembers (m :: ms) fun n hn =>
      h n (List.mem_append_right _ (List.mem_cons_of_mem _ hn))⟩

end

/-- A value that was built from tokens is canonical, and it is nested no deeper than is
allowed. -/
lemma canonical_of_ofTokens? {ts : List Token} {v : Json} (hts : NumbersIn P ts)
    (h : ofTokens? ts = some v) : v.Canonical P ∧ v.depth ≤ maxDepth := by
  obtain ⟨x, rfl, hdepth, rfl⟩ := ofTokens?_eq_some_iff.mp h
  exact ⟨canonical_normal x hts, Nat.le_trans (depth_normal_le x) hdepth⟩

end RemoteDebugger.Json
