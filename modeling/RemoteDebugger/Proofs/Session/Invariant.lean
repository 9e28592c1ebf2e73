import RemoteDebugger.Proofs.Session.Operation

/-!
# What the books always say

The numbers in a table are numbers that were given out, and no request is both pending and
abandoned. A command that waits has the only awaited entry, or it has its reply. Both are
preserved by every act on the books.
-/

namespace RemoteDebugger

open Session

/-! ### Sound tables -/

/-- The numbers in the table are below `next`, each is there once, and few are abandoned, in
order. -/
structure Table.Sound (next : RequestId) (t : Table) : Prop where
  pending_lt : ∀ p ∈ t.pending, p.1 < next
  pending_nodup : (t.pending.map Prod.fst).Nodup
  abandoned_lt : ∀ a ∈ t.abandoned, a.1 < next
  disjoint : ∀ p ∈ t.pending, ∀ a ∈ t.abandoned, p.1 ≠ a.1
  abandoned_length : t.abandoned.length ≤ maxAbandoned
  abandoned_sorted : t.abandoned.Pairwise fun a b => a.1 < b.1

section Lists

variable {α : Type} {id : RequestId} {rs : List (RequestId × α)}

lemma mem_of_lookup {x : α} (h : rs.lookup id = some x) : (id, x) ∈ rs := by
  obtain ⟨before, after, rfl, -⟩ := List.lookup_eq_some_iff.mp h
  exact List.mem_append_right before List.mem_cons_self

/-- If no id comes twice, an entry is the one that is found for its id. -/
lemma lookup_of_mem (h : (rs.map Prod.fst).Nodup) {x : α} (hx : (id, x) ∈ rs) :
    rs.lookup id = some x := by
  induction rs with
  | nil => cases hx
  | cons r rs ih =>
    obtain ⟨j, y⟩ := r
    obtain ⟨hj, hrs⟩ := List.nodup_cons.mp h
    rcases List.mem_cons.mp hx with heq | hmem
    · cases heq
      exact List.lookup_cons_self
    · have hne : id ≠ j := by
        rintro rfl
        exact hj (List.mem_map.mpr ⟨(id, x), hmem, rfl⟩)
      rw [List.lookup_cons, beq_false_of_ne hne]
      exact ih hrs hmem

lemma mem_without {r : RequestId × α} : r ∈ without id rs ↔ r ∈ rs ∧ r.1 ≠ id := by
  rw [without, List.mem_filter, bne_iff_ne]

lemma mem_insertAbandoned {method : Method} {as : List (RequestId × Method)}
    {a : RequestId × Method} (h : a ∈ insertAbandoned id method as) :
    a = (id, method) ∨ a ∈ as := by
  induction as with
  | nil => exact .inl (List.mem_singleton.mp h)
  | cons b as ih =>
    rw [insertAbandoned] at h
    split_ifs at h
    · exact List.mem_cons.mp h
    · rcases List.mem_cons.mp h with rfl | h
      · exact .inl rfl
      · exact .inr (List.mem_cons_of_mem b h)
    · rcases List.mem_cons.mp h with rfl | h
      · exact .inr List.mem_cons_self
      · exact (ih h).imp_right (List.mem_cons_of_mem b)

/-- Requests that were given up on are kept in the order of their numbers. -/
lemma pairwise_insertAbandoned {method : Method} {as : List (RequestId × Method)}
    (h : as.Pairwise fun a b => a.1 < b.1) :
    (insertAbandoned id method as).Pairwise fun a b => a.1 < b.1 := by
  induction as with
  | nil => exact List.pairwise_singleton _ _
  | cons b as ih =>
    obtain ⟨hb, has⟩ := List.pairwise_cons.mp h
    rw [insertAbandoned]
    split_ifs with hlt heq
    · refine List.pairwise_cons.mpr ⟨fun a ha => ?_, h⟩
      rcases List.mem_cons.mp ha with rfl | ha
      · exact hlt
      · exact Nat.lt_trans hlt (hb a ha)
    · exact List.pairwise_cons.mpr ⟨fun a ha => heq ▸ hb a ha, has⟩
    · refine List.pairwise_cons.mpr ⟨fun a ha => ?_, ih has⟩
      rcases mem_insertAbandoned ha with rfl | ha
      · exact Nat.lt_of_le_of_ne (Nat.le_of_not_lt hlt) (Ne.symm heq)
      · exact hb a ha

lemma pairwise_remembered {method : Method} {as : List (RequestId × Method)}
    (h : as.Pairwise fun a b => a.1 < b.1) :
    (Books.remembered id method as).Pairwise fun a b => a.1 < b.1 :=
  (pairwise_insertAbandoned h).sublist (List.drop_sublist _ _)

lemma mem_remembered {method : Method} {as : List (RequestId × Method)} {a : RequestId × Method}
    (h : a ∈ Books.remembered id method as) : a = (id, method) ∨ a ∈ as :=
  mem_insertAbandoned (List.mem_of_mem_drop h)

lemma length_remembered (id : RequestId) (method : Method) (as : List (RequestId × Method)) :
    (Books.remembered id method as).length ≤ maxAbandoned := by
  rw [Books.remembered, List.length_drop]
  omega

end Lists

namespace Table

variable {t : Table} {next : RequestId}

lemma sound_empty (next : RequestId) : Sound next {} where
  pending_lt _ h := nomatch h
  pending_nodup := List.nodup_nil
  abandoned_lt _ h := nomatch h
  disjoint _ h := nomatch h
  abandoned_length := Nat.zero_le _
  abandoned_sorted := List.Pairwise.nil

lemma Sound.skip (h : Sound next t) : Sound (next + 1) t where
  pending_lt p hp := Nat.lt_succ_of_lt (h.pending_lt p hp)
  pending_nodup := h.pending_nodup
  abandoned_lt a ha := Nat.lt_succ_of_lt (h.abandoned_lt a ha)
  disjoint := h.disjoint
  abandoned_length := h.abandoned_length
  abandoned_sorted := h.abandoned_sorted

/-- A fresh number is neither pending nor abandoned. -/
lemma Sound.issue (h : Sound next t) (p : Pending) :
    Sound (next + 1) { t with pending := t.pending ++ [(next, p)] } where
  pending_lt q hq := by
    rcases List.mem_append.mp hq with hq | hq
    · exact Nat.lt_succ_of_lt (h.pending_lt q hq)
    · rw [List.mem_singleton.mp hq]
      exact Nat.lt_succ_self next
  pending_nodup := by
    rw [List.map_append]
    refine h.pending_nodup.append (List.nodup_singleton next) ?_
    intro id hid hnext
    obtain ⟨q, hq, rfl⟩ := List.mem_map.mp hid
    have hlt : q.1 < next := h.pending_lt q hq
    exact Nat.ne_of_lt hlt (List.mem_singleton.mp hnext)
  abandoned_lt a ha := Nat.lt_succ_of_lt (h.abandoned_lt a ha)
  disjoint q hq a ha := by
    rcases List.mem_append.mp hq with hq | hq
    · exact h.disjoint q hq a ha
    · rw [List.mem_singleton.mp hq]
      exact Nat.ne_of_gt (h.abandoned_lt a ha)
  abandoned_length := h.abandoned_length
  abandoned_sorted := h.abandoned_sorted

lemma Sound.strike (h : Sound next t) (id : RequestId) :
    Sound next { t with pending := without id t.pending } where
  pending_lt p hp := h.pending_lt p (mem_without.mp hp).1
  pending_nodup := h.pending_nodup.sublist (List.filter_sublist.map Prod.fst)
  abandoned_lt := h.abandoned_lt
  disjoint p hp := h.disjoint p (mem_without.mp hp).1
  abandoned_length := h.abandoned_length
  abandoned_sorted := h.abandoned_sorted

lemma Sound.strikeLate (h : Sound next t) (id : RequestId) :
    Sound next { t with abandoned := without id t.abandoned } where
  pending_lt := h.pending_lt
  pending_nodup := h.pending_nodup
  abandoned_lt a ha := h.abandoned_lt a (mem_without.mp ha).1
  disjoint p hp a ha := h.disjoint p hp a (mem_without.mp ha).1
  abandoned_length := Nat.le_trans (List.length_filter_le _ _) h.abandoned_length
  abandoned_sorted := List.Pairwise.filter _ h.abandoned_sorted

/-- A request that is given up on moves from one list to the other. -/
lemma Sound.giveUp (h : Sound next t) {id : RequestId} (hid : id < next) (method : Method) :
    Sound next
      { t with
        pending   := without id t.pending
        abandoned := Books.remembered id method t.abandoned } where
  pending_lt p hp := h.pending_lt p (mem_without.mp hp).1
  pending_nodup := h.pending_nodup.sublist (List.filter_sublist.map Prod.fst)
  abandoned_lt a ha := by
    rcases mem_remembered ha with rfl | ha
    · exact hid
    · exact h.abandoned_lt a ha
  disjoint p hp a ha := by
    obtain ⟨hp, hne⟩ := mem_without.mp hp
    rcases mem_remembered ha with rfl | ha
    · exact hne
    · exact h.disjoint p hp a ha
  abandoned_length := length_remembered id method t.abandoned
  abandoned_sorted := pairwise_remembered h.abandoned_sorted

end Table

/-! ### Sound books -/

namespace Books

variable {b b' : Books}

/-- Requests are written with increasing numbers, which are all below the next one, and the table
is sound. -/
structure Sound (b : Books) : Prop where
  written_sorted : b.written.Pairwise (· < ·)
  written_lt : ∀ id ∈ b.written, id < b.nextId
  table : ∀ t, b.table = some t → t.Sound b.nextId

lemma Sound.reply (h : b.Sound) (reply : Option Answer) : { b with reply }.Sound :=
  ⟨h.written_sorted, h.written_lt, h.table⟩

lemma Sound.map (h : b.Sound) {f : Table → Table}
    (hf : ∀ t, t.Sound b.nextId → (f t).Sound b.nextId) :
    { b with table := b.table.map f }.Sound := by
  refine ⟨h.written_sorted, h.written_lt, fun t ht => ?_⟩
  obtain ⟨u, hu, rfl⟩ := Option.map_eq_some_iff.mp ht
  exact hf u (h.table u hu)

lemma Sound.close (h : b.Sound) : b.close.Sound := by
  simp only [Books.close]
  split
  · exact h
  · refine ⟨h.written_sorted, h.written_lt, fun t ht => ?_⟩
    cases ht

lemma Sound.connect (h : b.Sound) : b.connect.Sound := by
  refine ⟨h.written_sorted, h.written_lt, fun t ht => ?_⟩
  cases ht
  exact Table.sound_empty _

lemma Sound.skip (h : b.Sound) : b.skip.Sound :=
  ⟨h.written_sorted, fun id hid => Nat.lt_succ_of_lt (h.written_lt id hid),
    fun t ht => (h.table t ht).skip⟩

lemma Sound.issue (h : b.Sound) (method : Method) (awaited : Bool) :
    (b.issue method awaited).Sound where
  written_sorted := by
    refine List.pairwise_append.mpr ⟨h.written_sorted, List.pairwise_singleton _ _, ?_⟩
    intro id hid n hn
    rw [List.mem_singleton.mp hn]
    exact h.written_lt id hid
  written_lt id hid := by
    rcases List.mem_append.mp hid with hid | hid
    · exact Nat.lt_succ_of_lt (h.written_lt id hid)
    · rw [List.mem_singleton.mp hid]
      exact Nat.lt_succ_self _
  table t ht := by
    obtain ⟨u, hu, rfl⟩ := Option.map_eq_some_iff.mp ht
    exact (h.table u hu).issue { method, awaited }

lemma Sound.hush (h : b.Sound) : b.hush.Sound := h.reply none

lemma Sound.deliver (h : b.Sound) (awaited : Bool) (a : Answer) :
    (b.deliver awaited a).Sound := by
  cases awaited
  · exact h
  · exact h.reply _

lemma Sound.keep (h : b.Sound) (inbox : Bytes) : (b.keep inbox).Sound :=
  h.map fun _ ht =>
    ⟨ht.pending_lt, ht.pending_nodup, ht.abandoned_lt, ht.disjoint, ht.abandoned_length,
    ht.abandoned_sorted⟩

/-- What is found pending is in the table. -/
lemma mem_of_pending? {id : RequestId} {p : Pending} (h : b.pending? id = some p) :
    ∃ t, b.table = some t ∧ (id, p) ∈ t.pending := by
  obtain ⟨t, ht, hp⟩ := Option.bind_eq_some_iff.mp h
  exact ⟨t, ht, mem_of_lookup hp⟩

lemma Sound.giveUp (h : b.Sound) {id : RequestId} {p : Pending} (hp : b.pending? id = some p)
    (method : Method) : (b.giveUp id method).Sound := by
  obtain ⟨t, ht, hmem⟩ := mem_of_pending? hp
  have hid : id < b.nextId := (h.table t ht).pending_lt _ hmem
  exact h.map fun _ hu => hu.giveUp hid method

/-- An answer strikes one entry at most. -/
lemma Sound.answer (h : b.Sound) (id : RequestId) (outcome : Except RemoteError Json) :
    (b.answer id outcome).Sound := by
  simp only [Books.answer]
  split
  · exact Sound.deliver (h.map fun _ ht => ht.strike id) _ _
  · exact h.map fun _ ht => ht.strikeLate id

lemma Sound.reject (h : b.Sound) (id : RequestId) (e : DecodeError) : (b.reject id e).Sound := by
  simp only [Books.reject]
  split
  · next hp => exact (h.giveUp hp _).deliver _ _
  · exact h

lemma Sound.calm (h : b.Sound) (hcalm : Calm b b') : b'.Sound := by
  induction hcalm with
  | refl => exact h
  | close _ ih => exact ih.close
  | skip _ ih => exact ih.skip
  | tell method _ ih => exact ih.issue method false

lemma Sound.onFrame (h : b.Sound) {payload : Bytes} (hframe : OnFrame b payload b') :
    b'.Sound := by
  cases hframe with
  | answer _ => exact h.answer _ _
  | reject _ _ => exact h.reject _ _
  | calm _ hcalm => exact h.calm hcalm

lemma Sound.works (h : b.Sound) (hworks : Works b b') : b'.Sound := by
  induction hworks with
  | refl => exact h
  | calm _ hcalm ih => exact ih.calm hcalm
  | hush _ ih => exact ih.hush
  | connect _ ih => exact ih.connect

end Books

end RemoteDebugger
