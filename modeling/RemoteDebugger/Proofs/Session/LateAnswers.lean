import Mathlib.Data.Finset.Card
import RemoteDebugger.Proofs.Session.Journal

/-!
# Late answers

A request that was given up on is remembered, unless too many with greater numbers were given up
on since. The first answer that comes for it tells whether the program runs, and nothing that
comes for it later matters. What is remembered is what the journal tells.
-/

namespace RemoteDebugger

open Books Session

/-! ### What a journal remembers -/

/-- The request that a payload answers. -/
def Record.answer? (payload : Bytes) : Option RequestId :=
  match decode payload with
  | .ok (.response id _) => some id
  | _                    => none

/-- The requests that are remembered after an incident. -/
def remember (as : List (RequestId × Method)) : Incident → List (RequestId × Method)
  | .attached        => []
  | .handled payload =>
    match Record.answer? payload with
    | some id => without id as
    | none    => as
  | .givenUp id m    => remembered id m as

/-- The requests that are remembered after a journal. -/
def recalled (js : List Incident) : List (RequestId × Method) := js.foldl remember []

/-- The numbers of the requests that were given up on, the earliest first. -/
def forsakenIds (js : List Incident) : List RequestId :=
  js.filterMap fun
    | .givenUp id _ => some id
    | _             => none

/-- The greater ones of the numbers that were given up on, on the connection that began last. -/
def overtakers (n : RequestId) (js : List Incident) : Finset RequestId :=
  ((forsakenIds (current js)).filter (n < ·)).toFinset

lemma recalled_concat (js : List Incident) (i : Incident) :
    recalled (js ++ [i]) = remember (recalled js) i := by
  rw [recalled, List.foldl_append]
  rfl

lemma forsakenIds_append (js ks : List Incident) :
    forsakenIds (js ++ ks) = forsakenIds js ++ forsakenIds ks :=
  List.filterMap_append

/-- The requests that were given up on are those that the journal says were. -/
lemma mem_forsakenIds {n : RequestId} {js : List Incident} :
    n ∈ forsakenIds js ↔ ∃ m, .givenUp n m ∈ js := by
  rw [forsakenIds, List.mem_filterMap]
  constructor
  · rintro ⟨i, hi, hn⟩
    cases i with
    | givenUp id m =>
      cases hn
      exact ⟨m, hi⟩
    | _ => cases hn
  · rintro ⟨m, hm⟩
    exact ⟨_, hm, rfl⟩

/-- Requests are recalled in the order of their numbers. -/
lemma pairwise_recalled (js : List Incident) : (recalled js).Pairwise fun a b => a.1 < b.1 := by
  induction js using List.reverseRecOn with
  | nil => exact List.Pairwise.nil
  | append_singleton js i ih =>
    rw [recalled_concat]
    cases i with
    | attached => exact List.Pairwise.nil
    | handled payload =>
      rw [remember]
      split
      · exact ih.filter _
      · exact ih
    | givenUp id m => exact pairwise_remembered ih

/-- What is remembered was given up on, on the connection that began last. -/
lemma mem_of_mem_recalled {js : List Incident} {a : RequestId × Method} (ha : a ∈ recalled js) :
    .givenUp a.1 a.2 ∈ current js := by
  induction js using List.reverseRecOn with
  | nil => cases ha
  | append_singleton js i ih =>
    rw [recalled_concat] at ha
    rw [current_concat]
    cases i with
    | attached => cases ha
    | handled payload =>
      rw [if_neg (by simp)]
      rw [remember] at ha
      split at ha
      · exact List.mem_append_left _ (ih (mem_without.mp ha).1)
      · exact List.mem_append_left _ (ih ha)
    | givenUp id m =>
      rw [if_neg (by simp)]
      rcases mem_remembered ha with rfl | ha
      · exact List.mem_append_right _ List.mem_cons_self
      · exact List.mem_append_left _ (ih ha)

/-- What is recalled was given up on since the connection began. -/
lemma mem_forsakenIds_of_mem_recalled {js : List Incident} {a : RequestId × Method}
    (ha : a ∈ recalled js) :
    a.1 ∈ forsakenIds (current js) :=
  mem_forsakenIds.mpr ⟨a.2, mem_of_mem_recalled ha⟩

lemma forsakenIds_current_subset (js : List Incident) :
    forsakenIds (current js) ⊆ forsakenIds js := by
  intro n hn
  obtain ⟨m, hm⟩ := mem_forsakenIds.mp hn
  exact mem_forsakenIds.mpr ⟨m, (current_suffix js).subset hm⟩

/-- One more request given up on makes another one forgotten only if many greater ones are
remembered. -/
lemma mem_remembered_of_card {n k : RequestId} {m m' : Method} {as : List (RequestId × Method)}
    (hsorted : as.Pairwise fun a b => a.1 < b.1) (hnew : ∀ a ∈ as, k ≠ a.1)
    (hmem : (n, m) ∈ (k, m') :: as) {larger : Finset RequestId}
    (hlarger : ∀ a ∈ (k, m') :: as, n < a.1 → a.1 ∈ larger) (hcard : larger.card < 64) :
    (n, m) ∈ remembered k m' as := by
  obtain ⟨forgotten, hperm, hlength, hsmaller⟩ := exists_forgotten (m := m') hsorted hnew
  rcases List.mem_append.mp (hperm.mem_iff.mpr hmem) with hgone | hkept
  · exfalso
    have hfull : (remembered k m' as).length = 64 := by
      have hsum := hperm.length_eq
      have hpos := List.length_pos_of_mem hgone
      rw [List.length_append, List.length_cons] at hsum
      omega
    -- all that are remembered are greater, so that they would be too many
    have hsubset : ((remembered k m' as).map Prod.fst).toFinset ⊆ larger := by
      intro id hid
      obtain ⟨a, ha, rfl⟩ := List.mem_map.mp (List.mem_toFinset.mp hid)
      exact hlarger a (hperm.mem_iff.mp (List.mem_append_right _ ha)) (hsmaller _ hgone a ha)
    have hnodup : ((remembered k m' as).map Prod.fst).Nodup :=
      List.pairwise_map.mpr ((pairwise_remembered hsorted).imp Nat.ne_of_lt)
    have hcount := Finset.card_le_card hsubset
    rw [List.toFinset_card_of_nodup hnodup, List.length_map, hfull] at hcount
    omega
  · exact hkept

/-- What is given up on is remembered, and so is what was before, unless many others are
greater. -/
lemma mem_recalled_givenUp {js : List Incident} {n k : RequestId} {m m' : Method}
    (honce : (forsakenIds (js ++ [.givenUp k m'])).Nodup)
    (hmem : (n, m) ∈ (k, m') :: recalled js)
    (hcard : (overtakers n (js ++ [.givenUp k m'])).card < 64) :
    (n, m) ∈ recalled (js ++ [.givenUp k m']) := by
  rw [forsakenIds_append] at honce
  rw [recalled_concat]
  have hnew : ∀ a ∈ recalled js, k ≠ a.1 := by
    rintro a ha rfl
    exact (List.disjoint_of_nodup_append honce)
      (forsakenIds_current_subset _ (mem_forsakenIds_of_mem_recalled ha)) List.mem_cons_self
  refine mem_remembered_of_card (pairwise_recalled js) hnew hmem ?_ hcard
  intro a ha hlt
  rw [overtakers, current_append (by simp), forsakenIds_append, List.mem_toFinset,
    List.mem_filter, decide_eq_true_eq]
  refine ⟨?_, hlt⟩
  rcases List.mem_cons.mp ha with rfl | ha
  · exact List.mem_append_right _ List.mem_cons_self
  · exact List.mem_append_left _ (mem_forsakenIds_of_mem_recalled ha)

/-- More requests may overtake one as time goes by, but no fewer. -/
lemma overtakers_subset {js : List Incident} {i : Incident} (hi : i ≠ .attached)
    (n : RequestId) :
    overtakers n js ⊆ overtakers n (js ++ [i]) := by
  rw [overtakers, overtakers, current_concat, if_neg hi, forsakenIds_append, List.filter_append,
    List.toFinset_append]
  exact Finset.subset_union_left

/-- A request that was given up on is remembered as long as it has no answer and is not overtaken
by many others. -/
lemma mem_recalled {js earlier since : List Incident} {n : RequestId} {m : Method}
    (honce : (forsakenIds js).Nodup) (hjs : js = earlier ++ .givenUp n m :: since)
    (hattached : .attached ∉ since)
    (hanswered : ∀ payload, .handled payload ∈ since → Record.answer? payload ≠ some n)
    (hcard : (overtakers n js).card < 64) : (n, m) ∈ recalled js := by
  induction since using List.reverseRecOn generalizing js with
  | nil =>
    subst hjs
    exact mem_recalled_givenUp honce List.mem_cons_self hcard
  | append_singleton since i ih =>
    rw [List.mem_append, not_or] at hattached
    rw [← List.cons_append, ← List.append_assoc] at hjs
    subst hjs
    have hi : i ≠ .attached := fun hi => hattached.2 (hi ▸ List.mem_cons_self)
    have honce' := honce
    rw [forsakenIds_append] at honce'
    have hbefore := ih (List.Nodup.of_append_left honce') rfl hattached.1
      (fun q hq => hanswered q (List.mem_append_left _ hq))
      (Nat.lt_of_le_of_lt (Finset.card_le_card (overtakers_subset hi n)) hcard)
    cases i with
    | attached => exact absurd rfl hi
    -- one more is given up on, or an answer to another one comes
    | givenUp k m' => exact mem_recalled_givenUp honce (List.mem_cons_of_mem _ hbefore) hcard
    | handled payload =>
      have hother := hanswered payload (List.mem_append_right _ List.mem_cons_self)
      rw [recalled_concat, remember]
      split
      · next id hid =>
        refine mem_without.mpr ⟨hbefore, fun hn => hother ?_⟩
        rw [hid, ← hn]
      · exact hbefore

/-- A request that was given up on and then answered is not remembered any more. -/
lemma notMem_recalled {js earlier later : List Incident} {n : RequestId} {payload : Bytes}
    (honce : (forsakenIds js).Nodup) (hjs : js = earlier ++ .handled payload :: later)
    (hn : n ∈ forsakenIds earlier) (hanswer : Record.answer? payload = some n) :
    ∀ a ∈ recalled js, a.1 ≠ n := by
  induction later using List.reverseRecOn generalizing js with
  | nil =>
    subst hjs
    intro a ha
    rw [recalled_concat, remember, hanswer] at ha
    exact (mem_without.mp ha).2
  | append_singleton later i ih =>
    rw [← List.cons_append, ← List.append_assoc] at hjs
    subst hjs
    rw [forsakenIds_append] at honce
    have hbefore := ih (List.Nodup.of_append_left honce) rfl
    intro a ha
    rw [recalled_concat] at ha
    cases i with
    | attached => cases ha
    | handled q =>
      rw [remember] at ha
      split at ha
      · exact hbefore a (mem_without.mp ha).1
      · exact hbefore a ha
    | givenUp k m =>
      rcases mem_remembered ha with rfl | ha
      · rintro rfl
        refine (List.disjoint_of_nodup_append honce) ?_ List.mem_cons_self
        rw [forsakenIds_append]
        exact List.mem_append_left _ hn
      · exact hbefore a ha

/-! ### What a session remembers -/

/-- The books are those of a session with a journal: what was given up on was asked before and is
not pending any more, it was given up on once, and what the journal remembers is remembered. -/
structure Books.Recalls (js : List Incident) (b : Books) : Prop where
  given : ∀ n ∈ forsakenIds js, n < b.nextId
  settled : ∀ n ∈ forsakenIds js, ∀ t, b.table = some t → ∀ p ∈ t.pending, p.1 ≠ n
  once : (forsakenIds js).Nodup
  kept : ∀ t, b.table = some t → t.abandoned = recalled js

namespace Books

variable {b b' : Books} {js : List Incident}

/-- As long as nothing is given up on, new requests have new numbers. -/
lemma Recalls.append (h : b.Recalls js) {ks : List Incident} (hks : forsakenIds ks = [])
    (hnext : b.nextId ≤ b'.nextId)
    (htable : ∀ t', b'.table = some t' → t'.abandoned = recalled (js ++ ks) ∧
      ∀ p ∈ t'.pending, b.nextId ≤ p.1 ∨ ∃ t, b.table = some t ∧ p ∈ t.pending) : b'.Recalls
        (js ++ ks) := by
  have hids : forsakenIds (js ++ ks) = forsakenIds js := by
    rw [forsakenIds_append, hks, List.append_nil]
  refine ⟨fun n hn => ?_, fun n hn t' ht' p hp => ?_, ?_, fun t' ht' => (htable t' ht').1⟩
  · exact Nat.lt_of_lt_of_le (h.given n (hids ▸ hn)) hnext
  · rw [hids] at hn
    rcases (htable t' ht').2 p hp with hnew | ⟨t, ht, hp⟩
    · exact Nat.ne_of_gt (Nat.lt_of_lt_of_le (h.given n hn) hnew)
    · exact h.settled n hn t ht p hp
  · rw [hids]
    exact h.once

/-- A table with the same late requests, and no entries but fresh ones, recalls the same. -/
lemma Recalls.of_table (h : b.Recalls js) (hnext : b.nextId ≤ b'.nextId)
    (htable : ∀ t', b'.table = some t' → ∃ t, b.table = some t ∧ t'.abandoned = t.abandoned ∧
      ∀ p ∈ t'.pending, b.nextId ≤ p.1 ∨ p ∈ t.pending) : b'.Recalls js := by
  have hsame : b'.Recalls (js ++ []) := h.append rfl hnext fun t' ht' => by
    obtain ⟨t, ht, habandoned, hpending⟩ := htable t' ht'
    rw [List.append_nil]
    exact ⟨habandoned.trans (h.kept t ht), fun p hp =>
      (hpending p hp).imp_right fun hp => ⟨t, ht, hp⟩⟩
  rwa [List.append_nil] at hsame

lemma Recalls.of_eq (h : b.Recalls js) (hnext : b'.nextId = b.nextId)
    (htable : b'.table = b.table) :
    b'.Recalls js :=
  h.of_table (Nat.le_of_eq hnext.symm) fun t' ht' => ⟨t', htable ▸ ht', rfl, fun _ hp => .inr hp⟩

lemma Recalls.close (h : b.Recalls js) : b.close.Recalls js := by
  refine h.of_table (Nat.le_of_eq (nextId_close b).symm) fun t' ht' => ?_
  rw [table_close] at ht'
  cases ht'

/-- A fresh number was not given up on. -/
lemma Recalls.issue (h : b.Recalls js) (m : Method) (awaited : Bool) :
    (b.issue m awaited).Recalls js := by
  refine h.of_table (Nat.le_succ _) fun t' ht' => ?_
  obtain ⟨t, ht, rfl⟩ := Option.map_eq_some_iff.mp ht'
  refine ⟨t, ht, rfl, fun p hp => ?_⟩
  rcases List.mem_append.mp hp with hp | hp
  · exact .inr hp
  · rw [List.mem_singleton.mp hp]
    exact .inl (Nat.le_refl _)

lemma Recalls.skip (h : b.Recalls js) : b.skip.Recalls js :=
  h.of_table (Nat.le_succ _) fun t ht => ⟨t, ht, rfl, fun _ hp => .inr hp⟩

lemma Recalls.calm (h : b.Recalls js) (hcalm : Calm b b') : b'.Recalls js := by
  induction hcalm with
  | refl => exact h
  | close _ ih => exact ih.close
  | skip _ ih => exact ih.skip
  | tell m _ ih => exact ih.issue m false

lemma Recalls.deliver (h : b.Recalls js) (awaited : Bool) (a : Answer) :
    (b.deliver awaited a).Recalls js := by
  cases awaited
  · exact h
  · exact h.of_eq rfl rfl

/-- A payload that answers no request is no news for what is remembered. -/
lemma Recalls.handled (h : b.Recalls js) {payload : Bytes}
    (hanswer : Record.answer? payload = none) :
    b.Recalls (js ++ [.handled payload]) := by
  refine h.append rfl (Nat.le_refl _) fun t ht => ⟨?_, fun p hp => .inr ⟨t, ht, hp⟩⟩
  rw [recalled_concat, remember, hanswer]
  exact h.kept t ht

/-- An answer to a request leaves nothing of it. -/
lemma Recalls.answer (h : b.Recalls js) (hsound : b.Sound) {payload : Bytes} {id : RequestId}
    {outcome : Except RemoteError Json}
    (hdecode : Record.decode payload = .ok (.response id outcome)) :
    (b.answer id outcome).Recalls (js ++ [.handled payload]) := by
  have hrecalled : recalled (js ++ [.handled payload]) = without id (recalled js) := by
    rw [recalled_concat, remember, Record.answer?, hdecode]
  have hstruck : ∀ f : Table → Table,
      (∀ t, b.table = some t → (f t).abandoned = without id t.abandoned) →
      (∀ t, ∀ p ∈ (f t).pending, p ∈ t.pending) →
      Recalls (js ++ [.handled payload]) { b with table := b.table.map f } := by
    intro f habandoned hpending
    refine h.append rfl (Nat.le_refl _) fun t' ht' => ?_
    obtain ⟨t, ht, rfl⟩ := Option.map_eq_some_iff.mp ht'
    refine ⟨?_, fun p hp => .inr ⟨t, ht, hpending t p hp⟩⟩
    rw [hrecalled, habandoned t ht, h.kept t ht]
  rw [Books.answer]
  cases hp : b.pending? id with
  | none => exact hstruck _ (fun _ _ => rfl) fun _ _ hp => hp
  | some p =>
    refine Recalls.deliver (hstruck _ (fun t ht => ?_) fun t q hq => (mem_without.mp hq).1) _ _
    -- what is pending was not given up on
    obtain ⟨u, hu, hmem⟩ := mem_of_pending? hp
    rw [ht] at hu
    cases hu
    refine (List.filter_eq_self.mpr fun a ha => bne_iff_ne.mpr ?_).symm
    exact Ne.symm ((hsound.table t ht).disjoint _ hmem a ha)

/-- A pending request that is given up on. -/
lemma Recalls.giveUp (h : b.Recalls js) (hsound : b.Sound) {id : RequestId} {p : Pending}
    (hp : b.pending? id = some p) (m : Method) :
    (b.giveUp id m).Recalls (js ++ [.givenUp id m]) := by
  obtain ⟨u, hu, hmem⟩ := mem_of_pending? hp
  have hids : forsakenIds (js ++ [.givenUp id m]) = forsakenIds js ++ [id] :=
    forsakenIds_append js _
  have hnew : id ∉ forsakenIds js := fun hid => h.settled id hid u hu _ hmem rfl
  refine ⟨fun n hn => ?_, fun n hn t' ht' q hq => ?_, ?_, fun t' ht' => ?_⟩
  · rw [hids] at hn
    rcases List.mem_append.mp hn with hn | hn
    · exact h.given n hn
    · rw [List.mem_singleton.mp hn]
      exact (hsound.table u hu).pending_lt _ hmem
  · obtain ⟨t, ht, rfl⟩ := Option.map_eq_some_iff.mp ht'
    obtain ⟨hq, hne⟩ := mem_without.mp hq
    rw [hids] at hn
    rcases List.mem_append.mp hn with hn | hn
    · exact h.settled n hn t ht q hq
    · rw [List.mem_singleton.mp hn]
      exact hne
  · rw [hids]
    exact h.once.append (List.nodup_singleton id) (List.disjoint_singleton.mpr hnew)
  · obtain ⟨t, ht, rfl⟩ := Option.map_eq_some_iff.mp ht'
    rw [recalled_concat, remember, ← h.kept t ht]

lemma Recalls.connect (h : b.Recalls js) : b.connect.Recalls (js ++ [.attached]) := by
  refine h.append rfl (Nat.le_refl _) fun t ht => ?_
  cases ht
  rw [recalled_concat]
  exact ⟨rfl, fun _ hp => nomatch hp⟩

end Books

namespace Session

variable {s : Session} {js : List Incident}

/-- A payload is recalled as the incidents that it comes to. -/
lemma recalls_receiveFrame (hattached : s.isAttached) (hsound : s.books.Sound)
    (h : s.books.Recalls js) (payload : Bytes) :
    (s.receiveFrame payload).books.Recalls (js ++ s.incidents payload) := by
  have hframe := onFrame_receiveFrame hattached payload
  generalize (s.receiveFrame payload).books = b' at hframe
  cases hframe with
  -- an answer, a broken answer, or something else
  | @answer id outcome hdecode =>
    have hspoilt : s.incidents payload = [.handled payload] := by rw [incidents, spoilt, hdecode]
    rw [hspoilt]
    exact h.answer hsound hdecode
  | @reject id e hdecode hblame =>
    have hanswer : Record.answer? payload = none := by rw [Record.answer?, hdecode]
    rw [incidents, spoilt, hdecode]
    dsimp only
    rw [hblame]
    dsimp only
    rw [Books.reject]
    cases hp : s.books.pending? id with
    | none => exact h.handled hanswer
    | some p =>
      rw [Option.map_some, Option.toList_some, ← List.singleton_append, ← List.append_assoc]
      exact ((h.handled hanswer).giveUp hsound hp p.method).deliver _ _
  | calm hnone hcalm =>
    have hanswer : Record.answer? payload = none := by
      rw [Record.answer?]
      split
      · next id outcome hdecode =>
        have hsome := hnone id .step
        rw [verdict?, hdecode] at hsome
        simp at hsome
      · rfl
    have hspoilt : s.incidents payload = [.handled payload] := by
      rw [incidents, spoilt]
      split
      · rfl
      · next e hdecode =>
        split
        · next id hblame =>
          have hsome := hnone id .step
          rw [verdict?, hdecode] at hsome
          simp [hblame] at hsome
        · rfl
    rw [hspoilt]
    exact (h.calm hcalm).handled hanswer

/-- A wait that ends without a reply gives up on its request. -/
lemma recalls_endWait {id : RequestId} {m : Method} (hsound : s.books.Sound)
    (hpending : s.reply = none → s.books.pending? id = some { method := m, awaited := true })
    (h : s.books.Recalls js) : (s.endWait id m).1.books.Recalls (js ++ s.forsaken id m) := by
  have hhush : s.books.hush.Recalls js := h.of_eq rfl rfl
  have hsame : s.books.reply = s.reply := rfl
  rw [(endWait_eq s id m).2, hsame, forsaken]
  cases hreply : s.reply with
  | some a =>
    rw [Option.isNone_some, if_neg Bool.false_ne_true, List.append_nil]
    exact hhush
  | none =>
    rw [hpending hreply, Option.isNone_none, if_pos rfl]
    exact hhush.giveUp hsound.hush (hpending hreply) m

lemma recalls_new (config : SessionConfig) : ({ config } : Session).books.Recalls [] := by
  refine ⟨?_, ?_, List.nodup_nil, ?_⟩
  · intro n hn
    cases hn
  · intro n hn
    cases hn
  · intro t ht
    cases ht

/-- A session recalls of its journal which requests were given up on and not answered. -/
lemma tracks_recalls : Tracks fun js s => s.books.Recalls js where
  ask {js s} m args h := by
    rcases ask_cases s m args with ⟨-, -, hbooks⟩ | ⟨-, hbooks⟩ <;> rw [hbooks]
    · have hhush : s.books.hush.Recalls js := h.of_eq rfl rfl
      exact hhush.issue m true
    · exact h.close.skip.of_eq rfl rfl
  notify m h := h.calm (calm_send rfl)
  detach {js s} h := by
    rw [books_detach]
    exact h.close
  breakpoints _ h := h.of_eq rfl rfl
  modify {js s f} hf h := by
    refine h.of_table (Nat.le_refl _) fun t' ht' => ?_
    obtain ⟨c', hc', rfl⟩ := Option.map_eq_some_iff.mp ht'
    obtain ⟨c, hc, rfl⟩ := Option.map_eq_some_iff.mp hc'
    obtain ⟨_, _, _, _, hsame⟩ := hf c
    rw [hsame]
    exact ⟨c.table, congrArg (Option.map _) hc, rfl, fun _ hp => .inr hp⟩
  input text h := h.calm (calm_provideInput _ text)
  connected remote _ h := h.connect.of_eq rfl rfl
  endWait hsound hpending h := recalls_endWait hsound hpending h
  frame payload hattached hsound h := recalls_receiveFrame hattached hsound h payload

end Session

/-! ### Answers to what was given up on -/

/-- Whether an answer says that a request was carried out. A jump that is refused is answered by
a message. -/
def Method.accepts (m : Method) : Except RemoteError Json → Bool
  | .ok (.string _) => m != .jump
  | .ok _           => true
  | .error _        => false

/-- A request succeeds if its answer is accepted. -/
lemma isOk_resultOf (m : Method) (outcome : Except RemoteError Json) :
    (resultOf m outcome).isOk = m.accepts outcome := by
  cases outcome with
  | error e => rfl
  | ok v =>
    cases v with
    | string message => cases m <;> rfl
    | _ => rfl

namespace Session

variable {s : Session} {js : List Incident} {n : RequestId} {m : Method} {payload : Bytes}

/-- The session that does not remember a request any more. -/
def forget (s : Session) (n : RequestId) : Session :=
  s.modifyConnection fun c => { c with abandoned := without n c.abandoned }

lemma state_forget (s : Session) (n : RequestId) : (s.forget n).state = s.state := by
  cases hc : s.connection <;> simp [forget, modifyConnection, state, hc]

lemma state_clearInteraction (hattached : s.isAttached) :
    s.clearInteraction.state = .running := by
  obtain ⟨c, hc⟩ := Option.isSome_iff_exists.mp hattached
  simp [clearInteraction, publish, modifyConnection, state, hc]

/-- What was given up on is not pending. -/
lemma pending_notMem_of_given (h : s.books.Recalls js) (hn : n ∈ forsakenIds js) :
    ∀ p, (n, p) ∉ s.pending := by
  intro p hp
  obtain ⟨t, ht, hmem⟩ := mem_pending_iff.mp hp
  exact h.settled n hn t ht (n, p) hmem rfl

lemma lookup_pending_of_notMem {c : Connection} (hc : s.connection = some c)
    (hn : ∀ p, (n, p) ∉ s.pending) :
    c.pending.lookup n = none := by
  refine List.lookup_eq_none_iff.mpr fun q hq => bne_iff_ne.mpr ?_
  rintro rfl
  refine hn q.2 ?_
  rw [pending, hc]
  exact hq

/-- The answer to a request that is remembered tells whether the program runs on. -/
lemma receiveFrame_of_remembered (hattached : s.isAttached) (hpending : ∀ p, (n, p) ∉ s.pending)
    (hsorted : s.abandoned.Pairwise fun a b => a.1 < b.1) (hmem : (n, m) ∈ s.abandoned)
    {outcome : Except RemoteError Json}
    (hdecode : Record.decode payload = .ok (.response n outcome)) :
    s.receiveFrame payload
      = if m.resumes && m.accepts outcome then (s.forget n).clearInteraction
        else s.forget n := by
  obtain ⟨c, hc⟩ := Option.isSome_iff_exists.mp hattached
  have habandoned : s.abandoned = c.abandoned := by
    rw [abandoned, hc, Option.map_some, Option.getD_some]
  rw [habandoned] at hsorted hmem
  have hnodup : (c.abandoned.map Prod.fst).Nodup :=
    List.pairwise_map.mpr (hsorted.imp Nat.ne_of_lt)
  have hlate : s.receiveFrame payload = ((s.forget n).settle m outcome).1 := by
    rw [receiveFrame, hc, hdecode]
    dsimp only
    rw [receiveRecord, receiveResponse, hc]
    dsimp only
    rw [lookup_pending_of_notMem hc hpending, lookup_of_mem hnodup hmem]
    rfl
  rw [hlate, settle, ← isOk_resultOf]
  cases resultOf m outcome with
  | error e =>
    rw [Except.isOk, Except.toBool, Bool.and_false]
    rfl
  | ok v =>
    rw [Except.isOk, Except.toBool, Bool.and_true]

/-- Whatever comes for a request that is neither pending nor remembered is ignored. -/
lemma receiveFrame_of_unknown_answer (hattached : s.isAttached)
    (hpending : ∀ p, (n, p) ∉ s.pending) (habandoned : ∀ a ∈ s.abandoned, a.1 ≠ n)
    (hconcerns : Engine.concerns n payload) :
    s.receiveFrame payload = s := by
  obtain ⟨c, hc⟩ := Option.isSome_iff_exists.mp hattached
  have hlookup : c.abandoned.lookup n = none := by
    refine List.lookup_eq_none_iff.mpr fun a ha => bne_iff_ne.mpr (Ne.symm (habandoned a ?_))
    rw [abandoned, hc]
    exact ha
  rw [Engine.concerns] at hconcerns
  split at hconcerns
  · next id outcome hdecode =>
    obtain rfl : id = n := eq_of_beq hconcerns
    rw [receiveFrame, hc, hdecode]
    dsimp only
    rw [receiveRecord, receiveResponse, hc]
    dsimp only
    rw [lookup_pending_of_notMem hc hpending, hlookup]
  · cases hconcerns
  · next e hdecode =>
    rw [receiveFrame_of_malformed hattached hdecode]
    exact receiveMalformed_of_unknown (eq_of_beq hconcerns) hpending

end Session

namespace Engine

open Session

/-- A request that was given up on, and that fewer than 64 greater ones given up on since the
connection began have overtaken, is answered late. The first answer tells that the program runs
on, with an event, if the request resumes it and was carried out; otherwise it changes nothing
that is known of the program. Broken answers before, any answer after, and answers to requests
that are neither pending nor remembered, change nothing at all. -/
theorem late_answers (config : SessionConfig) (run : List (Network × Input)) (input : Input)
    (before after : List (Session × Bytes)) (s : Session) (payload : Bytes)
    (hmet : (Engine.run { session := { config } } run).1.meetings input
      = before ++ (s, payload) :: after) :
    let js := Engine.journal { session := { config } } run ++ incidentsIn before
    let s' := s.receiveFrame payload
    (∀ n m outcome earlier since, js = earlier ++ .givenUp n m :: since → .attached ∉ since →
      (∀ q, .handled q ∈ since → Record.answer? q ≠ some n) → (overtakers n js).card < 64 →
      Record.decode payload = .ok (.response n outcome) →
      (m.resumes ∧ m.accepts outcome → s' = (s.forget n).clearInteraction ∧ s'.state = .running ∧
        s'.events.queued = s.events.queued ++ [.clearInteraction]) ∧
      (¬ (m.resumes ∧ m.accepts outcome) → s' = s.forget n ∧ s'.state = s.state ∧
        s'.events = s.events) ∧
      s'.pending = s.pending ∧ s'.reply = s.reply) ∧
    (∀ n m error, .givenUp n m ∈ js → Record.decode payload = .error error →
      error.blame = .answerTo n → s' = s) ∧
    (∀ n m earlier between q later,
      js = earlier ++ .givenUp n m :: between ++ .handled q :: later →
      Record.answer? q = some n → concerns n payload → s' = s) ∧
    (∀ n outcome, Record.decode payload = .ok (.response n outcome) → (∀ p, (n, p) ∉ s.pending) →
      (∀ a ∈ s.abandoned, a.1 ≠ n) → s' = s) := by
  intro js s'
  have hsound : (Engine.run { session := { config } } run).1.Sound := (sound_new config).run run
  have hrecalls : s.books.Recalls js :=
    tracks_meeting tracks_recalls hsound hmet
      (tracks_run tracks_recalls (sound_new config) run (recalls_new config))
  have hattached : s.isAttached :=
    isAttached_of_mem_meetings (hmet ▸ List.mem_append_right before List.mem_cons_self)
  have habandoned : s.abandoned = recalled js := by
    obtain ⟨c, hc⟩ := Option.isSome_iff_exists.mp hattached
    rw [abandoned, hc]
    exact hrecalls.kept c.table (congrArg (Option.map _) hc)
  refine ⟨?_, ?_, ?_, ?_⟩
  · -- the first answer to a request that was given up on
    intro n m outcome earlier since hjs hsame hunanswered hcard hdecode
    have hn : n ∈ forsakenIds js :=
      mem_forsakenIds.mpr ⟨m, hjs ▸ List.mem_append_right earlier List.mem_cons_self⟩
    have hlate := receiveFrame_of_remembered hattached (pending_notMem_of_given hrecalls hn)
      (habandoned ▸ pairwise_recalled js)
      (habandoned ▸ mem_recalled hrecalls.once hjs hsame hunanswered hcard) hdecode
    have hs' : s' = _ := hlate
    rw [hs', ← Bool.and_eq_true]
    have hpending : (s.forget n).pending = s.pending := by
      rw [pending, pending, forget, modifyConnection, Option.map_map]
      rfl
    cases m.resumes && m.accepts outcome with
    | true =>
      rw [if_pos rfl]
      refine ⟨fun _ => ⟨rfl, state_clearInteraction ?_, rfl⟩, fun hnot => absurd rfl hnot,
        ?_, rfl⟩
      · exact (isAttached_modifyConnection s _).trans hattached
      · rw [← hpending, pending, pending, clearInteraction, publish, modifyConnection,
          Option.map_map]
        rfl
    | false =>
      rw [if_neg Bool.false_ne_true]
      exact ⟨fun hruns => absurd hruns Bool.false_ne_true, fun _ => ⟨rfl, state_forget s n, rfl⟩,
        hpending, rfl⟩
  · -- a broken answer to one that was given up on
    intro n m error hmem hdecode hblame
    have hn : n ∈ forsakenIds js := mem_forsakenIds.mpr ⟨m, hmem⟩
    have hdropped := receiveMalformed_of_unknown hblame (pending_notMem_of_given hrecalls hn)
    exact (receiveFrame_of_malformed hattached hdecode).trans hdropped
  · -- an answer that is not the first
    intro n m earlier between q later hjs hanswer hconcerns
    have hn : n ∈ forsakenIds (earlier ++ .givenUp n m :: between) :=
      mem_forsakenIds.mpr ⟨m, List.mem_append_right earlier List.mem_cons_self⟩
    have hgiven : n ∈ forsakenIds js := by
      rw [hjs, forsakenIds_append]
      exact List.mem_append_left _ hn
    exact receiveFrame_of_unknown_answer hattached (pending_notMem_of_given hrecalls hgiven)
      (habandoned ▸ notMem_recalled hrecalls.once hjs hn hanswer) hconcerns
  · -- an answer to a request that is not known
    intro n outcome hdecode hpending hnone
    refine receiveFrame_of_unknown_answer hattached hpending hnone ?_
    rw [concerns, hdecode]
    exact beq_self_eq_true n

/-- A step of a program that did not say in time whether it does it. -/
def overdue : List (Network × Input) := unanswered ++ [(Network.nowhere, .wake)]

/-- An answer to the step that came too late. -/
def belated (outcome : Except RemoteError Json) : Bytes := (Record.response 1 outcome).encode

/-- The program runs on, as the first answer says, and the second one is ignored. -/
theorem late_answers_overdue :
    let e := (Engine.run { session := { config := {} } } overdue).1
    let s := e.session.between
    let s' := s.receiveFrame (belated (.ok .null))
    s.state = .interacting ∧ s'.state = .running ∧
      s'.events.queued = s.events.queued ++ [.clearInteraction] ∧
      s'.receiveFrame (belated (.error { message := "no" })) = s' := by
  intro e s s'
  have hinbox : e.inbox? = some [] := by decide +kernel
  have hmet : e.meetings (.bytes
        ([belated (.ok .null), belated (.error { message := "no" })].flatMap Frame.encode))
      = [(s, belated (.ok .null)), (s', belated (.error { message := "no" }))] := by
    rw [meetings_frames hinbox (by decide +kernel), meetings_cons (by decide +kernel),
      meetings_cons (by decide +kernel)]
    rfl
  let stop :=
    (Record.notification "interaction" [.string "a.py", Json.nat 1, .string "x"] []).encode
  have hjournal : Engine.journal { session := { config := {} } } overdue
      = [.attached, .handled stop] ++ .givenUp 1 .step :: [] := by decide +kernel
  have hanswer : Record.answer? (belated (.ok .null)) = some 1 := by decide +kernel
  have hdecode : Record.decode (belated (.ok .null)) = .ok (.response 1 (.ok .null)) := by
    decide +kernel
  obtain ⟨hfirst, -⟩ := late_answers {} overdue _ [] _ s _ hmet
  obtain ⟨-, -, hsecond, -⟩ := late_answers {} overdue _ [(s, belated (.ok .null))] [] s' _ hmet
  rw [hjournal] at hfirst hsecond
  obtain ⟨hruns, -⟩ :=
    hfirst 1 .step (.ok .null) [.attached, .handled stop] [] rfl (by simp) (by simp)
      (by decide) hdecode
  obtain ⟨-, hstate, hevents⟩ := hruns ⟨rfl, rfl⟩
  refine ⟨by decide +kernel, hstate, hevents, ?_⟩
  exact hsecond 1 .step [.attached, .handled stop] [] (belated (.ok .null)) []
    (by decide +kernel) hanswer (by decide +kernel)

end Engine

end RemoteDebugger
