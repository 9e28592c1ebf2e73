import RemoteDebugger.Proofs.Session.Invariant

/-!
# Who waits

A command that waits for an answer has an entry of its own in the table until the answer comes.
Calls of the agent and answers to others leave that entry alone, and once the command has its
reply nothing changes it.
-/

namespace RemoteDebugger.Books

open Session

variable {b b' : Books} {n : RequestId} {method : Method} {a : Answer}

/-- No command waits. -/
def Idle (b : Books) : Prop := ∀ t, b.table = some t → t.waiters = []

/-- A command waits for the answer to the request `n`. -/
def Waits (b : Books) (n : RequestId) (method : Method) : Prop :=
  b.reply = none ∧ ∃ t, b.table = some t ∧ t.waiters = [(n, { method, awaited := true })]

/-- The command that waited has its answer. -/
def Answered (b : Books) (a : Answer) : Prop := b.reply = some a ∧ b.Idle

/-- The connection ended while a command waited. -/
def Ended (b : Books) : Prop := b.table = none ∧ b.reply = some (.error .disconnected)

/-! ### No command waits -/

lemma idle_of_table_eq_none (h : b.table = none) : b.Idle := by
  intro t ht
  rw [h] at ht
  cases ht

lemma Idle.map (h : b.Idle) {f : Table → Table} (hf : ∀ t, t.waiters = [] → (f t).waiters = []) :
    { b with table := b.table.map f }.Idle := by
  intro t ht
  obtain ⟨u, hu, rfl⟩ := Option.map_eq_some_iff.mp ht
  exact hf u (h u hu)

lemma waiters_append (t : Table) (p : RequestId × Pending) :
    Table.waiters { t with pending := t.pending ++ [p] }
      = t.waiters ++ [p].filter (·.2.awaited) :=
  List.filter_append _ _

lemma filter_without (id : RequestId) (ps : List (RequestId × Pending)) :
    (without id ps).filter (·.2.awaited) = without id (ps.filter (·.2.awaited)) :=
  List.filter_comm _ _ _

lemma Idle.strike (h : b.Idle) (id : RequestId) : (b.strike id).Idle := by
  refine h.map fun t ht => ?_
  rw [Table.waiters, filter_without]
  exact congrArg (without id) ht

lemma Idle.giveUp (h : b.Idle) (id : RequestId) (method : Method) :
    (b.giveUp id method).Idle := by
  refine h.map fun t ht => ?_
  rw [Table.waiters, filter_without]
  exact congrArg (without id) ht

lemma table_close (b : Books) : b.close.table = none := by
  simp only [close]
  split
  · assumption
  · rfl

lemma Idle.reply_close (h : b.Idle) : b.close.reply = b.reply := by
  simp only [close]
  split
  · rfl
  · next t ht =>
    have hnone : t.pending.any (·.2.awaited) = false := by
      rw [List.any_eq_false]
      exact fun p hp => List.filter_eq_nil_iff.mp (h t ht) p hp
    simp [hnone]

lemma Idle.issue (h : b.Idle) (method : Method) : (b.issue method false).Idle := by
  intro t ht
  obtain ⟨u, hu, rfl⟩ := Option.map_eq_some_iff.mp ht
  rw [waiters_append, h u hu]
  rfl

/-- What is pending is not awaited. -/
lemma Idle.awaited (h : b.Idle) {id : RequestId} {p : Pending} (hp : b.pending? id = some p) :
    p.awaited = false := by
  obtain ⟨t, ht, hmem⟩ := mem_of_pending? hp
  by_contra hawaited
  have hwaiter : (id, p) ∈ t.waiters := List.mem_filter.mpr ⟨hmem, by simpa using hawaited⟩
  rw [h t ht] at hwaiter
  cases hwaiter

/-- What is calm leaves nothing waiting, and brings no reply. -/
lemma Idle.calm (h : b.Idle) (hcalm : Calm b b') : b'.Idle ∧ b'.reply = b.reply := by
  induction hcalm with
  | refl => exact ⟨h, rfl⟩
  | close _ ih => exact ⟨idle_of_table_eq_none (table_close _), ih.1.reply_close.trans ih.2⟩
  | skip _ ih => exact ih
  | tell method _ ih => exact ⟨ih.1.issue method, ih.2⟩

/-- A payload brings no reply while nothing waits. -/
lemma Idle.onFrame (h : b.Idle) {payload : Bytes} (hframe : OnFrame b payload b') :
    b'.Idle ∧ b'.reply = b.reply := by
  cases hframe with
  | answer _ =>
    simp only [answer]
    split
    · next p hp =>
      rw [h.awaited hp]
      exact ⟨h.strike _, rfl⟩
    · exact ⟨h.map fun _ ht => ht, rfl⟩
  | reject _ _ =>
    simp only [reject]
    split
    · next p hp =>
      rw [h.awaited hp]
      exact ⟨h.giveUp _ _, rfl⟩
    · exact ⟨h, rfl⟩
  | calm _ hcalm => exact h.calm hcalm

/-- What an operation does before it waits leaves nothing waiting. -/
lemma Idle.works (h : b.Idle) (hworks : Works b b') : b'.Idle := by
  induction hworks with
  | refl => exact h
  | calm _ hcalm ih => exact (ih.calm hcalm).1
  | hush _ ih => exact ih
  | connect _ ih =>
    intro t ht
    cases ht
    rfl

lemma Answered.calm (h : b.Answered a) (hcalm : Calm b b') : b'.Answered a :=
  ⟨(h.2.calm hcalm).2.trans h.1, (h.2.calm hcalm).1⟩

lemma Answered.onFrame (h : b.Answered a) {payload : Bytes} (hframe : OnFrame b payload b') :
    b'.Answered a :=
  ⟨(h.2.onFrame hframe).2.trans h.1, (h.2.onFrame hframe).1⟩

lemma Answered.keep (h : b.Answered a) (inbox : Bytes) : (b.keep inbox).Answered a :=
  ⟨h.1, h.2.map fun _ ht => ht⟩

/-- The end of the connection is the reply to who waits. -/
lemma Ended.answered (h : b.Ended) : b.Answered (.error .disconnected) :=
  ⟨h.2, idle_of_table_eq_none h.1⟩

/-! ### A command waits -/

/-- A wait is over as the connection ends. -/
lemma Waits.close (h : b.Waits n method) : b.close.Ended := by
  obtain ⟨hreply, t, ht, hwaiters⟩ := h
  have hany : t.pending.any (·.2.awaited) = true := by
    have hmem : (n, { method, awaited := true }) ∈ t.waiters := by
      rw [hwaiters]
      exact List.mem_singleton_self _
    exact List.any_eq_true.mpr ⟨_, List.mem_filter.mp hmem⟩
  refine ⟨table_close b, ?_⟩
  simp [Books.close, ht, hany, hreply]

/-- A wait goes on over requests that nothing waits for. -/
lemma Waits.issue (h : b.Waits n method) (other : Method) :
    (b.issue other false).Waits n method := by
  obtain ⟨hreply, t, ht, hwaiters⟩ := h
  refine ⟨hreply, _, congrArg (Option.map _) ht, ?_⟩
  rw [waiters_append, hwaiters]
  rfl

lemma Waits.keep (h : b.Waits n method) (inbox : Bytes) : (b.keep inbox).Waits n method := by
  obtain ⟨hreply, t, ht, hwaiters⟩ := h
  exact ⟨hreply, _, congrArg (Option.map _) ht, hwaiters⟩

lemma Ended.calm (h : b.Ended) (hcalm : Calm b b') : b'.Ended := by
  induction hcalm with
  | refl => exact h
  | @close c _ ih =>
    have hclose : c.close = c := by simp [Books.close, ih.1]
    rw [hclose]
    exact ih
  | skip _ ih => exact ih
  | tell other _ ih =>
    refine ⟨?_, ih.2⟩
    rw [Books.issue, ih.1]
    rfl

/-- Calls of the agent leave the command waiting, unless they end the connection. -/
lemma Waits.calm (h : b.Waits n method) (hcalm : Calm b b') : b'.Waits n method ∨ b'.Ended := by
  induction hcalm with
  | refl => exact .inl h
  | close hcalm ih =>
    rcases ih with ih | ih
    · exact .inr ih.close
    · exact .inr (ih.calm Calm.refl.close)
  | skip _ ih => exact ih
  | tell other _ ih =>
    rcases ih with ih | ih
    · exact .inl (ih.issue other)
    · exact .inr (ih.calm (Calm.refl.tell other))

/-- The entry of the request that is waited for. -/
lemma Waits.pending? (h : b.Waits n method) (hs : b.Sound) :
    b.pending? n = some { method, awaited := true } := by
  obtain ⟨-, t, ht, hwaiters⟩ := h
  have hmem : (n, { method, awaited := true }) ∈ t.waiters := by
    rw [hwaiters]
    exact List.mem_singleton_self _
  rw [Books.pending?, ht]
  exact lookup_of_mem (hs.table t ht).pending_nodup (List.mem_filter.mp hmem).1

/-- Any other entry is not awaited. -/
lemma Waits.awaited (h : b.Waits n method) {id : RequestId} {p : Pending}
    (hp : b.pending? id = some p) (hne : id ≠ n) : p.awaited = false := by
  obtain ⟨-, t, ht, hwaiters⟩ := h
  obtain ⟨u, hu, hmem⟩ := mem_of_pending? hp
  rw [ht] at hu
  cases hu
  by_contra hawaited
  have hwaiter : (id, p) ∈ t.waiters := List.mem_filter.mpr ⟨hmem, by simpa using hawaited⟩
  rw [hwaiters] at hwaiter
  exact hne (congrArg Prod.fst (List.mem_singleton.mp hwaiter))

/-- When the entry that is waited for is struck out, no command waits any more. -/
lemma Waits.idle_map (h : b.Waits n method) {f : Table → Table}
    (hf : ∀ t, (f t).waiters = without n t.waiters) :
    { b with table := b.table.map f }.Idle := by
  obtain ⟨-, t, ht, hwaiters⟩ := h
  intro u hu
  rw [ht] at hu
  cases hu
  rw [hf, hwaiters]
  simp [without]

/-- When another entry is struck out, the command goes on waiting. -/
lemma Waits.map (h : b.Waits n method) {id : RequestId} (hne : id ≠ n) {f : Table → Table}
    (hf : ∀ t, (f t).waiters = without id t.waiters) :
    { b with table := b.table.map f }.Waits n method := by
  obtain ⟨hreply, t, ht, hwaiters⟩ := h
  refine ⟨hreply, f t, congrArg (Option.map f) ht, ?_⟩
  rw [hf, hwaiters]
  simp [without, hne.symm]

/-- An answer to the request that is waited for is its reply. -/
lemma Waits.answer_self (h : b.Waits n method) (hs : b.Sound)
    (outcome : Except RemoteError Json) :
    (b.answer n outcome).Answered (resultOf method outcome) := by
  have hidle : (b.strike n).Idle := h.idle_map fun t => filter_without n t.pending
  rw [answer, h.pending? hs]
  refine ⟨?_, hidle⟩
  simp [deliver, strike, h.1]

/-- A wait goes on over the answer to another request. -/
lemma Waits.answer_other (h : b.Waits n method) {id : RequestId} (hne : id ≠ n)
    (outcome : Except RemoteError Json) : (b.answer id outcome).Waits n method := by
  simp only [answer]
  split
  · next p hp =>
    rw [h.awaited hp hne]
    exact h.map hne fun t => filter_without id t.pending
  · obtain ⟨hreply, t, ht, hwaiters⟩ := h
    exact ⟨hreply, _, congrArg (Option.map _) ht, hwaiters⟩

/-- A broken answer to the request that is waited for is its reply too. -/
lemma Waits.reject_self (h : b.Waits n method) (hs : b.Sound) (e : DecodeError) :
    (b.reject n e).Answered (.error (.malformed e)) := by
  have hidle : (b.giveUp n method).Idle := h.idle_map fun t => filter_without n t.pending
  rw [reject, h.pending? hs]
  refine ⟨?_, hidle⟩
  simp [deliver, giveUp, h.1]

lemma Waits.reject_other (h : b.Waits n method) {id : RequestId} (hne : id ≠ n)
    (e : DecodeError) :
    (b.reject id e).Waits n method := by
  simp only [reject]
  split
  · next p hp =>
    rw [h.awaited hp hne]
    exact h.map hne fun t => filter_without id t.pending
  · exact h

/-- A payload that says something to the command that waits is its answer. -/
lemma Waits.onFrame_some (h : b.Waits n method) (hs : b.Sound) {payload : Bytes}
    (hv : verdict? n method payload = some a) (hframe : OnFrame b payload b') :
    b'.Answered a := by
  cases hframe with
  | @answer id outcome hdecode =>
    simp only [verdict?, hdecode] at hv
    split_ifs at hv with hid
    cases hv
    subst hid
    exact h.answer_self hs outcome
  | @reject id e hdecode hblame =>
    simp only [verdict?, hdecode, hblame, Blame.answerTo.injEq] at hv
    split_ifs at hv with hid
    cases hv
    subst hid
    exact h.reject_self hs e
  | calm hnone _ =>
    rw [hnone] at hv
    cases hv

/-- A payload that says nothing to the command that waits leaves it waiting, unless the
connection ends. -/
lemma Waits.onFrame_none (h : b.Waits n method) {payload : Bytes}
    (hv : verdict? n method payload = none) (hframe : OnFrame b payload b') :
    b'.Waits n method ∨ b'.Ended := by
  cases hframe with
  | @answer id outcome hdecode =>
    have hne : id ≠ n := by
      rintro rfl
      simp [verdict?, hdecode] at hv
    exact .inl (h.answer_other hne outcome)
  | @reject id e hdecode hblame =>
    have hne : id ≠ n := by
      rintro rfl
      simp [verdict?, hdecode, hblame] at hv
    exact .inl (h.reject_other hne e)
  | calm _ hcalm => exact h.calm hcalm

/-! ### What stays as it is -/

/-- The bytes of a frame of which more is to come stay as they are. -/
lemma Calm.inbox (h : Calm b b') :
    b'.table = none ∨ b'.table.map Table.inbox = b.table.map Table.inbox := by
  induction h with
  | refl => exact .inr rfl
  | close _ _ => exact .inl (table_close _)
  | skip _ ih => exact ih
  | tell _ _ ih =>
    refine ih.imp (fun h => ?_) (fun h => ?_)
    · rw [Books.issue, h]
      rfl
    · rw [← h, Books.issue, Option.map_map]
      rfl

lemma Calm.patience (h : Calm b b') : b'.patience = b.patience := by
  induction h with
  | refl => rfl
  | close _ ih =>
    rw [← ih]
    simp only [Books.close]
    split <;> rfl
  | skip _ ih => exact ih
  | tell _ _ ih => exact ih

lemma patience_deliver (b : Books) (awaited : Bool) (a : Answer) :
    (b.deliver awaited a).patience = b.patience := by
  cases awaited <;> rfl

/-- How long an answer is waited for does not change. -/
lemma patience_onFrame {payload : Bytes} (h : OnFrame b payload b') :
    b'.patience = b.patience := by
  cases h with
  | answer _ =>
    simp only [answer]
    split
    · exact patience_deliver _ _ _
    · rfl
  | reject _ _ =>
    simp only [reject]
    split
    · exact patience_deliver _ _ _
    · rfl
  | calm _ hcalm => exact hcalm.patience

/-! ### What comes during a wait -/

/-- What comes to the books while an operation is under way: calls of the agent and operations
that wait for nothing, frames, and the bytes of a frame of which more is to come. -/
inductive Hears (b : Books) : Books → Prop
  | refl : Hears b b
  | calm {b' b'' : Books} : Hears b b' → Calm b' b'' → Hears b b''
  | frame {b' b'' : Books} {payload : Bytes} : Hears b b' → OnFrame b' payload b'' → Hears b b''
  | keep {b' : Books} (inbox : Bytes) : Hears b b' → Hears b (b'.keep inbox)

lemma Hears.trans {a b c : Books} (h : Hears a b) (h' : Hears b c) : Hears a c := by
  induction h' with
  | refl => exact h
  | calm _ hcalm ih => exact ih.calm hcalm
  | frame _ hframe ih => exact ih.frame hframe
  | keep inbox _ ih => exact ih.keep inbox

lemma Calm.hears (h : Calm b b') : Hears b b' := Hears.refl.calm h

lemma Sound.hears (h : b.Sound) (hears : Hears b b') : b'.Sound := by
  induction hears with
  | refl => exact h
  | calm _ hcalm ih => exact ih.calm hcalm
  | frame _ hframe ih => exact ih.onFrame hframe
  | keep inbox _ ih => exact ih.keep inbox

/-- Nothing waits after what is heard, if nothing did before. -/
lemma Idle.hears (h : b.Idle) (hears : Hears b b') : b'.Idle := by
  induction hears with
  | refl => exact h
  | calm _ hcalm ih => exact (ih.calm hcalm).1
  | frame _ hframe ih => exact (ih.onFrame hframe).1
  | keep inbox _ ih => exact ih.map fun _ ht => ht

lemma Answered.hears (h : b.Answered a) (hears : Hears b b') : b'.Answered a := by
  induction hears with
  | refl => exact h
  | calm _ hcalm ih => exact ih.calm hcalm
  | frame _ hframe ih => exact ih.onFrame hframe
  | keep inbox _ ih => exact ih.keep inbox

/-- A command that waits goes on waiting or has its answer. -/
lemma Waits.hears (h : b.Waits n method) (hs : b.Sound) (hears : Hears b b') :
    b'.Waits n method ∨ ∃ a, b'.Answered a := by
  induction hears with
  | refl => exact .inl h
  | calm _ hcalm ih =>
    rcases ih with ih | ⟨a, ih⟩
    · exact (ih.calm hcalm).imp_right fun hended => ⟨_, hended.answered⟩
    · exact .inr ⟨a, ih.calm hcalm⟩
  | @frame c c' payload hc hframe ih =>
    rcases ih with ih | ⟨a, ih⟩
    · cases hv : verdict? n method payload with
      | none => exact (ih.onFrame_none hv hframe).imp_right fun hended => ⟨_, hended.answered⟩
      | some a => exact .inr ⟨a, ih.onFrame_some (hs.hears hc) hv hframe⟩
    · exact .inr ⟨a, ih.onFrame hframe⟩
  | keep inbox _ ih =>
    rcases ih with ih | ⟨a, ih⟩
    · exact .inl (ih.keep inbox)
    · exact .inr ⟨a, ih.keep inbox⟩

lemma Hears.patience (h : Hears b b') : b'.patience = b.patience := by
  induction h with
  | refl => rfl
  | calm _ hcalm ih => exact hcalm.patience.trans ih
  | frame _ hframe ih => exact (patience_onFrame hframe).trans ih
  | keep _ _ ih => exact ih

end RemoteDebugger.Books
