import RemoteDebugger.Proofs.Session.Outlook

/-!
# Requests that stay

A request stays pending until something is said to it, or the wait for its answer is over, or the
connection ends. So the program goes on being told to run on until it answers. A user goes on
quitting only while the operation is under way that is to end the program.
-/

namespace RemoteDebugger

/-! ### Entries that stay -/

namespace Books

open Session

variable {b b' : Books} {q : RequestId × Pending}

/-- A request is pending. -/
def Holds (b : Books) (q : RequestId × Pending) : Prop := ∃ t, b.table = some t ∧ q ∈ t.pending

/-- What is calm leaves a request pending, unless the connection ends. -/
lemma Holds.calm (h : b.Holds q) (hcalm : Calm b b') : b'.Holds q ∨ b'.table = none := by
  induction hcalm with
  | refl => exact .inl h
  | close _ _ => exact .inr (table_close _)
  | skip _ ih => exact ih
  | tell method _ ih =>
    rcases ih with ⟨t, ht, hq⟩ | hnone
    · left
      exact ⟨_, congrArg (Option.map _) ht, List.mem_append_left _ hq⟩
    · right
      exact congrArg (Option.map _) hnone

/-- To strike one request leaves the others pending. -/
lemma Holds.without (h : b.Holds q) {id : RequestId} (hne : q.1 ≠ id) {f : Table → Table}
    (hf : ∀ t, (f t).pending = Session.without id t.pending) :
    { b with table := b.table.map f }.Holds q := by
  obtain ⟨t, ht, hq⟩ := h
  refine ⟨f t, congrArg (Option.map f) ht, ?_⟩
  rw [hf]
  exact mem_without.mpr ⟨hq, hne⟩

lemma Holds.deliver (h : b.Holds q) (awaited : Bool) (a : Answer) :
    (b.deliver awaited a).Holds q := by
  cases awaited <;> exact h

/-- A payload that says nothing to a request leaves it pending, unless the connection ends. -/
lemma Holds.onFrame (h : b.Holds q) {payload : Bytes} {m : Method}
    (hv : Session.verdict? q.1 m payload = none) (hframe : OnFrame b payload b') :
    b'.Holds q ∨ b'.table = none := by
  cases hframe with
  | @answer id outcome hdecode =>
    have hne : q.1 ≠ id := by
      rintro rfl
      simp [Session.verdict?, hdecode] at hv
    left
    simp only [answer]
    split
    · exact Holds.deliver (h.without hne fun _ => rfl) _ _
    · obtain ⟨t, ht, hq⟩ := h
      exact ⟨_, congrArg (Option.map _) ht, hq⟩
  | @reject id e hdecode hblame =>
    have hne : q.1 ≠ id := by
      rintro rfl
      simp [Session.verdict?, hdecode, hblame] at hv
    left
    simp only [reject]
    split
    · exact Holds.deliver (h.without hne fun _ => rfl) _ _
    · exact h
  | calm _ hcalm => exact h.calm hcalm

end Books

namespace Session

open Books

variable {s s' s'' : Session} {m : Method}

lemma mem_pending_iff {q : RequestId × Pending} : q ∈ s.pending ↔ s.books.Holds q := by
  rw [pending, Books.Holds, books]
  cases s.connection with
  | none => simp
  | some c => simp [Connection.table]

lemma isAttached_of_mem_pending {q : RequestId × Pending} (h : q ∈ s.pending) :
    s.isAttached := by
  obtain ⟨t, ht, -⟩ := mem_pending_iff.mp h
  rw [isAttached_iff, ht]
  rfl

/-- Whether the program was told to run on, and has not answered. -/
def IsResuming (s : Session) : Prop := ∃ q ∈ s.pending, q.2.method = .resume

instance (s : Session) : Decidable s.IsResuming :=
  inferInstanceAs (Decidable (∃ q ∈ s.pending, q.2.method = .resume))

/-- The connection on which the user is quitting. -/
def quitting? (s : Session) : Option Nat :=
  s.connection.bind fun c => if c.quitting then some c.epoch else none

lemma quitting?_eq (s : Session) :
    s.quitting? = s.outlook.posture.bind fun p => if p.quitting then some p.epoch else none := by
  rw [quitting?, outlook]
  cases s.connection <;> rfl

/-- As long as the connection stands, no request is lost, and nobody begins to quit. -/
def Retains (s s' : Session) : Prop :=
  ∀ c', s'.connection = some c' → ∃ c, s.connection = some c ∧
    c.epoch = c'.epoch ∧ (c'.quitting → c.quitting) ∧ c.pending ⊆ c'.pending

lemma Retains.of_eq (h : s'.connection = s.connection) : Retains s s' := by
  intro c hc
  rw [h] at hc
  exact ⟨c, hc, rfl, id, List.Subset.refl _⟩

lemma Retains.of_none (h : s'.connection = none) : Retains s s' := by
  intro c hc
  rw [h] at hc
  cases hc

lemma Retains.trans (h : Retains s s') (h' : Retains s' s'') : Retains s s'' := by
  intro c'' hc''
  obtain ⟨c', hc', hepoch', hquitting', hpending'⟩ := h' c'' hc''
  obtain ⟨c, hc, hepoch, hquitting, hpending⟩ := h c' hc'
  exact ⟨c, hc, hepoch.trans hepoch', fun hq => hquitting (hquitting' hq),
    List.Subset.trans hpending hpending'⟩

/-- A change that leaves the pending requests, and does not set about to quit, retains the
connection. -/
lemma retains_modify {f : Connection → Connection}
    (hf : ∀ c, c.epoch = (f c).epoch ∧ ((f c).quitting → c.quitting) ∧ c.pending ⊆ (f c).pending)
    (s : Session) : Retains s (s.modifyConnection f) := by
  intro c' hc'
  obtain ⟨c, hc, rfl⟩ := Option.map_eq_some_iff.mp hc'
  exact ⟨c, hc, hf c⟩

lemma connection_detach (s : Session) : s.detach.connection = none :=
  connection_of_detached (Bool.eq_false_iff.mp (isAttached_detach s))

lemma retains_send (s : Session) (r : Record) : Retains s (s.send r).1 := by
  rcases send_eq s r with ⟨-, room, heq⟩ | ⟨e, heq⟩
  · rw [heq]
    have hletter : Retains s (s.withLetter r) := Retains.of_eq rfl
    refine hletter.trans (retains_modify ?_ _)
    exact fun c => ⟨rfl, id, List.Subset.refl _⟩
  · rw [heq]
    exact Retains.of_none (connection_detach s)

lemma retains_register (s : Session) (m : Method) (awaited : Bool) :
    Retains s (s.register m awaited) := by
  have hnext : Retains s { s with nextId := s.nextId + 1 } := Retains.of_eq rfl
  refine hnext.trans (retains_modify ?_ _)
  exact fun c => ⟨rfl, id, List.subset_append_left _ _⟩

/-- What is asked is pending, as long as the connection stands. -/
lemma retains_ask (s : Session) (m : Method) (args : List Json) :
    Retains s (s.ask m args).1 := by
  have hhush : Retains s { s with reply := none } := Retains.of_eq rfl
  have hsent := (hhush.trans (retains_register _ m true)).trans
    (retains_send _ (.ask s.nextId m args))
  rw [ask]
  split
  · next hs' =>
    rw [hs'] at hsent
    exact hsent
  · next hs' =>
    rw [hs'] at hsent
    exact hsent.trans (Retains.of_eq rfl)

/-- Every act retains the connection, or ends it. -/
lemma stable_retains : Stable Retains where
  refl _ := Retains.of_eq rfl
  trans := Retains.trans
  ask s m args _ := retains_ask s m args
  notify s m := retains_send s _
  detach s := Retains.of_none (connection_detach s)
  breakpoints _ _ := Retains.of_eq rfl
  suppress s _ := by
    refine retains_modify ?_ s
    exact fun c => ⟨rfl, id, List.Subset.refl _⟩
  relent s := by
    refine retains_modify ?_ s
    exact fun c => ⟨rfl, fun h => absurd h Bool.false_ne_true, List.Subset.refl _⟩

lemma Retains.isResuming (h : Retains s s') (hattached : s'.isAttached) (hs : s.IsResuming) :
    s'.IsResuming := by
  obtain ⟨c', hc'⟩ := Option.isSome_iff_exists.mp hattached
  obtain ⟨c, hc, -, -, hpending⟩ := h c' hc'
  obtain ⟨q, hq, hm⟩ := hs
  rw [pending, hc] at hq
  refine ⟨q, ?_, hm⟩
  rw [pending, hc']
  exact hpending hq

/-- An act that retains the connection does not set about to quit. -/
lemma Retains.quitting? (h : Retains s s') {n : Nat} (hs' : s'.quitting? = some n) :
    s.quitting? = some n := by
  obtain ⟨c', hc', hquitting'⟩ := Option.bind_eq_some_iff.mp hs'
  obtain ⟨c, hc, hepoch, hquitting, -⟩ := h c' hc'
  split_ifs at hquitting' with hq
  rw [Session.quitting?, hc, Option.bind_some, if_pos (hquitting hq), hepoch]
  exact hquitting'

/-! ### The request to run on -/

/-- What was asked is pending, as long as the connection stands. -/
lemma mem_pending_ask {args : List Json} (h : (s.ask m args).1.isAttached) :
    (s.nextId, { method := m, awaited := true }) ∈ (s.ask m args).1.pending := by
  rcases ask_cases s m args with ⟨-, hattached, hbooks⟩ | ⟨-, hbooks⟩
  · obtain ⟨t, ht⟩ := Option.isSome_iff_exists.mp (isAttached_iff.mp hattached)
    rw [mem_pending_iff, hbooks]
    refine ⟨_, congrArg (Option.map _) ht, ?_⟩
    exact List.mem_append_right _ (List.mem_singleton_self _)
  · rw [isAttached_iff, hbooks] at h
    have hnone : s.books.close.skip.hush.table = none := table_close s.books
    rw [hnone] at h
    cases h

/-- A request is written and its answer waited for, or else the connection ends. -/
lemma askFor_cases {args : List Json} {goal : Goal}
    {otherwise : Session → SessionError → Session × Progress}
    (hotherwise : ∀ s' e, Retains s' (otherwise s' e).1)
    (h : (s.askFor m args goal otherwise).1.isAttached) : (s.ask m args).1.isAttached ∧
      s.askFor m args goal otherwise
        = ((s.ask m args).1, .waiting (.answer s.nextId m goal)) := by
  rw [askFor] at h ⊢
  rcases ask_cases s m args with ⟨hr, hattached, hbooks⟩ | ⟨⟨e, hr⟩, hbooks⟩
  · obtain ⟨s', hs'⟩ : ∃ s', s.ask m args = (s', .ok s.nextId) := ⟨_, Prod.ext rfl hr⟩
    rw [hs'] at h ⊢
    exact ⟨h, rfl⟩
  · obtain ⟨s', hs'⟩ : ∃ s', s.ask m args = (s', .error e) := ⟨_, Prod.ext rfl hr⟩
    rw [hs'] at h hbooks
    obtain ⟨c', hc'⟩ := Option.isSome_iff_exists.mp h
    obtain ⟨c, hc, -⟩ := hotherwise s' e c' hc'
    have hnone : s'.books.table = none := by
      rw [hbooks]
      exact table_close s.books
    rw [books, hc] at hnone
    cases hnone

/-- A request to run on is pending once it is written. -/
lemma isResuming_ask (h : (s.ask .resume []).1.isAttached) : (s.ask .resume []).1.IsResuming :=
  ⟨_, mem_pending_ask h, rfl⟩

lemma isResuming_tell (h : (s.tell .resume []).isAttached) : (s.tell .resume []).IsResuming := by
  have hregister := isAttached_of_send h
  have hattached : s.isAttached := by
    rw [register, isAttached_modifyConnection] at hregister
    exact hregister
  have hregistered : (s.register .resume false).IsResuming := by
    obtain ⟨c, hc⟩ := Option.isSome_iff_exists.mp hattached
    refine ⟨(s.nextId, ⟨.resume, false⟩), ?_, rfl⟩
    rw [pending, register, modifyConnection, hc]
    exact List.mem_append_right _ (List.mem_singleton_self _)
  exact (retains_send _ _).isResuming h hregistered

/-- Whether a payload refuses a pending request of a method, or is a broken answer to one. -/
def refuses (s : Session) (m : Method) (payload : Bytes) : Bool :=
  s.pending.any fun q => q.2.method == m && (verdict? q.1 m payload).any (!·.isOk)

/-- The program runs on when it answers that it does. -/
lemma move_of_verdict? (hs : s.books.Sound) {q : RequestId × Pending} (hq : q ∈ s.pending)
    (hm : q.2.method = .resume) {payload : Bytes} {v : Json}
    (hv : verdict? q.1 .resume payload = some (.ok v)) : s.move payload = .run := by
  obtain ⟨c, hc⟩ := Option.isSome_iff_exists.mp (isAttached_of_mem_pending hq)
  obtain ⟨t, ht, hmem⟩ := mem_pending_iff.mp hq
  have hlookup : c.pending.lookup q.1 = some q.2 := by
    rw [← pending?_books hc, Books.pending?, ht]
    exact lookup_of_mem (hs.table t ht).pending_nodup hmem
  rw [verdict?] at hv
  split at hv
  · next id outcome hdecode =>
    split_ifs at hv with hid
    have hok : resultOf .resume outcome = .ok v := Option.some.inj hv
    have hrequested : s.requested? id = some .resume := by
      rw [requested?, hc, Option.bind_some, hid, hlookup, Option.map_some, hm]
      rfl
    rw [move, hdecode]
    dsimp only
    rw [moveOfAnswer, hrequested]
    dsimp only
    rw [hok]
    rfl
  · cases hv
  · split_ifs at hv
    cases Option.some.inj hv

/-- The program goes on being told to run on, unless it does so or refuses, or the connection
ends. -/
lemma isResuming_receiveFrame (hs : s.books.Sound) (h : s.IsResuming) {payload : Bytes}
    (hattached : (s.receiveFrame payload).isAttached)
    (hrefuses : s.refuses .resume payload = false) (hrun : s.move payload ≠ .run) :
    (s.receiveFrame payload).IsResuming := by
  obtain ⟨q, hq, hm⟩ := h
  have hv : verdict? q.1 .resume payload = none := by
    cases hv : verdict? q.1 .resume payload with
    | none => rfl
    | some a =>
      cases a with
      | ok v => exact absurd (move_of_verdict? hs hq hm hv) hrun
      | error e =>
        have hbad : s.refuses .resume payload := by
          refine List.any_eq_true.mpr ⟨q, hq, ?_⟩
          rw [hm, hv]
          rfl
        rw [hrefuses] at hbad
        cases hbad
  rcases Holds.onFrame (mem_pending_iff.mp hq) hv
    (onFrame_receiveFrame (isAttached_of_mem_pending hq) payload) with hheld | hnone
  · exact ⟨q, mem_pending_iff.mpr hheld, hm⟩
  · rw [isAttached_iff, hnone] at hattached
    cases hattached

lemma pending_modifyConnection {f : Connection → Connection}
    (h : ∀ c, (f c).pending = c.pending) :
    (s.modifyConnection f).pending = s.pending := by
  rw [pending, pending, modifyConnection]
  cases s.connection with
  | none => rfl
  | some c => exact h c

/-- The end of a wait brings no new requests. -/
lemma mem_pending_of_endWait {n : RequestId} {q : RequestId × Pending}
    (h : q ∈ (s.endWait n m).1.pending) : q ∈ s.pending := by
  obtain ⟨-, hbooks⟩ := endWait_eq s n m
  rw [mem_pending_iff, hbooks] at h
  rw [mem_pending_iff]
  split at h
  · obtain ⟨t, ht, hq⟩ := h
    obtain ⟨u, hu, rfl⟩ := Option.map_eq_some_iff.mp ht
    exact ⟨u, hu, (mem_without.mp hq).1⟩
  · exact h

end Session

namespace Engine

open Session

variable {e : Engine}

/-- The end of a wait gives up no request to run on, if that one was answered. -/
lemma isResuming_endWait (h : e.Sound) {n : RequestId} {m : Method} {goal : Goal}
    (ht : e.task = some (.answer n m goal)) (hreply : m = .resume → e.session.reply.isSome)
    (hs : e.session.IsResuming) : (e.session.endWait n m).1.IsResuming := by
  obtain ⟨q, hq, hm⟩ := hs
  obtain ⟨-, hbooks⟩ := endWait_eq e.session n m
  obtain ⟨t, htable, hmem⟩ := mem_pending_iff.mp hq
  refine ⟨q, mem_pending_iff.mpr ?_, hm⟩
  have hserves := h.serves
  rw [ht] at hserves
  rw [hbooks]
  rcases hserves with hwaits | ⟨a, hanswered⟩
  · have hpending := hwaits.pending? h.books
    have hne : q.1 ≠ n := by
      rintro rfl
      -- the entry that is given up on is the one that is waited for
      have hsame : e.session.books.pending? q.1 = some q.2 := by
        rw [Books.pending?, htable]
        exact lookup_of_mem (h.books.table t htable).pending_nodup hmem
      rw [hsame, Option.some.injEq] at hpending
      rw [hpending] at hm
      have hsome := hreply hm
      have hnone : e.session.reply = none := hwaits.1
      rw [hnone] at hsome
      cases hsome
    rw [hwaits.1, hpending]
    exact Books.Holds.without (b := e.session.books.hush) ⟨t, htable, hmem⟩ hne fun _ => rfl
  · rw [hanswered.1]
    exact ⟨t, htable, hmem⟩

end Engine

end RemoteDebugger
