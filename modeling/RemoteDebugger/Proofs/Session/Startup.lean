import RemoteDebugger.Proofs.Session.Breakpoints
import RemoteDebugger.Proofs.Session.Malformed
import RemoteDebugger.Proofs.Session.Streaming

/-!
# Startup

A program that is about to start is told the breakpoints and the parameters before it gets leave
to run. Nobody waits for the answers to these requests, and whatever comes as an answer to one of
them, at any time, is of no consequence.
-/

namespace RemoteDebugger

open Books

/-! ### Requests whose answers are of no consequence -/

/-- No command waits for the answer to the request `n`, and the program does not run on account
of it. -/
structure Table.Unheeded (n : RequestId) (t : Table) : Prop where
  pending : ∀ p ∈ t.pending, p.1 = n → p.2.awaited = false ∧ p.2.method.resumes = false
  abandoned : ∀ a ∈ t.abandoned, a.1 = n → a.2.resumes = false

namespace Books

open Session

variable {b b' : Books} {n : RequestId}

/-- The number `n` was given out, and no answer to the request is of any consequence. -/
structure Unheeded (b : Books) (n : RequestId) : Prop where
  given : n < b.nextId
  table : ∀ t, b.table = some t → t.Unheeded n

lemma Unheeded.map (h : b.Unheeded n) {f : Table → Table}
    (hf : ∀ t, t.Unheeded n → (f t).Unheeded n) :
    { b with table := b.table.map f }.Unheeded n := by
  refine ⟨h.given, fun t ht => ?_⟩
  obtain ⟨u, hu, rfl⟩ := Option.map_eq_some_iff.mp ht
  exact hf u (h.table u hu)

lemma Unheeded.of_table_eq_none (hn : n < b.nextId) (h : b.table = none) : b.Unheeded n := by
  refine ⟨hn, fun t ht => ?_⟩
  rw [h] at ht
  cases ht

lemma nextId_close (b : Books) : b.close.nextId = b.nextId := by
  rw [Books.close]
  split <;> rfl

lemma Unheeded.close (h : b.Unheeded n) : b.close.Unheeded n :=
  of_table_eq_none (by rw [nextId_close]; exact h.given) (table_close b)

lemma Unheeded.connect (h : b.Unheeded n) : b.connect.Unheeded n := by
  refine ⟨h.given, fun t ht => ?_⟩
  cases ht
  exact ⟨nofun, nofun⟩

/-- A new request has a number of its own. -/
lemma Unheeded.issue (h : b.Unheeded n) (method : Method) (awaited : Bool) :
    (b.issue method awaited).Unheeded n := by
  refine ⟨Nat.lt_succ_of_lt h.given, fun t ht => ?_⟩
  obtain ⟨u, hu, rfl⟩ := Option.map_eq_some_iff.mp ht
  refine ⟨fun p hp hn => ?_, (h.table u hu).abandoned⟩
  rcases List.mem_append.mp hp with hp | hp
  · exact (h.table u hu).pending p hp hn
  · rw [List.mem_singleton.mp hp] at hn
    exact absurd h.given (Nat.not_lt_of_le (Nat.le_of_eq hn))

lemma Unheeded.deliver (h : b.Unheeded n) (awaited : Bool) (a : Answer) :
    (b.deliver awaited a).Unheeded n := by
  cases awaited
  · exact h
  · exact ⟨h.given, h.table⟩

lemma Unheeded.strike (h : b.Unheeded n) (id : RequestId) : (b.strike id).Unheeded n :=
  h.map fun _ ht => ⟨fun p hp => ht.pending p (mem_without.mp hp).1, ht.abandoned⟩

lemma Unheeded.strikeLate (h : b.Unheeded n) (id : RequestId) : (b.strikeLate id).Unheeded n :=
  h.map fun _ ht => ⟨ht.pending, fun a ha => ht.abandoned a (mem_without.mp ha).1⟩

lemma Unheeded.keep (h : b.Unheeded n) (inbox : Bytes) : (b.keep inbox).Unheeded n :=
  h.map fun _ ht => ⟨ht.pending, ht.abandoned⟩

/-- What is given up on is remembered by its method. -/
lemma Unheeded.giveUp (h : b.Unheeded n) {id : RequestId} {method : Method}
    (hmethod : id = n → method.resumes = false) : (b.giveUp id method).Unheeded n := by
  refine h.map fun t ht => ⟨fun p hp => ht.pending p (mem_without.mp hp).1, fun a ha hn => ?_⟩
  rcases mem_remembered ha with rfl | ha
  · exact hmethod hn
  · exact ht.abandoned a ha hn

/-- The entry of the request, if it has one. -/
lemma Unheeded.pending? (h : b.Unheeded n) {p : Pending} (hp : b.pending? n = some p) :
    p.awaited = false ∧ p.method.resumes = false := by
  obtain ⟨t, ht, hmem⟩ := mem_of_pending? hp
  exact (h.table t ht).pending (n, p) hmem rfl

lemma Unheeded.calm (h : b.Unheeded n) (hcalm : Calm b b') : b'.Unheeded n := by
  induction hcalm with
  | refl => exact h
  | close _ ih => exact ih.close
  | skip _ ih => exact ⟨Nat.lt_succ_of_lt ih.given, ih.table⟩
  | tell method _ ih => exact ih.issue method false

/-- A request stays unheeded over every payload. -/
lemma Unheeded.onFrame (h : b.Unheeded n) {payload : Bytes} (hframe : OnFrame b payload b') :
    b'.Unheeded n := by
  cases hframe with
  | @answer id outcome _ =>
    simp only [answer]
    split
    · exact (h.strike id).deliver _ _
    · exact h.strikeLate id
  | @reject id e _ _ =>
    simp only [reject]
    split
    · next p hp =>
      refine (h.giveUp ?_).deliver _ _
      rintro rfl
      exact (h.pending? hp).2
    · exact h
  | calm _ hcalm => exact h.calm hcalm

lemma Unheeded.hears (h : b.Unheeded n) (hears : Hears b b') : b'.Unheeded n := by
  induction hears with
  | refl => exact h
  | calm _ hcalm ih => exact ih.calm hcalm
  | frame _ hframe ih => exact ih.onFrame hframe
  | keep inbox _ ih => exact ih.keep inbox

lemma Unheeded.works (h : b.Unheeded n) (hworks : Works b b') : b'.Unheeded n := by
  induction hworks with
  | refl => exact h
  | calm _ hcalm ih => exact ih.calm hcalm
  | hush _ ih => exact ⟨ih.given, ih.table⟩
  | connect _ ih => exact ih.connect

lemma Unheeded.leads (h : b.Unheeded n) {r : Session × Progress} (hleads : Leads b r) :
    r.1.books.Unheeded n := by
  cases hleads with
  | finished hworks => exact h.works hworks
  | paused hworks => exact h.works hworks
  | @asked s b' method goal hworks _ hs =>
    have hhush : b'.hush.Unheeded n := h.works hworks.hush
    show s.books.Unheeded n
    rw [hs]
    exact hhush.issue method true

end Books

namespace Session

variable {s s' s'' : Session} {n : RequestId} {ps ps' : List (RequestId × Pending)}

/-- A payload changes nothing but the entries of requests that no command waits for. -/
def Disregards (s : Session) (payload : Bytes) : Prop :=
  ∃ pending abandoned, s.receiveFrame payload
    = s.modifyConnection ({ · with pending, abandoned }) ∧
    pending.filter (·.2.awaited) = s.pending.filter (·.2.awaited)

lemma disregards_of_eq {payload : Bytes} (h : s.receiveFrame payload = s) :
    s.Disregards payload := by
  refine ⟨s.pending, s.abandoned, ?_, rfl⟩
  rw [h]
  cases hc : s.connection with
  | none => rw [modifyConnection, hc, Option.map_none, ← hc]
  | some c =>
    rw [modifyConnection, pending, abandoned, hc, Option.map_some, Option.map_some,
      Option.map_some,
      Option.getD_some, Option.getD_some, ← hc]

/-- What is disregarded moves nothing, and brings no reply. -/
lemma Disregards.unmoved {payload : Bytes} (h : s.Disregards payload) :
    s.Unmoved (s.receiveFrame payload) ∧ (s.receiveFrame payload).reply = s.reply := by
  obtain ⟨pending, abandoned, heq, -⟩ := h
  refine ⟨unmoved_of_eq (fun c => ⟨pending, abandoned, c.room, rfl⟩) heq, ?_⟩
  rw [heq]
  rfl

/-- An answer to what does not let the program run on leaves the session as it is. -/
lemma settle_of_not_resumes {m : Method} (h : m.resumes = false) (s : Session)
    (outcome : Except RemoteError Json) : (s.settle m outcome).1 = s := by
  rw [settle]
  split
  · rw [h]
    rfl
  · rfl

/-- To strike a request that is not heeded leaves those that are waited for. -/
lemma awaited_without {c : Connection} (h : c.table.Unheeded n) :
    (without n c.pending).filter (·.2.awaited) = c.pending.filter (·.2.awaited) := by
  rw [filter_without]
  refine List.filter_eq_self.mpr fun p hp => bne_iff_ne.mpr fun hn => ?_
  obtain ⟨hp, hawaited⟩ := List.mem_filter.mp hp
  rw [(h.pending p hp hn).1] at hawaited
  cases hawaited

/-- An answer to a request that is not heeded strikes it at most. -/
lemma receiveResponse_of_unheeded {c : Connection} (hc : s.connection = some c)
    (h : c.table.Unheeded n) (outcome : Except RemoteError Json) :
    s.receiveResponse n outcome = s ∨
      s.receiveResponse n outcome = s.modifyConnection ({ · with
        pending := without n c.pending, abandoned := c.abandoned }) ∨
      s.receiveResponse n outcome = s.modifyConnection ({ · with
        pending := c.pending, abandoned := without n c.abandoned }) := by
  rw [receiveResponse, hc]
  dsimp only
  -- it may be pending still, or given up on, or gone
  cases hp : c.pending.lookup n with
  | some p =>
    obtain ⟨hawaited, hmethod⟩ := h.pending (n, p) (mem_of_lookup hp) rfl
    right
    left
    dsimp only at hawaited hmethod ⊢
    rw [finish]
    dsimp only
    rw [settle_of_not_resumes hmethod, hawaited, if_neg Bool.false_ne_true]
    simp [modifyConnection, hc]
  | none =>
    cases ha : c.abandoned.lookup n with
    | some method =>
      have hmethod := h.abandoned (n, method) (mem_of_lookup ha) rfl
      right
      right
      dsimp only at hmethod ⊢
      rw [finishLate, settle_of_not_resumes hmethod]
      simp [modifyConnection, hc]
    | none => exact .inl rfl

/-- A broken answer to a request that is not heeded strikes it at most. -/
lemma receiveMalformed_of_unheeded {c : Connection} (hc : s.connection = some c)
    (h : c.table.Unheeded n) {e : DecodeError} (hblame : e.blame = .answerTo n) :
    s.receiveMalformed e = s ∨
      ∃ abandoned, s.receiveMalformed e
        = s.modifyConnection ({ · with pending := without n c.pending, abandoned }) := by
  cases hp : c.pending.lookup n with
  | none =>
    left
    rw [receiveMalformed, hblame]
    dsimp only
    rw [hc]
    dsimp only
    rw [hp]
  | some p =>
    obtain ⟨hawaited, -⟩ := h.pending (n, p) (mem_of_lookup hp) rfl
    dsimp only at hawaited
    right
    refine ⟨Books.remembered n p.method c.abandoned, ?_⟩
    rw [receiveMalformed_of_answerTo hc hblame hp, hawaited, if_neg Bool.false_ne_true]
    rfl

/-- Whatever comes as an answer to a request that is not heeded. -/
lemma disregards_of_unheeded (h : s.books.Unheeded n) (hattached : s.isAttached)
    {payload : Bytes} (hconcerns : Engine.concerns n payload) : s.Disregards payload := by
  obtain ⟨c, hc⟩ := Option.isSome_iff_exists.mp hattached
  have htable : c.table.Unheeded n := h.table c.table (congrArg (Option.map _) hc)
  have hpending : s.pending = c.pending := by
    rw [pending, hc]
    rfl
  rw [Engine.concerns] at hconcerns
  split at hconcerns
  · next id outcome hdecode =>
    obtain rfl : id = n := eq_of_beq hconcerns
    have hframe : s.receiveFrame payload = s.receiveResponse id outcome := by
      rw [receiveFrame, hc, hdecode]
      rfl
    rcases receiveResponse_of_unheeded hc htable outcome with heq | heq | heq
    · exact disregards_of_eq (hframe.trans heq)
    · exact ⟨_, _, hframe.trans heq, hpending ▸ awaited_without htable⟩
    · exact ⟨_, _, hframe.trans heq, hpending ▸ rfl⟩
  · cases hconcerns
  · next e hdecode =>
    have hframe := receiveFrame_of_malformed hattached hdecode
    rcases receiveMalformed_of_unheeded hc htable (eq_of_beq hconcerns)
      with heq | ⟨abandoned, heq⟩
    · exact disregards_of_eq (hframe.trans heq)
    · exact ⟨_, _, hframe.trans heq, hpending ▸ awaited_without htable⟩

/-! ### Requests that are written -/

/-- From one session to the other, requests came to be pending, unless the connection ended. -/
structure Enters (ps : List (RequestId × Pending)) (s s' : Session) : Prop where
  attached : s'.isAttached → s.isAttached
  table : s'.isAttached →
    s'.books.table = s.books.table.map fun t => { t with pending := t.pending ++ ps }

lemma Enters.of_eq (h : s'.books.table = s.books.table) : Enters [] s s' where
  attached hattached := by
    rw [isAttached_iff, h] at hattached
    exact isAttached_iff.mpr hattached
  table _ := by
    rw [h]
    cases s.books.table with
    | none => rfl
    | some t => simp

lemma Enters.trans (h : Enters ps s s') (h' : Enters ps' s' s'') : Enters (ps ++ ps') s s'' where
  attached hattached := h.attached (h'.attached hattached)
  table hattached := by
    rw [h'.table hattached, h.table (h'.attached hattached), Option.map_map]
    congr 1
    funext t
    simp

lemma enters_send (s : Session) (r : Record) : Enters [] s (s.send r).1 := by
  rcases send_cases s r with ⟨-, -, hbooks⟩ | ⟨-, hbooks⟩
  · exact Enters.of_eq (by rw [hbooks])
  · have hgone : ¬ (s.send r).1.isAttached := by
      rw [isAttached_iff, hbooks, table_close]
      exact Bool.false_ne_true
    exact ⟨fun hattached => absurd hattached hgone, fun hattached => absurd hattached hgone⟩

/-- A request that nothing waits for enters one entry. -/
lemma enters_tell (s : Session) (m : Method) (args : List Json) :
    Enters [(s.nextId, { method := m, awaited := false })] s (s.tell m args) := by
  have hregister : Enters [(s.nextId, { method := m, awaited := false })] s
      (s.register m false) := by
    have htable := congrArg Books.table (books_register s m false)
    refine ⟨fun hattached => ?_, fun _ => htable⟩
    rw [register, isAttached_modifyConnection] at hattached
    exact hattached
  exact hregister.trans (enters_send _ _)

/-- Each of the breakpoints enters an entry, with one number after the other. -/
lemma enters_foldl_tell (s : Session) (bs : List Breakpoint) :
    Enters ((bs.zipIdx s.nextId).map fun b =>
      (b.2, { method := .setBreakpoint, awaited := false })) s
      (bs.foldl (fun s b => s.tell .setBreakpoint b.setArgs) s) := by
  induction bs generalizing s with
  | nil => exact Enters.of_eq rfl
  | cons b bs ih =>
    have hrest := ih (s.tell .setBreakpoint b.setArgs)
    rw [(spends_tell s .setBreakpoint b.setArgs).nextId] at hrest
    exact (enters_tell s .setBreakpoint b.setArgs).trans hrest

/-- The entries of the requests to a program that is about to start. -/
def entered (s : Session) : List (RequestId × Pending) :=
  (s.breakpoints.all.zipIdx s.nextId).map
    (fun b => (b.2, { method := .setBreakpoint, awaited := false })) ++
    [(s.nextId + s.breakpoints.all.length, { method := .setParams, awaited := false })]

lemma enters_loaded (s : Session) : Enters s.entered s s.loaded := by
  have hparams :=
    enters_tell (s.breakpoints.all.foldl (fun s b => s.tell .setBreakpoint b.setArgs) s)
    .setParams
      [(s.breakpoints.all.foldl (fun s b => s.tell .setBreakpoint b.setArgs)
        s).config.params.toJson]
  rw [(spends_foldl_tell s s.breakpoints.all).nextId] at hparams
  exact (enters_foldl_tell s s.breakpoints.all).trans hparams

lemma spends_loaded (s : Session) : Spends (s.breakpoints.all.length + 1) s s.loaded :=
  (spends_foldl_tell s s.breakpoints.all).trans (spends_tell _ .setParams _)

/-- A startup enters the breakpoints and the parameters. -/
lemma enters_receiveStartup (s : Session) (id : Option RequestId) :
    Enters s.entered s (s.receiveStartup id) := by
  have hresponded : Enters [] s.loaded (s.loaded.respond id (.ok .null)) := by
    cases id with
    | none => exact Enters.of_eq rfl
    | some id => exact enters_send _ _
  have hreleased : Enters [] (s.loaded.respond id (.ok .null))
      (s.loaded.respond id (.ok .null)).released := by
    refine Enters.trans (Enters.of_eq ?_) (enters_send _ _)
    split_ifs
    · exact congrArg Books.table (books_modifyConnection_of_eq fun _ => rfl)
    · rfl
  have hall := ((enters_loaded s).trans hresponded).trans hreleased
  rw [List.append_nil, List.append_nil] at hall
  exact hall

/-- A startup uses up as many numbers as it writes requests. -/
lemma spends_receiveStartup (s : Session) (id : Option RequestId) :
    Spends (s.breakpoints.all.length + 1) s (s.receiveStartup id) := by
  have hresponded : Spends 0 s.loaded (s.loaded.respond id (.ok .null)) := by
    cases id with
    | none => exact ⟨_, _, _, _, rfl⟩
    | some id => exact spends_send _ _
  have hreleased : Spends 0 (s.loaded.respond id (.ok .null))
      (s.loaded.respond id (.ok .null)).released := by
    refine Spends.trans (n := 0) ?_ (spends_send _ _)
    split_ifs <;> exact ⟨_, _, _, _, rfl⟩
  exact ((spends_loaded s).trans hresponded).trans hreleased

/-- No command waits for a request whose answer nobody waits for. -/
lemma Enters.unheeded (h : Enters ps s s') (hattached : s'.isAttached) (hs : s.books.Sound)
    (hps : ∀ p ∈ ps, p.2.awaited = false ∧ p.2.method.resumes = false) (hn : s.nextId ≤ n)
    (hn' : n < s'.nextId) : s'.books.Unheeded n := by
  refine ⟨hn', fun t ht => ?_⟩
  rw [h.table hattached] at ht
  obtain ⟨u, hu, rfl⟩ := Option.map_eq_some_iff.mp ht
  refine ⟨fun p hp hpn => ?_, fun a ha han => ?_⟩
  · rcases List.mem_append.mp hp with hp | hp
    · -- the numbers of older requests are smaller
      have hlt : p.1 < s.nextId := (hs.table u hu).pending_lt p hp
      exact absurd (hpn ▸ hlt) (Nat.not_lt_of_le hn)
    · exact hps p hp
  · have hlt : a.1 < s.nextId := (hs.table u hu).abandoned_lt a ha
    exact absurd (han ▸ hlt) (Nat.not_lt_of_le hn)

/-- No answer to what a startup asks for is heeded. -/
lemma entered_vain (s : Session) :
    ∀ p ∈ s.entered, p.2.awaited = false ∧ p.2.method.resumes = false := by
  intro p hp
  rcases List.mem_append.mp hp with hp | hp
  · obtain ⟨b, -, rfl⟩ := List.mem_map.mp hp
    exact ⟨rfl, rfl⟩
  · rw [List.mem_singleton.mp hp]
    exact ⟨rfl, rfl⟩

/-- What was entered is pending as long as the session is attached. -/
lemma Enters.pending (h : Enters ps s s') (hattached : s'.isAttached) :
    s'.pending = s.pending ++ ps := by
  obtain ⟨c, hc⟩ := Option.isSome_iff_exists.mp (h.attached hattached)
  obtain ⟨c', hc'⟩ := Option.isSome_iff_exists.mp hattached
  have htable := h.table hattached
  rw [books, books, hc, hc', Option.map_some, Option.map_some, Option.map_some,
    Option.some.injEq] at htable
  rw [Session.pending, Session.pending, hc, hc']
  exact congrArg Table.pending htable

/-- What holds of a session that meets payloads, and stays with every payload, holds of all that
they meet. -/
lemma meetings_induct {P : Session → Prop}
    (hframe : ∀ s p, s.isAttached → P s → P (s.receiveFrame p)) (h : P s)
    {payloads : List Bytes} :
    ∀ m ∈ s.meetings payloads, P m.1 := by
  induction payloads generalizing s with
  | nil =>
    intro m hm
    cases hm
  | cons p payloads ih =>
    intro m hm
    rw [meetings] at hm
    split_ifs at hm with hattached
    · rcases List.mem_cons.mp hm with rfl | hm
      · exact h
      · exact ih (hframe s p hattached h) m hm
    · cases hm

end Session

namespace Breakpoint

/-- Lasting breakpoints are in order of their files, and those of a file in order of their
lines. -/
lemma Precedes.place {b c : Breakpoint} (h : b.Precedes c) (hb : b.temporary = false)
    (hc : c.temporary = false) :
    b.file < c.file ∨ b.file = c.file ∧ lineBefore b.line c.line := by
  simpa [Precedes, Key.before, key, hb, hc] using h

end Breakpoint

namespace Engine

open Session

variable {e : Engine} {n : RequestId}

/-! ### Over a run -/

/-- A payload is met after those before it, and the breakpoints are the same. -/
lemma hears_of_mem_meetings {input : Input} {m : Session × Bytes} (hm : m ∈ e.meetings input) :
    Hears e.session.books m.1.books ∧ m.1.breakpoints = e.session.breakpoints := by
  cases input with
  | bytes bytes =>
    have hm' : m ∈ e.session.meetingsIn bytes := hm
    rw [meetingsIn] at hm'
    split at hm'
    · cases hm'
    · next c hc =>
      refine meetings_induct (P := fun s => Hears e.session.books s.books ∧
        s.breakpoints = e.session.breakpoints) ?_ ?_ m hm'
      · intro s p hattached ⟨hears, hbreakpoints⟩
        exact ⟨hears.frame (onFrame_receiveFrame hattached p),
          (passes_receiveFrame hattached p).undergoes.breakpoints.trans hbreakpoints⟩
      · refine ⟨?_, rfl⟩
        rw [books_emptyInbox hc]
        exact Hears.refl.keep []
  | _ => cases hm

/-- The request that is waited for is heeded. -/
lemma Sound.ne_of_unheeded (h : e.Sound) (hn : e.session.books.Unheeded n) {id : RequestId}
    {method : Method} {goal : Goal} (ht : e.task = some (.answer id method goal))
    (hreply : e.session.books.reply = none) :
    id ≠ n := by
  rintro rfl
  have hserves := h.serves
  rw [ht] at hserves
  rcases hserves with hwaits | ⟨a, hanswered⟩
  · have hawaited := (hn.pending? (hwaits.pending? h.books)).1
    cases hawaited
  · rw [hanswered.1] at hreply
    cases hreply

lemma Sound.unheeded_endWait (h : e.Sound) (hn : e.session.books.Unheeded n) {id : RequestId}
    {method : Method} {goal : Goal} (ht : e.task = some (.answer id method goal)) :
    (e.session.endWait id method).1.books.Unheeded n := by
  have hhush : e.session.books.hush.Unheeded n := ⟨hn.given, hn.table⟩
  rw [(endWait_eq e.session id method).2]
  split
  · next hreply _ => exact hhush.giveUp fun hid => absurd hid (h.ne_of_unheeded hn ht hreply)
  · exact hhush

/-- Whatever happens, a request that is not heeded never will be. -/
lemma Sound.unheeded_step (h : e.Sound) (hn : e.session.books.Unheeded n) (network : Network)
    (input : Input) : (e.step network input).1.session.books.Unheeded n := by
  have hleads : ∀ {s : Session} {r : Session × Progress}, s.books.Unheeded n → Leads s.books r →
      (after r).1.session.books.Unheeded n := by
    intro s r hs hr
    rw [after_session]
    exact hs.leads hr
  cases ht : e.task with
  | none =>
    cases input with
    | start operation =>
      rw [Engine.step, Engine.start, ht]
      exact hleads hn (leads_start e.session network operation)
    | bytes bytes => exact hn.hears (hears_receiveBytes e.session bytes)
    | endOfStream => exact hn.hears (hears_detach e.session)
    | frameTimeout => exact hn.hears (hears_expireFrame e.session)
    | wake =>
      rw [Engine.step, ht]
      exact hn
    | room room => exact hn.hears (hears_room e.session room)
  | some task =>
    by_cases hwake : input = .wake
    · subst hwake
      rw [Engine.step, ht]
      cases task with
      | stop pause pauses operation => exact hleads hn (leads_look e.session pauses operation)
      | answer id method goal => exact hleads (h.unheeded_endWait hn ht) (leads_proceed _ _ goal)
    · exact hn.hears (step_hears ht network hwake).2

/-- A request that is not heeded never will be, over any run. -/
lemma Sound.unheeded_run (h : e.Sound) (hn : e.session.books.Unheeded n)
    (run : List (Network × Input)) :
    (e.run run).1.session.books.Unheeded n := by
  induction run generalizing e with
  | nil => exact hn
  | cons i is ih => exact ih (h.step i.1 i.2) (h.unheeded_step hn i.1 i.2)

/-- A program that is about to start is told the breakpoints in the order of their files and
lines, then the parameters, each with a fresh number, gets an answer if it asked for one, and
last leave to run. No command waits for an answer to what it is told, and whatever later comes as
an answer to any of it, and whenever, changes nothing of what is known of the program, nor
anything for a command that waits. -/
theorem startup_pushed (config : SessionConfig) (run : List (Network × Input)) (e : Engine)
    (he : (Engine.run { session := { config } } run).1 = e) (input : Input) (s : Session)
    (payload : Bytes) (hmet : (s, payload) ∈ e.meetings input) (id : Option RequestId)
    (args : List Json) (kwargs : Members)
    (hstartup : Record.decode payload = .ok (.call id Method.startup.name args kwargs))
    (hwritten : (s.receiveFrame payload).isAttached) :
    let s' := s.receiveFrame payload
    let bs := s.breakpoints.all
    s'.sent = s.sent ++ (bs.zipIdx s.nextId).map (fun b => .ask b.2 .setBreakpoint
          [.string b.1.file, Json.optNat b.1.line, .bool false, Json.optString b.1.condition])
        ++ [.ask (s.nextId + bs.length) .setParams [s.config.params.toJson]]
        ++ (id.map fun n => Record.response n (.ok .null)).toList ++ [.notify .run] ∧
      bs.Pairwise (fun b c => b.file < c.file ∨ b.file = c.file ∧
        Breakpoint.lineBefore b.line c.line) ∧
      (∀ n ∈ s.sent.filterMap Record.requestId?, n < s.nextId) ∧
        s'.nextId = s.nextId + bs.length + 1 ∧
      s'.pending = s.pending ++ s.entered ∧
      ∀ n, s.nextId ≤ n → n < s'.nextId → ∀ (later : List (Network × Input)) (i : Input),
        ∀ m ∈ (({ e with session := s' } : Engine).run later).1.meetings i, concerns n m.2 →
          m.1.Disregards m.2 ∧ m.1.Unmoved (m.1.receiveFrame m.2) ∧
            (m.1.receiveFrame m.2).reply = m.1.reply := by
  intro s' bs
  have hsound : e.Sound := he ▸ (sound_new config).run run
  obtain ⟨hears, hbreakpoints⟩ := hears_of_mem_meetings hmet
  have hattached : s.isAttached := isAttached_of_mem_meetings hmet
  have hs : Sound { e with session := s } := hsound.hears hears
  have htidy : s.breakpoints.Tidy := by
    rw [hbreakpoints, ← he, breakpoints_run]
    exact (Registry.tidy_foldl_note _ ⟨List.Pairwise.nil, fun _ h => nomatch h⟩).1
  have hreceived : s' = s.receiveStartup id := by
    obtain ⟨c, hc⟩ := Option.isSome_iff_exists.mp hattached
    show s.receiveFrame payload = _
    rw [receiveFrame, hc, hstartup]
    cases id <;> rfl
  have houtgoing : s.outgoing payload = s.loading ++ Session.answering id (.ok .null) ++
      [.notify .run] := by
    rw [outgoing, hstartup]
    cases id <;> rfl
  have hloading : s.loading = (bs.zipIdx s.nextId).map (fun b => .ask b.2 .setBreakpoint
      [.string b.1.file, Json.optNat b.1.line, .bool false, Json.optString b.1.condition])
      ++ [.ask (s.nextId + bs.length) .setParams [s.config.params.toJson]] := by
    rw [loading]
    congr 1
    refine List.map_congr_left fun b hb => ?_
    rw [Breakpoint.setArgs, htidy.lasting b.1 (List.fst_mem_of_mem_zipIdx hb)]
  have hspends := spends_receiveStartup s id
  have henters := enters_receiveStartup s id
  rw [← hreceived] at hspends henters
  refine ⟨?_, ?_, hs.books.written_lt, hspends.nextId, henters.pending hwritten, ?_⟩
  · -- what is written, and in this order
    rw [(writes_receiveFrame hattached payload).sent hwritten, houtgoing, hloading]
    simp only [List.append_assoc]
    rfl
  · -- the registry is sorted, and it has no temporary breakpoint
    refine htidy.sorted.imp_of_mem fun hb hc hbefore => ?_
    exact hbefore.place (htidy.lasting _ hb) (htidy.lasting _ hc)
  · -- no answer to any of the requests is heeded, however late it is
    intro n hn hn' later i m hm hconcerns
    have hs' : Sound { e with session := s' } :=
      hs.hears (Hears.refl.frame (onFrame_receiveFrame hattached payload))
    have hunheeded :=
      hs'.unheeded_run (henters.unheeded hwritten hs.books (entered_vain s) hn hn') later
    have hdisregards := disregards_of_unheeded (hunheeded.hears (hears_of_mem_meetings hm).1)
      (isAttached_of_mem_meetings hm) hconcerns
    exact ⟨hdisregards, hdisregards.unmoved⟩

/-- Two breakpoints are set before a connection begins. -/
def prepared : List (Network × Input) :=
  offline ++ [(fun _ _ => .ok (), .start (.attach {}))]

/-- The agent says that its program is about to start. -/
def announcement : Bytes := (Record.request 5 "startup" [] []).encode

/-- Answers to all that the program is told: one is a refusal, one broken, and one says that it
was done. -/
def lateAnswers : List Bytes :=
  [(Record.response 2 (.error { message := "no" })).encode, Utf8.encode "\x7b\"id\":3\x7d",
    (Record.response 1 (.ok .null)).encode]

/-- The two breakpoints are pushed in order, and no answer to any of this matters. -/
theorem startup_pushed_prepared :
    let e := (Engine.run { session := { config := {} } } prepared).1
    let s' := e.session.between.receiveFrame announcement
    let late := ({ e with session := s' } : Engine).meetings
      (.bytes (lateAnswers.flatMap Frame.encode))
    s'.sent = [.ask 1 .setBreakpoint [.string "/a.py", Json.nat 7, .bool false, .null],
        .ask 2 .setBreakpoint [.string "/b.py", Json.nat 3, .bool false, .null],
        .ask 3 .setParams [InteractionParams.toJson {}], .response 5 (.ok .null), .notify .run] ∧
      late.map Prod.snd = lateAnswers ∧ ∀ m ∈ late, m.1.Disregards m.2 := by
  intro e s' late
  have hdecode : Record.decode announcement
      = .ok (.call (some 5) Method.startup.name [] []) := by
    decide +kernel
  have hmet : (e.session.between, announcement)
      ∈ e.meetings (.bytes (Frame.encode announcement)) := by
    obtain ⟨c, hc⟩ :=
      Option.isSome_iff_exists.mp (show e.session.connection.isSome by decide +kernel)
    have hinbox : c.inbox = [] := by
      have hnone : e.inbox? = some [] := by decide +kernel
      rw [inbox?, hc] at hnone
      exact Option.some.inj hnone
    have hcut : (Frame.cut Frame.defaultLimit ([] ++ Frame.encode announcement)).1
        = [announcement] := by
      decide +kernel
    rw [meetings_bytes hc, hinbox, hcut, meetings_cons (by decide +kernel)]
    exact List.mem_cons_self
  obtain ⟨-, -, -, -, -, hlater⟩ :=
    startup_pushed {} prepared e rfl _ e.session.between announcement hmet
    (some 5) [] [] hdecode (by decide +kernel)
  have hlate : late.map Prod.snd = lateAnswers := by decide +kernel
  refine ⟨by decide +kernel, hlate, fun m hm => ?_⟩
  have hconcerned : ∀ payload ∈ lateAnswers, ∃ n, e.session.between.nextId ≤ n ∧ n < s'.nextId ∧
      concerns n payload := by
    have hnext : e.session.between.nextId = 1 ∧ s'.nextId = 4 := by decide +kernel
    rw [hnext.1, hnext.2]
    intro payload hpayload
    simp only [lateAnswers, List.mem_cons, List.not_mem_nil, or_false] at hpayload
    rcases hpayload with rfl | rfl | rfl
    · exact ⟨2, by decide, by decide, by decide +kernel⟩
    · exact ⟨3, by decide, by decide, by decide +kernel⟩
    · exact ⟨1, by decide, by decide, by decide +kernel⟩
  obtain ⟨n, hn, hn', hconcerns⟩ := hconcerned m.2 (hlate ▸ List.mem_map.mpr ⟨m, hm, rfl⟩)
  exact (hlater n hn hn' [] _ m hm hconcerns).1

end Engine

end RemoteDebugger
