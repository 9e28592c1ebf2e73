import RemoteDebugger.Proofs.Session.Writing

/-!
# Malformed payloads

A payload that is no record changes nothing of what a session knows of the program. A broken
request is refused, a broken answer makes its request one that was given up on, and anything else
is dropped.
-/

namespace RemoteDebugger

/-! ### Blame -/

namespace Record

/-- The number of a payload that answers a request, which is an object with a number and no
method. -/
def naming? (payload : Bytes) : Option RequestId :=
  match (Utf8.decode? payload).bind Json.parse? with
  | some (.object ms) =>
    if (ms.lookup "method").isNone then (ms.lookup "id").bind Json.toNat? else none
  | _                 => none

/-- A payload with a method is to blame on its own number, any other on the number that it
names. -/
lemma blame_of_decode {payload : Bytes} {e : DecodeError} (h : decode payload = .error e) :
    e.blame = ((asking? payload).map Blame.request).getD
      (((naming? payload).map Blame.answerTo).getD .nobody) := by
  rw [decode] at h
  rw [asking?, naming?]
  cases hv : (Utf8.decode? payload).bind Json.parse? with
  | none =>
    rw [hv] at h
    cases h
    rfl
  | some v =>
    rw [hv] at h
    cases v with
    | object ms =>
      dsimp only [ofJson] at h ⊢
      rw [ofMembers] at h
      -- nobody is to blame if the id is broken, and else it is the id of a call or of an answer
      cases hid : decodeId (ms.lookup "id") with
      | error e' =>
        obtain ⟨hblame, hnone⟩ := blame_of_decodeId hid
        rw [hid] at h
        cases h
        rw [hblame, hnone, ite_self, ite_self]
        rfl
      | ok id =>
        rw [hid] at h
        rw [decodeId_eq hid]
        cases hmethod : ms.lookup "method" with
        | none =>
          rw [hmethod] at h
          exact blame_of_decodeResponse h
        | some method =>
          rw [hmethod] at h
          rw [blame_of_decodeCall h]
          cases id <;> rfl
    | _ =>
      cases h
      rfl

/-- A payload that asks for an answer names no request of the session. -/
lemma naming?_of_asking? {payload : Bytes} {n : RequestId} (h : asking? payload = some n) :
    naming? payload = none := by
  rw [asking?] at h
  rw [naming?]
  cases hv : (Utf8.decode? payload).bind Json.parse? with
  | none => rfl
  | some v =>
    rw [hv] at h
    cases v with
    | object ms =>
      dsimp only at h ⊢
      split_ifs at h with hmethod
      obtain ⟨method, hms⟩ := Option.isSome_iff_exists.mp hmethod
      rw [hms]
      rfl
    | _ => rfl

end Record

namespace Session

variable {s s' : Session} {n : RequestId} {p : Pending} {e : DecodeError}

/-! ### Requests that are given up on -/

/-- A new number is put among those that were given up on. -/
lemma insertAbandoned_perm {m : Method} {as : List (RequestId × Method)}
    (h : ∀ a ∈ as, n ≠ a.1) :
    (insertAbandoned n m as).Perm ((n, m) :: as) := by
  induction as with
  | nil => exact .refl _
  | cons a as ih =>
    obtain ⟨ha, has⟩ := List.forall_mem_cons.mp h
    rw [insertAbandoned]
    split_ifs with hlt
    · exact .refl _
    · exact ((ih has).cons a).trans (.swap _ _ as)

/-- A request moved from the pending ones to those given up on. Of too many, those with the
smallest numbers are forgotten. -/
structure Moves (n : RequestId) (p : Pending) (s s' : Session) : Prop where
  pending : ∃ before after, s.pending = before ++ (n, p) :: after ∧ s'.pending = before ++ after
  abandoned : ∃ forgotten, (forgotten ++ s'.abandoned).Perm ((n, p.method) :: s.abandoned) ∧
    forgotten.length = s.abandoned.length + 1 - 64 ∧ ∀ f ∈ forgotten,
      ∀ a ∈ s'.abandoned, f.1 < a.1

/-- One entry is struck, and the others stay in their order. -/
lemma without_eq_append {α : Type} {rs : List (RequestId × α)} {x : α}
    (hnodup : (rs.map Prod.fst).Nodup) (hx : (n, x) ∈ rs) :
    ∃ before after, rs = before ++ (n, x) :: after ∧ without n rs = before ++ after := by
  obtain ⟨before, after, rfl⟩ := List.append_of_mem hx
  refine ⟨before, after, rfl, ?_⟩
  rw [List.map_append, List.map_cons, List.nodup_middle, List.nodup_cons, ← List.map_append]
    at hnodup
  have hothers : (before ++ after).filter (·.1 != n) = before ++ after := by
    refine List.filter_eq_self.mpr fun r hr => bne_iff_ne.mpr ?_
    rintro rfl
    exact hnodup.1 (List.mem_map.mpr ⟨r, hr, rfl⟩)
  rw [without, List.filter_append, List.filter_cons_of_neg (by simp),
    ← List.filter_append, hothers]

/-- What is remembered of the requests given up on are those with the greatest numbers. -/
lemma exists_forgotten {m : Method} {as : List (RequestId × Method)}
    (hsorted : as.Pairwise fun a b => a.1 < b.1) (hnew : ∀ a ∈ as, n ≠ a.1) :
    ∃ forgotten, (forgotten ++ Books.remembered n m as).Perm ((n, m) :: as) ∧
      forgotten.length = as.length + 1 - 64 ∧ ∀ f ∈ forgotten, ∀ a ∈ Books.remembered n m as,
        f.1 < a.1 := by
  have hperm := insertAbandoned_perm (m := m) hnew
  have hall : (insertAbandoned n m as).Pairwise fun a b => a.1 < b.1 :=
    pairwise_insertAbandoned hsorted
  refine ⟨(insertAbandoned n m as).take ((insertAbandoned n m as).length - maxAbandoned), ?_, ?_,
    ?_⟩
  · rw [Books.remembered, List.take_append_drop]
    exact hperm
  · rw [List.length_take, hperm.length_eq, List.length_cons, maxAbandoned]
    omega
  · rw [← List.take_append_drop ((insertAbandoned n m as).length - maxAbandoned)
      (insertAbandoned n m as)] at hall
    exact (List.pairwise_append.mp hall).2.2

/-! ### What a malformed payload leaves alone -/

/-- From one session to the other, nothing changed of what is known of the program, nor of what
its user set and is told. -/
structure Unmoved (s s' : Session) : Prop where
  state : s'.state = s.state
  location : s'.location = s.location
  lastException : s'.lastException = s.lastException
  breakpoints : s'.breakpoints = s.breakpoints
  inputRequest? : s'.inputRequest? = s.inputRequest?
  events : s'.events = s.events
  flags : ∀ flag ∈ [Connection.quitting, Connection.suppressNext, Connection.startContinue],
    s'.connection.map flag = s.connection.map flag

/-- Entries of requests, room and letters are no news of the program. -/
lemma unmoved_of_eq {f : Connection → Connection} {letters : List Letter} {reply : Option Answer}
    (hf : ∀ c, ∃ pending abandoned room, f c = { c with pending, abandoned, room })
    (h : s' = { s.modifyConnection f with letters, reply }) : Unmoved s s' := by
  subst h
  cases hc : s.connection with
  | none =>
    constructor <;> simp [state, inputRequest?, modifyConnection, hc]
  | some c =>
    obtain ⟨pending, abandoned, room, hfc⟩ := hf c
    constructor <;> simp [state, inputRequest?, modifyConnection, hc, hfc]

/-- A request is given up on because of its broken answer, which its command gets if it waits. -/
lemma receiveMalformed_of_answerTo {c : Connection} (hc : s.connection = some c)
    (hblame : e.blame = .answerTo n) (hp : c.pending.lookup n = some p) : s.receiveMalformed e
      = { s.modifyConnection ({ · with
            pending   := without n c.pending
            abandoned := Books.remembered n p.method c.abandoned }) with
          reply := if p.awaited then s.reply.or (some (.error (.malformed e)))
            else s.reply } := by
  simp only [receiveMalformed, hblame, hc, hp]
  cases p.awaited <;> simp [abandon, modifyConnection, deliver, Books.remembered, hc]

/-- A broken request is answered with what is wrong with it. -/
lemma receiveMalformed_of_request (hblame : e.blame = .request n)
    (hwritten : (s.receiveMalformed e).isAttached) : ∃ room, s.receiveMalformed e
      = (s.withLetter (.response n (.error (complaint e.reason)))).modifyConnection
        ({ · with room }) := by
  have hsend : s.receiveMalformed e
      = (s.send (.response n (.error (complaint e.reason)))).1 := by
    simp only [receiveMalformed, hblame]
    rfl
  rcases send_eq s (.response n (.error (complaint e.reason)))
    with ⟨-, room, heq⟩ | ⟨e', heq⟩ <;>
    rw [heq] at hsend
  · exact ⟨room, hsend⟩
  · rw [hsend, isAttached_detach] at hwritten
    cases hwritten

/-- A broken answer to a request that is not pending is dropped. -/
lemma receiveMalformed_of_unknown (hblame : e.blame = .answerTo n)
    (hp : ∀ p, (n, p) ∉ s.pending) :
    s.receiveMalformed e = s := by
  simp only [receiveMalformed, hblame]
  cases hc : s.connection with
  | none => rfl
  | some c =>
    dsimp only
    cases hlookup : c.pending.lookup n with
    | none => rfl
    | some p =>
      have hmem : (n, p) ∈ s.pending := by
        rw [Session.pending, hc]
        exact mem_of_lookup hlookup
      exact absurd hmem (hp p)

/-- A request that is given up on because of its broken answer moves, and nothing else does. -/
lemma moves_receiveMalformed {c : Connection} (hc : s.connection = some c) {next : RequestId}
    (htable : c.table.Sound next) (hblame : e.blame = .answerTo n) (hp : (n, p) ∈ s.pending) :
    s.Moves n p (s.receiveMalformed e) := by
  rw [pending, hc] at hp
  have heq := receiveMalformed_of_answerTo hc hblame (lookup_of_mem htable.pending_nodup hp)
  have hpending : (s.receiveMalformed e).pending = without n c.pending := by
    rw [heq]
    simp [pending, modifyConnection, hc]
  have habandoned : (s.receiveMalformed e).abandoned
      = Books.remembered n p.method c.abandoned := by
    rw [heq]
    simp [abandoned, modifyConnection, hc]
  constructor
  · rw [hpending, pending, hc]
    exact without_eq_append htable.pending_nodup hp
  · rw [habandoned, abandoned, hc]
    exact exists_forgotten htable.abandoned_sorted (htable.disjoint (n, p) hp)

lemma receiveFrame_of_malformed {payload : Bytes} (hattached : s.isAttached)
    (h : Record.decode payload = .error e) : s.receiveFrame payload = s.receiveMalformed e := by
  obtain ⟨c, hc⟩ := Option.isSome_iff_exists.mp hattached
  rw [receiveFrame, hc, h]

/-- A broken request is refused, and nothing else changes. -/
lemma receiveFrame_of_asking? {payload : Bytes} (hattached : s.isAttached)
    (hdecode : Record.decode payload = .error e) (hasking : Record.asking? payload = some n)
    (hwritten : (s.receiveFrame payload).isAttached) : ∃ room, s.receiveFrame payload
      = (s.withLetter (.response n (.error (complaint e.reason)))).modifyConnection
        ({ · with room }) := by
  have hblame := Record.blame_of_decode hdecode
  rw [hasking] at hblame
  rw [receiveFrame_of_malformed hattached hdecode] at hwritten ⊢
  exact receiveMalformed_of_request hblame hwritten

/-- What has to do with no request is dropped. -/
lemma receiveFrame_of_unknown {payload : Bytes} (hattached : s.isAttached)
    (hdecode : Record.decode payload = .error e) (hasking : Record.asking? payload = none)
    (hnaming : ∀ n, Record.naming? payload = some n → ∀ p, (n, p) ∉ s.pending) :
    s.receiveFrame payload = s := by
  have hblame := Record.blame_of_decode hdecode
  rw [hasking, Option.map_none, Option.getD_none] at hblame
  rw [receiveFrame_of_malformed hattached hdecode]
  cases hn : Record.naming? payload with
  | none =>
    rw [hn] at hblame
    simp only [receiveMalformed, hblame]
    rfl
  | some n =>
    rw [hn] at hblame
    exact receiveMalformed_of_unknown hblame (hnaming n hn)

end Session

namespace Engine

open Session

variable {e : Engine}

/-- While a command waits, no reply has come. -/
lemma Sound.reply_of_awaited (h : e.Sound) {q : RequestId × Pending} (hq : q ∈ e.session.pending)
    (hawaited : q.2.awaited) : e.session.reply = none := by
  obtain ⟨t, ht, hmem⟩ := mem_pending_iff.mp hq
  have hwaiter : q ∈ t.waiters := List.mem_filter.mpr ⟨hmem, hawaited⟩
  have hbusy : ¬ e.session.books.Idle := by
    intro hidle
    rw [hidle t ht] at hwaiter
    cases hwaiter
  have hserves := h.serves
  cases htask : e.task with
  | none =>
    rw [htask] at hserves
    exact absurd hserves hbusy
  | some task =>
    rw [htask] at hserves
    cases task with
    | stop _ _ _ => exact absurd hserves hbusy
    | answer n m goal =>
      rcases hserves with hwaits | ⟨a, hanswered⟩
      · exact hwaits.1
      · exact absurd hanswered.2 hbusy

/-- A broken answer makes its request one that was given up on, whose command gets the error if
it waits. -/
lemma Sound.receiveFrame_of_naming? (h : e.Sound) {payload : Bytes} {error : DecodeError}
    {n : RequestId} {p : Pending} (hdecode : Record.decode payload = .error error)
    (hnaming : Record.naming? payload = some n) (hp : (n, p) ∈ e.session.pending) :
    e.session.Moves n p (e.session.receiveFrame payload) ∧
      ∃ pending abandoned, e.session.receiveFrame payload
        = { e.session.modifyConnection ({ · with pending, abandoned }) with
          reply := if p.awaited then some (.error (.malformed error))
            else e.session.reply } := by
  have hattached : e.session.isAttached := isAttached_of_mem_pending hp
  have hasking : Record.asking? payload = none := by
    cases hasking : Record.asking? payload with
    | none => rfl
    | some m =>
      rw [Record.naming?_of_asking? hasking] at hnaming
      cases hnaming
  have hblame := Record.blame_of_decode hdecode
  rw [hasking, hnaming] at hblame
  obtain ⟨c, hc⟩ := Option.isSome_iff_exists.mp hattached
  have htable : c.table.Sound e.session.nextId :=
    h.books.table c.table (congrArg (Option.map _) hc)
  rw [receiveFrame_of_malformed hattached hdecode]
  refine ⟨moves_receiveMalformed hc htable hblame hp, without n c.pending,
    Books.remembered n p.method c.abandoned, ?_⟩
  have hreply : (if p.awaited then e.session.reply.or (some (.error (.malformed error)))
        else e.session.reply)
      = if p.awaited then some (.error (.malformed error)) else e.session.reply := by
    split_ifs with hawaited
    · rw [h.reply_of_awaited hp hawaited, Option.none_or]
    · rfl
  have hlookup : c.pending.lookup n = some p := by
    rw [Session.pending, hc] at hp
    exact lookup_of_mem htable.pending_nodup hp
  rw [receiveMalformed_of_answerTo hc hblame hlookup, hreply]

/-- Whatever a payload that is no record has to do with, it is no news of the program. -/
lemma Sound.unmoved (h : e.Sound) {payload : Bytes} {error : DecodeError}
    (hdecode : Record.decode payload = .error error) (hattached : e.session.isAttached)
    (hwritten : (e.session.receiveFrame payload).isAttached) :
    e.session.Unmoved (e.session.receiveFrame payload) := by
  cases hasking : Record.asking? payload with
  | some n =>
    obtain ⟨room, heq⟩ := receiveFrame_of_asking? hattached hdecode hasking hwritten
    exact unmoved_of_eq (fun c => ⟨c.pending, c.abandoned, room, rfl⟩) heq
  | none =>
    by_cases hpending : ∃ n p, Record.naming? payload = some n ∧ (n, p) ∈ e.session.pending
    · obtain ⟨n, p, hn, hp⟩ := hpending
      obtain ⟨-, pending, abandoned, heq⟩ := h.receiveFrame_of_naming? hdecode hn hp
      exact unmoved_of_eq (fun c => ⟨pending, abandoned, c.room, rfl⟩) heq
    · rw [receiveFrame_of_unknown hattached hdecode hasking fun n hn p hp =>
        hpending ⟨n, p, hn, hp⟩]
      exact ⟨rfl, rfl, rfl, rfl, rfl, rfl, fun _ _ => rfl⟩

/-- A payload that is no record changes nothing of what is known of the program, as long as what
is written is taken. One with a method and a number is answered once, with an error. One with a
number and no method that is pending makes this request one that was given up on, whose command
gets the error if it waits. Any other changes nothing at all. -/
theorem malformed_isolated (config : SessionConfig) (run : List (Network × Input))
    {payload : Bytes} {error : DecodeError} (hdecode : Record.decode payload = .error error) :
    let s := (Engine.run { session := { config } } run).1.session
    let s' := s.receiveFrame payload
    s.isAttached → s'.isAttached → s.Unmoved s' ∧
      (∀ n, Record.asking? payload = some n → ∃ room, s'
        = (s.withLetter (.response n (.error (complaint error.reason)))).modifyConnection
          ({ · with room })) ∧
      (∀ n p, Record.naming? payload = some n → (n, p) ∈ s.pending → s.Moves n p s' ∧
        ∃ pending abandoned, s' = { s.modifyConnection ({ · with pending, abandoned }) with
          reply := if p.awaited then some (.error (.malformed error)) else s.reply }) ∧
      (Record.asking? payload = none →
        (∀ n, Record.naming? payload = some n → ∀ p, (n, p) ∉ s.pending) → s' = s) := by
  intro s s' hattached hwritten
  have hsound : (Engine.run { session := { config } } run).1.Sound := (sound_new config).run run
  refine ⟨hsound.unmoved hdecode hattached hwritten, ?_, ?_, ?_⟩
  · intro n hasking
    exact receiveFrame_of_asking? hattached hdecode hasking hwritten
  · intro n p hnaming hp
    exact hsound.receiveFrame_of_naming? hdecode hnaming hp
  · exact receiveFrame_of_unknown hattached hdecode

/-- The agent was asked for a step and has not answered. -/
def unanswered : List (Network × Input) :=
  [(fun _ _ => .ok (), .start (.attach {})),
    (Network.nowhere, .bytes (Frame.encode
      (Record.notification "interaction" [.string "a.py", Json.nat 1, .string "x"] []).encode)),
    (Network.nowhere, .start .step)]

/-- A request with the number of the step and a method that is none. -/
def brokenRequest :
    Bytes := Utf8.encode (Json.object [("id", Json.nat 1), ("method", .null)]).write

/-- An answer that says nothing. -/
def brokenAnswer (n : RequestId) : Bytes := Utf8.encode (Json.object [("id", Json.nat n)]).write

/-- A broken request with the number of the step is refused, a broken answer to the step ends its
wait, and one to what was never asked is dropped. -/
theorem malformed_isolated_unanswered :
    let s := (Engine.run { session := { config := {} } } unanswered).1.session
    (∃ room, s.receiveFrame brokenRequest = (s.withLetter
        (.response 1 (.error (complaint .methodNotString)))).modifyConnection
          ({ · with room })) ∧
      s.Moves 1 ⟨.step, true⟩ (s.receiveFrame (brokenAnswer 1)) ∧
      (s.receiveFrame (brokenAnswer 1)).reply
        = some (.error (.malformed ⟨.answerTo 1, .noOutcome⟩)) ∧
      s.receiveFrame (brokenAnswer 2) = s := by
  have hrequest : Record.decode brokenRequest = .error ⟨.request 1, .methodNotString⟩ := by
    decide +kernel
  have hanswer : Record.decode (brokenAnswer 1) = .error ⟨.answerTo 1, .noOutcome⟩ := by
    decide +kernel
  have hunknown : Record.decode (brokenAnswer 2) = .error ⟨.answerTo 2, .noOutcome⟩ := by
    decide +kernel
  obtain ⟨-, hrefused, -⟩ :=
    malformed_isolated {} unanswered hrequest (by decide +kernel) (by decide +kernel)
  obtain ⟨-, -, hmoved, -⟩ :=
    malformed_isolated {} unanswered hanswer (by decide +kernel) (by decide +kernel)
  obtain ⟨-, -, -, hdropped⟩ :=
    malformed_isolated {} unanswered hunknown (by decide +kernel) (by decide +kernel)
  obtain ⟨hmoves, pending, abandoned, hs'⟩ :=
    hmoved 1 ⟨.step, true⟩ (by decide +kernel) (by decide +kernel)
  refine ⟨hrefused 1 (by decide +kernel), hmoves, ?_, ?_⟩
  · exact congrArg Session.reply hs'
  · apply hdropped
    · decide +kernel
    · intro n hn p hp
      have hnaming : Record.naming? (brokenAnswer 2) = some 2 := by decide +kernel
      have hpending :
          ∀ q ∈ (Engine.run { session := { config := {} } } unanswered).1.session.pending,
            q.1 = 1 := by
        decide +kernel
      rw [hnaming] at hn
      cases hn
      cases hpending _ hp

end Engine

end RemoteDebugger
