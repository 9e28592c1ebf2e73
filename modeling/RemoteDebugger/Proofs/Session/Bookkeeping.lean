import RemoteDebugger.Proofs.Session.Books

/-!
# How the books are kept

What each thing that a session sends or receives comes to for its books. The rest of the session
does not matter for them.
-/

namespace RemoteDebugger

open Books

def Record.requestId? : Record → Option RequestId
  | .request id _ _ _ => some id
  | _                 => none

/-- What is kept of a connection. -/
def Connection.table (c : Connection) : Table :=
  { pending := c.pending, abandoned := c.abandoned, inbox := c.inbox }

/-- What a session has on its requests. -/
def Session.books (s : Session) : Books :=
  { patience := s.config.responseTimeout
    nextId   := s.nextId
    written  := s.sent.filterMap Record.requestId?
    reply    := s.reply
    table    := s.connection.map Connection.table }

namespace Session

variable {s : Session}

/-! ### Changes of a session -/

@[simp] lemma books_publish (s : Session) (e : Event) : (s.publish e).books = s.books := rfl

lemma books_modifyConnection {f : Connection → Connection} {g : Table → Table}
    (h : ∀ c, (f c).table = g c.table) :
    (s.modifyConnection f).books = { s.books with table := s.books.table.map g } := by
  cases hc : s.connection with
  | none => simp [modifyConnection, books, sent, hc]
  | some c => simp [modifyConnection, books, sent, hc, h]

lemma books_modifyConnection_of_eq {f : Connection → Connection}
    (h : ∀ c, (f c).table = c.table) :
    (s.modifyConnection f).books = s.books := by
  rw [books_modifyConnection (g := id) h, Option.map_id_fun]
  rfl

@[simp] lemma books_clearInteraction (s : Session) : s.clearInteraction.books = s.books := by
  rw [clearInteraction, books_publish]
  exact books_modifyConnection_of_eq fun _ => rfl

lemma books_of_connection {c c' : Connection} (hc : s.connection = some c)
    (h : c'.table = c.table) :
    { s with connection := some c' }.books = s.books := by
  simp [books, sent, hc, h]

lemma isAttached_iff : s.isAttached ↔ s.books.table.isSome := by
  simp [isAttached, books]

lemma calm_of_eq {s' : Session} (h : s'.books = s.books) : Calm s.books s'.books := by
  rw [h]
  exact Calm.refl

/-! ### Sending -/

@[simp] lemma books_detach (s : Session) : s.detach.books = s.books.close := by
  cases hc : s.connection with
  | none => simp [detach, close, books, hc]
  | some c =>
    by_cases hwait : c.pending.any (·.2.awaited) <;>
      simp [detach, close, books, sent, hc, hwait, deliver, publish, Connection.table]

/-- A record is written, or else the connection ends. -/
lemma send_cases (s : Session) (r : Record) :
    ((s.send r).2 = .ok () ∧ s.isAttached ∧
        (s.send r).1.books
          = { s.books with written := s.books.written ++ r.requestId?.toList }) ∨
      (∃ e, (s.send r).2 = .error e) ∧ (s.send r).1.books = s.books.close := by
  have hwritten : ((s.letters ++ [({ record := r, state := s.state } : Letter)]).map
        Letter.record).filterMap Record.requestId?
      = (s.letters.map Letter.record).filterMap Record.requestId? ++ r.requestId?.toList := by
    rw [List.map_append, List.filterMap_append]
    cases hr : r.requestId? <;> simp [hr]
  unfold send
  split
  · next hc =>
    right
    refine ⟨⟨_, rfl⟩, ?_⟩
    simp [close, books, hc]
  · next c hc =>
    split
    · left
      refine ⟨rfl, by simp [isAttached, hc], ?_⟩
      simp only [books, sent, hwritten]
    · dsimp only
      split
      · left
        refine ⟨rfl, by simp [isAttached, hc], ?_⟩
        simp only [books, sent, hwritten, hc, Option.map_some, Connection.table]
      · right
        exact ⟨⟨_, rfl⟩, books_detach s⟩

/-- A record that is no request leaves the books calm. -/
lemma calm_send {r : Record} (hr : r.requestId? = none) : Calm s.books (s.send r).1.books := by
  rcases send_cases s r with ⟨-, -, h⟩ | ⟨-, h⟩
  · rw [h, hr]
    simpa using Calm.refl
  · rw [h]
    exact Calm.refl.close

lemma calm_post {r : Record} (hr : r.requestId? = none) : Calm s.books (s.post r).books :=
  calm_send hr

/-- A request takes the next number, and an entry with it. -/
lemma books_register (s : Session) (method : Method) (awaited : Bool) :
    (s.register method awaited).books
      = { s.books with
          nextId := s.books.nextId + 1
          table  := s.books.table.map fun t =>
            { t with pending := t.pending ++ [(s.books.nextId, { method, awaited })] } } :=
  books_modifyConnection fun _ => rfl

/-- A request that nothing waits for leaves the books calm. -/
lemma calm_tell (s : Session) (method : Method) (args : List Json) :
    Calm s.books (s.tell method args).books := by
  rcases send_cases (s.register method false) (.ask s.nextId method args) with ⟨-, -, h⟩ | ⟨-, h⟩
  · have hissue : (s.tell method args).books = s.books.issue method false := by
      rw [tell, post, h, books_register]
      rfl
    rw [hissue]
    exact Calm.refl.tell method
  · have hlost : (s.tell method args).books = s.books.close.skip := by
      rw [tell, post, h, books_register]
      cases ht : s.books.table with
      | none => simp [close, skip, ht]
      | some t =>
        have hwait : (t.pending ++ [(s.books.nextId, (⟨method, false⟩ : Pending))]).any
            (·.2.awaited)
              = t.pending.any (·.2.awaited) := by rw [List.any_append]; simp
        simp only [close, skip, ht, Option.map_some, hwait]
    rw [hlost]
    exact Calm.refl.close.skip

/-- A request that is to be answered is written, or else the connection ends. -/
lemma ask_cases (s : Session) (method : Method) (args : List Json) :
    ((s.ask method args).2 = .ok s.books.nextId ∧ s.isAttached ∧
        (s.ask method args).1.books = s.books.hush.issue method true) ∨
      (∃ e, (s.ask method args).2 = .error e) ∧
        (s.ask method args).1.books = s.books.close.skip.hush := by
  have hregister := books_register { s with reply := none } method true
  unfold ask
  dsimp only
  rcases send_cases ({ s with reply := none }.register method true) (.ask s.nextId method args)
    with ⟨hr, hattached, h⟩ | ⟨⟨e, hr⟩, h⟩
  · left
    obtain ⟨s', hs'⟩ : ∃ s', ({ s with reply := none }.register method true).send
        (.ask s.nextId method args) = (s', .ok ()) := ⟨_, Prod.ext rfl hr⟩
    rw [hs'] at h ⊢
    refine ⟨rfl, by simpa [isAttached, register, modifyConnection] using hattached, ?_⟩
    rw [h, hregister]
    rfl
  · right
    obtain ⟨s', hs'⟩ : ∃ s', ({ s with reply := none }.register method true).send
        (.ask s.nextId method args) = (s', .error e) := ⟨_, Prod.ext rfl hr⟩
    rw [hs'] at h ⊢
    refine ⟨⟨e, rfl⟩, ?_⟩
    have hhush : { s' with reply := none }.books = s'.books.hush := rfl
    rw [hhush, h, hregister]
    cases ht : s.connection <;> simp [close, skip, hush, books, sent, ht]

/-! ### Receiving -/

/-- What a payload says to the command that waits for the answer to the request `n`: the outcome
of an answer to it, or that the answer is broken. -/
def verdict? (n : RequestId) (method : Method) (payload : Bytes) : Option Answer :=
  match Record.decode payload with
  | .ok (.response id outcome) => if id = n then some (resultOf method outcome) else none
  | .ok _                      => none
  | .error e                   =>
    if e.blame = .answerTo n then some (.error (.malformed e)) else none

/-- What a payload comes to for the books. -/
inductive OnFrame (b : Books) (payload : Bytes) : Books → Prop
  | answer {id : RequestId} {outcome : Except RemoteError Json}
      (h : Record.decode payload = .ok (.response id outcome)) :
        OnFrame b payload (b.answer id outcome)
  | reject {id : RequestId} {e : DecodeError} (h : Record.decode payload = .error e)
      (hblame : e.blame = .answerTo id) : OnFrame b payload (b.reject id e)
  | calm {b' : Books} (h : ∀ n method, verdict? n method payload = none) (hcalm : Calm b b') :
      OnFrame b payload b'

lemma without_of_lookup_eq_none {α : Type} {id : RequestId} {rs : List (RequestId × α)}
    (h : rs.lookup id = none) : without id rs = rs := by
  refine List.filter_eq_self.mpr fun r hr => ?_
  have hne : (id != r.1) = true := List.lookup_eq_none_iff.mp h r hr
  exact bne_iff_ne.mpr (Ne.symm (bne_iff_ne.mp hne))

/-- An answer that is settled leaves the books as they are. -/
lemma settle_eq (s : Session) (method : Method) (outcome : Except RemoteError Json) :
    (s.settle method outcome).1.books = s.books ∧
      (s.settle method outcome).2 = resultOf method outcome := by
  simp only [settle]
  split
  · next v hv =>
    refine ⟨?_, hv.symm⟩
    dsimp only
    split_ifs
    · exact books_clearInteraction s
    · rfl
  · next e he => exact ⟨rfl, he.symm⟩

lemma books_deliver (s : Session) (awaited : Bool) (a : Answer) :
    (if awaited then s.deliver a else s).books = s.books.deliver awaited a := by
  cases awaited <;> rfl

lemma pending?_books {c : Connection} (hc : s.connection = some c) (id : RequestId) :
    s.books.pending? id = c.pending.lookup id := by
  simp [books, pending?, hc, Connection.table]

/-- An answer strikes the entry of its request, whether it is waited for or late. -/
lemma books_receiveResponse (s : Session) (id : RequestId) (outcome : Except RemoteError Json) :
    (s.receiveResponse id outcome).books = s.books.answer id outcome := by
  simp only [receiveResponse, Books.answer]
  split
  · next hc => simp [books, hc, pending?, strikeLate]
  · next c hc =>
    rw [pending?_books hc]
    -- the request is waited for, or it was given up on, or it is not known
    cases hp : c.pending.lookup id with
    | some p =>
      have hstrike : (s.modifyConnection fun c =>
          { c with pending := without id c.pending }).books
            = s.books.strike id := books_modifyConnection fun _ => rfl
      obtain ⟨hbooks, hanswer⟩ := settle_eq
        (s.modifyConnection fun c => { c with pending := without id c.pending }) p.method outcome
      dsimp only
      rw [finish, books_deliver, hbooks, hanswer, hstrike]
    | none =>
      cases ha : c.abandoned.lookup id with
      | some method =>
        dsimp only
        rw [finishLate, (settle_eq _ method outcome).1]
        exact books_modifyConnection fun _ => rfl
      | none =>
        simp [books, hc, strikeLate, Connection.table, without_of_lookup_eq_none ha]

/-- A request that is given up on is remembered in place of its entry. -/
lemma books_giveUp (s : Session) (id : RequestId) (method : Method) :
    ((s.modifyConnection fun c => { c with pending := without id c.pending }).abandon
      id method).books
      = s.books.giveUp id method := by
  rw [abandon, books_modifyConnection (g := fun t =>
    { t with abandoned := remembered id method t.abandoned }) fun _ => rfl,
    books_modifyConnection (g := fun t => { t with pending := without id t.pending }) fun _ =>
      rfl]
  simp [giveUp, Option.map_map, Function.comp_def]

/-- A broken answer is taken for the answer to its request. -/
lemma books_receiveMalformed {e : DecodeError} {id : RequestId} (h : e.blame = .answerTo id)
    (s : Session) : (s.receiveMalformed e).books = s.books.reject id e := by
  simp only [receiveMalformed, Books.reject]
  rw [h]
  dsimp only
  split
  · next hc => simp [books, hc, pending?]
  · next c hc =>
    rw [pending?_books hc]
    cases hp : c.pending.lookup id with
    | none => rfl
    | some p =>
      dsimp only
      rw [books_deliver, books_giveUp]

/-- Anything else that is broken leaves the books calm. -/
lemma calm_receiveMalformed {e : DecodeError} (h : ∀ id, e.blame ≠ .answerTo id) :
    Calm s.books (s.receiveMalformed e).books := by
  simp only [receiveMalformed]
  split
  · exact Calm.refl
  · exact calm_post rfl
  · next id hid => exact absurd hid (h id)

lemma calm_respond (id : Option RequestId) (outcome : Except RemoteError Json) :
    Calm s.books (s.respond id outcome).books := by
  cases id with
  | none => exact Calm.refl
  | some id => exact calm_post rfl

lemma calm_foldl_tell (bs : List Breakpoint) :
    Calm s.books (bs.foldl (fun s b => s.tell .setBreakpoint b.setArgs) s).books := by
  induction bs generalizing s with
  | nil => exact Calm.refl
  | cons b bs ih => exact (calm_tell s .setBreakpoint b.setArgs).trans ih

/-- A startup leaves the books calm, however many breakpoints it sends. -/
lemma calm_receiveStartup (s : Session) (id : Option RequestId) :
    Calm s.books (s.receiveStartup id).books := by
  unfold receiveStartup
  dsimp only
  refine Calm.trans (calm_foldl_tell s.breakpoints.all) ?_
  generalize s.breakpoints.all.foldl (fun s b => s.tell .setBreakpoint b.setArgs) s = told
  refine Calm.trans (calm_tell told .setParams [told.config.params.toJson]) ?_
  refine Calm.trans (calm_respond id (.ok .null)) ?_
  refine Calm.trans ?_ (calm_post (r := .notify .run) rfl)
  split_ifs
  · exact calm_of_eq (books_modifyConnection_of_eq fun _ => rfl)
  · exact Calm.refl

/-- A stop leaves the books calm, and so does the request to go on that it may bring. -/
lemma calm_receiveInteraction (s : Session) (args : List Json) (kwargs : Members) :
    Calm s.books (s.receiveInteraction args kwargs).books := by
  unfold receiveInteraction
  split
  · exact Calm.refl
  · next c hc =>
    dsimp only
    generalize (if FileName.isPseudo (argText args 0) then none else _) = location
    -- whatever is noted of the stop, the table stays
    have hnoted : ∀ c' : Connection, c'.table = c.table →
        Calm s.books { s with connection := some c', location }.books :=
      fun c' h => calm_of_eq (by simp [books, sent, hc, h])
    split
    · refine Calm.trans (hnoted _ ?_) (calm_tell _ .resume [])
      rfl
    · split
      · exact hnoted _ rfl
      · split
        · exact hnoted _ rfl
        · exact hnoted _ rfl

/-- Calls of the agent leave the books calm. -/
lemma calm_receiveCall (s : Session) (id : Option RequestId) (method : String) (args : List Json)
    (kwargs : Members) : Calm s.books (s.receiveCall id method args kwargs).books := by
  simp only [receiveCall]
  split
  · exact calm_respond id _
  · exact calm_receiveStartup s id
  · cases id with
    | none => exact Calm.refl
    | some id =>
      apply calm_of_eq
      dsimp only
      rw [receiveReadLine, books_publish]
      exact books_modifyConnection_of_eq fun _ => rfl
  · exact (calm_receiveInteraction s args kwargs).trans (calm_respond id _)
  · exact (calm_of_eq (books_publish s _)).trans (calm_respond id _)
  · have hsame : (s.receiveException args).books = s.books := rfl
    exact (calm_of_eq hsame).trans (calm_respond id _)
  · exact calm_respond id _

/-- What the payload of a frame comes to. -/
lemma onFrame_receiveFrame (h : s.isAttached) (payload : Bytes) :
    OnFrame s.books payload (s.receiveFrame payload).books := by
  obtain ⟨c, hc⟩ := Option.isSome_iff_exists.mp h
  simp only [receiveFrame]
  rw [hc]
  dsimp only
  cases hdecode : Record.decode payload with
  | ok r =>
    cases r with
    | response id outcome =>
      dsimp only [receiveRecord]
      rw [books_receiveResponse]
      exact .answer hdecode
    | notification method args kwargs =>
      exact .calm (fun n m => by simp [verdict?, hdecode])
        (calm_receiveCall s none method args kwargs)
    | request id method args kwargs =>
      exact .calm (fun n m => by simp [verdict?, hdecode])
        (calm_receiveCall s (some id) method args kwargs)
  | error e =>
    -- only a broken answer is about a request of the session
    by_cases hblame : ∃ id, e.blame = .answerTo id
    · obtain ⟨id, hid⟩ := hblame
      dsimp only
      rw [books_receiveMalformed hid]
      exact .reject hdecode hid
    · have hnot : ∀ id, e.blame ≠ .answerTo id := fun id hid => hblame ⟨id, hid⟩
      exact .calm (fun n m => by simp [verdict?, hdecode, hnot n]) (calm_receiveMalformed hnot)

end Session

end RemoteDebugger
