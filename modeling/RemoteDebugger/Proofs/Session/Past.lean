import RemoteDebugger.Proofs.Session.Run

/-!
# Sessions with a past

What a session does on a connection does not depend on the connections that it had before. A
session with a past does what one without does, with numbers and letters that go on from those of
the past.
-/

namespace RemoteDebugger

/-- What a session has behind it: the numbers that it gave out, the connections that it had, what
it wrote, and what its user was told. -/
structure Past where
  numbers     : Nat := 0
  connections : Nat := 0
  letters     : List Letter := []
  events      : List Event := []

/-! ### Later numbers -/

/-- An error that is to blame on an answer, with a later number. -/
def DecodeError.later (d : Nat) (e : DecodeError) : DecodeError :=
  { e with blame := match e.blame with
      | .answerTo id => .answerTo (d + id)
      | blame        => blame }

/-- A record of a session, with a later number if it is a request. -/
def Record.callLater (d : Nat) : Record → Record
  | .request id method args kwargs => .request (d + id) method args kwargs
  | r                              => r

/-- A record of an agent, with a later number if it is an answer. -/
def Record.answerLater (d : Nat) : Record → Record
  | .response id outcome => .response (d + id) outcome
  | r                    => r

/-- What was read from a payload, with a later number if it is an answer. -/
def readLater (d : Nat) : Except DecodeError Record → Except DecodeError Record
  | .ok r    => .ok (r.answerLater d)
  | .error e => .error (e.later d)

/-- An error with a later number. -/
def SessionError.later (d : Nat) : SessionError → SessionError
  | .malformed e => .malformed (e.later d)
  | e            => e

/-- A result with a later number, if it is an error that has one. -/
def laterResult {α : Type} (d : Nat) : Except SessionError α → Except SessionError α
  | .ok a    => .ok a
  | .error e => .error (e.later d)

/-- Requests with later numbers. -/
def renumber {α : Type} (d : Nat) (rs : List (RequestId × α)) : List (RequestId × α) :=
  rs.map fun r => (d + r.1, r.2)

def Letter.later (d : Nat) (l : Letter) : Letter := { l with record := l.record.callLater d }

/-- A forced operation on a later connection. -/
def Forced.later (n : Nat) : Forced → Forced
  | .quit epoch => .quit (n + epoch)
  | operation   => operation

def Goal.later (p : Past) : Goal → Goal
  | .forced operation interrupted => .forced (operation.later p.connections) interrupted
  | .resumed operation answer     =>
    .resumed (operation.later p.connections) (laterResult p.numbers answer)
  | goal                          => goal

def Task.later (p : Past) : Task → Task
  | .answer id method goal       => .answer (p.numbers + id) method (goal.later p)
  | .stop pause pauses operation => .stop pause pauses (operation.later p.connections)

def Progress.later (p : Past) : Progress → Progress
  | .finished answer => .finished (laterResult p.numbers answer)
  | .waiting task    => .waiting (task.later p)

/-- A connection after a past, on which there is something else of a frame, if there is something
of one. -/
def Connection.later (p : Past) (inbox : Bytes) (c : Connection) : Connection :=
  { c with
    epoch     := p.connections + c.epoch
    pending   := renumber p.numbers c.pending
    abandoned := renumber p.numbers c.abandoned
    inbox     := if c.inbox.isEmpty then [] else inbox }

/-- A session after a past. -/
def Session.later (p : Past) (inbox : Bytes) (s : Session) : Session :=
  { s with
    epoch      := p.connections + s.epoch
    connection := s.connection.map (Connection.later p inbox)
    nextId     := p.numbers + s.nextId
    events     := ⟨p.events ++ s.events.queued⟩
    letters    := p.letters ++ s.letters.map (Letter.later p.numbers)
    reply      := s.reply.map (laterResult p.numbers) }

section Renumbering

variable {α : Type} {d : Nat}

/-- What is found for a later number is what was found for the number. -/
lemma lookup_renumber (id : RequestId) (rs : List (RequestId × α)) :
    (renumber d rs).lookup (d + id) = rs.lookup id := by
  induction rs with
  | nil => rfl
  | cons r rs ih =>
    obtain ⟨n, x⟩ := r
    have hsame : (d + id == d + n) = (id == n) := by
      rw [Bool.eq_iff_iff, beq_iff_eq, beq_iff_eq, Nat.add_left_cancel_iff]
    rw [renumber, List.map_cons, List.lookup_cons, List.lookup_cons, hsame]
    cases id == n
    · exact ih
    · rfl

lemma without_renumber (id : RequestId) (rs : List (RequestId × α)) :
    Session.without (d + id) (renumber d rs) = renumber d (Session.without id rs) := by
  rw [Session.without, Session.without, renumber, renumber, List.filter_map]
  congr 1
  refine List.filter_congr fun r _ => ?_
  show (d + r.1 != d + id) = (r.1 != id)
  rw [Bool.eq_iff_iff, bne_iff_ne, bne_iff_ne, ne_eq, Nat.add_left_cancel_iff]

/-- Requests with later numbers have none of the earlier ones. -/
lemma lookup_renumber_of_lt {id : RequestId} (h : id < d) (rs : List (RequestId × α)) :
    (renumber d rs).lookup id = none := by
  refine List.lookup_eq_none_iff.mpr fun r hr => ?_
  obtain ⟨q, -, rfl⟩ := List.mem_map.mp hr
  exact bne_iff_ne.mpr (Nat.ne_of_lt (Nat.lt_of_lt_of_le h (Nat.le_add_right d q.1)))

lemma length_renumber (rs : List (RequestId × α)) :
    (renumber d rs).length = rs.length := List.length_map _

lemma renumber_drop (n : Nat) (rs : List (RequestId × α)) :
    (renumber d rs).drop n = renumber d (rs.drop n) := List.map_drop.symm

lemma renumber_append (rs rs' : List (RequestId × α)) :
    renumber d (rs ++ rs') = renumber d rs ++ renumber d rs' := List.map_append

/-- Later numbers have the same order. -/
lemma insertAbandoned_renumber (id : RequestId) (m : Method) (as : List (RequestId × Method)) :
    Session.insertAbandoned (d + id) m (renumber d as)
      = renumber d (Session.insertAbandoned id m as) := by
  induction as with
  | nil => rfl
  | cons a as ih =>
    obtain ⟨n, m'⟩ := a
    have hcons : renumber d ((n, m') :: as) = (d + n, m') :: renumber d as := rfl
    rw [hcons, Session.insertAbandoned, Session.insertAbandoned, ih]
    simp only [Nat.add_lt_add_iff_left, Nat.add_left_cancel_iff]
    split_ifs <;> rfl

end Renumbering

lemma Connection.lookup_pending_later (p : Past) (inbox : Bytes) (c : Connection)
    (id : RequestId) :
    (c.later p inbox).pending.lookup (p.numbers + id) = c.pending.lookup id :=
  lookup_renumber id c.pending

lemma Connection.lookup_abandoned_later (p : Past) (inbox : Bytes) (c : Connection)
    (id : RequestId) :
    (c.later p inbox).abandoned.lookup (p.numbers + id) = c.abandoned.lookup id :=
  lookup_renumber id c.abandoned

namespace Session

open Books

variable {p : Past} {inbox : Bytes} {s s' : Session}

/-- From what one session does, the other one differs by nothing but its past. Agents take all
that is written to them, or nothing more. -/
structure Repeats (p : Past) (inbox : Bytes) (s s' : Session) : Prop where
  eq : s' = s.later p inbox
  inbox : inbox ≠ []
  room : ∀ c, s.connection = some c → c.room = none ∨ c.room = some 0

/-! ### What the past does not matter for -/

lemma state_later (s : Session) : (s.later p inbox).state = s.state := by
  rw [state, state, later]
  cases s.connection <;> rfl

lemma Repeats.state (h : Repeats p inbox s s') : s'.state = s.state := h.eq ▸ state_later s

lemma Repeats.connection (h : Repeats p inbox s s') :
    s'.connection = s.connection.map (Connection.later p inbox) := h.eq ▸ rfl

lemma Repeats.isAttached (h : Repeats p inbox s s') : s'.isAttached = s.isAttached := by
  rw [Session.isAttached, Session.isAttached, h.connection, Option.isSome_map]

lemma Repeats.config (h : Repeats p inbox s s') : s'.config = s.config := h.eq ▸ rfl

lemma Repeats.nextId (h : Repeats p inbox s s') : s'.nextId = p.numbers + s.nextId := h.eq ▸ rfl

lemma Repeats.reply (h : Repeats p inbox s s') :
    s'.reply = s.reply.map (laterResult p.numbers) := h.eq ▸ rfl

/-! ### Changes of a session -/

/-- A session repeats another one through a change that does the same to both connections. -/
lemma Repeats.modify (h : Repeats p inbox s s') {f g : Connection → Connection}
    (hf : ∀ c, g (c.later p inbox) = (f c).later p inbox) (hroom : ∀ c, (f c).room = c.room) :
    Repeats p inbox (s.modifyConnection f) (s'.modifyConnection g) := by
  refine ⟨?_, h.inbox, fun c hc => ?_⟩
  · rw [h.eq, modifyConnection, modifyConnection, later, later, Option.map_map, Option.map_map]
    congr 2
    exact funext hf
  · obtain ⟨c₀, hc₀, rfl⟩ := Option.map_eq_some_iff.mp hc
    rw [hroom]
    exact h.room c₀ hc₀

lemma Repeats.publish (h : Repeats p inbox s s') (e : Event) :
    Repeats p inbox (s.publish e) (s'.publish e) := by
  refine ⟨?_, h.inbox, h.room⟩
  rw [h.eq, Session.publish, Session.publish, EventQueue.publish,
    EventQueue.publish, later, later, ← List.append_assoc]

/-- A reply repeats itself, with the later number in its error. -/
lemma Repeats.deliver (h : Repeats p inbox s s') (a : Answer) :
    Repeats p inbox (s.deliver a) (s'.deliver (laterResult p.numbers a)) := by
  refine ⟨?_, h.inbox, h.room⟩
  rw [h.eq, Session.deliver, Session.deliver, later, later]
  cases s.reply <;> rfl

lemma Repeats.deliverIf (h : Repeats p inbox s s') (awaited : Bool) (a : Answer) :
    Repeats p inbox (if awaited then s.deliver a else s)
      (if awaited then s'.deliver (laterResult p.numbers a) else s') := by
  cases awaited
  · exact h
  · exact h.deliver a

lemma Repeats.hush (h : Repeats p inbox s s') :
    Repeats p inbox { s with reply := none } { s' with reply := none } :=
  ⟨by rw [h.eq]; rfl, h.inbox, h.room⟩

lemma Repeats.breakpoints (h : Repeats p inbox s s') (breakpoints : Registry) :
    Repeats p inbox { s with breakpoints } { s' with breakpoints } :=
  ⟨by rw [h.eq]; rfl, h.inbox, h.room⟩

lemma Repeats.location (h : Repeats p inbox s s') (location : Option Location) :
    Repeats p inbox { s with location } { s' with location } :=
  ⟨by rw [h.eq]; rfl, h.inbox, h.room⟩

lemma Repeats.lastException (h : Repeats p inbox s s') (lastException : Option String) :
    Repeats p inbox { s with lastException } { s' with lastException } :=
  ⟨by rw [h.eq]; rfl, h.inbox, h.room⟩

lemma Repeats.replace (h : Repeats p inbox s s') {c c₁ : Connection} (hc : s.connection = some c)
    (hroom : c₁.room = c.room) :
    Repeats p inbox { s with connection := some c₁ }
      { s' with connection := some (c₁.later p inbox) } := by
  refine ⟨by rw [h.eq]; rfl, h.inbox, fun c₂ hc₂ => ?_⟩
  cases hc₂
  rw [hroom]
  exact h.room c hc

lemma any_renumber (d : Nat) (ps : List (RequestId × Pending)) :
    (renumber d ps).any (·.2.awaited) = ps.any (·.2.awaited) := by
  rw [renumber, List.any_map]
  rfl

/-- A session repeats another one as both are detached. -/
lemma Repeats.detach (h : Repeats p inbox s s') : Repeats p inbox s.detach s'.detach := by
  rw [Session.detach, Session.detach, h.connection]
  cases hc : s.connection with
  | none => exact h
  | some c =>
    rw [Option.map_some]
    dsimp only
    rw [show (c.later p inbox).pending = renumber p.numbers c.pending from rfl, any_renumber]
    have hdelivered := h.deliverIf (c.pending.any (·.2.awaited)) (.error .disconnected)
    have hgone : Repeats p inbox
        { (if c.pending.any (·.2.awaited) then s.deliver (.error .disconnected) else s) with
          connection := none }
        { (if c.pending.any (·.2.awaited) then s'.deliver (.error .disconnected) else s') with
          connection := none } := by
      refine ⟨?_, h.inbox, fun c₁ hc₁ => ?_⟩
      · have heq := hdelivered.eq
        dsimp only [laterResult, SessionError.later] at heq
        rw [heq]
        rfl
      · cases hc₁
    exact hgone.publish .clearInteraction

lemma Repeats.clearInteraction (h : Repeats p inbox s s') :
    Repeats p inbox s.clearInteraction s'.clearInteraction := by
  have hrun : Repeats p inbox (s.modifyConnection fun c => { c with interaction := .running })
      (s'.modifyConnection fun c => { c with interaction := .running }) :=
    h.modify (fun _ => rfl) fun _ => rfl
  exact hrun.publish .clearInteraction

/-! ### Sending -/

/-- What is written repeats itself, whether it can be written or not. -/
lemma Repeats.send (h : Repeats p inbox s s') (r : Record) :
    Repeats p inbox (s.send r).1 (s'.send (r.callLater p.numbers)).1 ∧
      (s'.send (r.callLater p.numbers)).2 = laterResult p.numbers (s.send r).2 := by
  have hwritten : Repeats p inbox
      { s with letters := s.letters ++ [{ record := r, state := s.state }] }
      { s' with
        letters := s'.letters ++ [{ record := r.callLater p.numbers, state := s'.state }] } := by
    refine ⟨?_, h.inbox, h.room⟩
    rw [h.state, h.eq, later, later]
    simp [Letter.later]
  -- a frame with a later number may be longer, but not even the shortest one fits into no room
  have hfull : ∀ r : Record, ¬ (Frame.encode r.encode).length ≤ 0 := fun r hle =>
    Frame.encode_ne_nil r.encode (List.length_eq_zero_iff.mp (Nat.le_zero.mp hle))
  cases hc : s.connection with
  | none =>
    have hc' : s'.connection = none := by rw [h.connection, hc, Option.map_none]
    rw [Session.send, Session.send, hc, hc']
    exact ⟨h, rfl⟩
  | some c =>
    have hc' : s'.connection = some (c.later p inbox) := by
      rw [h.connection, hc, Option.map_some]
    have hsame : (c.later p inbox).room = c.room := rfl
    simp only [Session.send, hc, hc', hsame]
    rw [hc, hc'] at hwritten
    rcases h.room c hc with hroom | hroom <;> simp only [hroom]
    · exact ⟨hwritten, rfl⟩
    · rw [if_neg (hfull _), if_neg (hfull _)]
      exact ⟨h.detach, rfl⟩

lemma Repeats.post (h : Repeats p inbox s s') (r : Record) :
    Repeats p inbox (s.post r) (s'.post (r.callLater p.numbers)) := (h.send r).1

/-- A request repeats itself with a later number. -/
lemma Repeats.register (h : Repeats p inbox s s') (m : Method) (awaited : Bool) :
    Repeats p inbox (s.register m awaited) (s'.register m awaited) := by
  have hnext : Repeats p inbox { s with nextId := s.nextId + 1 }
      { s' with nextId := s'.nextId + 1 } :=
    ⟨by rw [h.eq]; rfl, h.inbox, h.room⟩
  refine hnext.modify (fun c => ?_) fun _ => rfl
  rw [h.nextId, Connection.later, Connection.later, renumber_append]
  rfl

lemma callLater_ask (d : Nat) (id : RequestId) (m : Method) (args : List Json) :
    (Record.ask id m args).callLater d = .ask (d + id) m args := rfl

lemma Repeats.tell (h : Repeats p inbox s s') (m : Method) (args : List Json) :
    Repeats p inbox (s.tell m args) (s'.tell m args) := by
  have hpost := (h.register m false).post (.ask s.nextId m args)
  rw [callLater_ask, ← h.nextId] at hpost
  exact hpost

/-- A request is sent in both cases, with a later number after the past, or it cannot be sent in
either. -/
lemma Repeats.ask (h : Repeats p inbox s s') (m : Method) (args : List Json) :
    Repeats p inbox (s.ask m args).1 (s'.ask m args).1 ∧
      (s'.ask m args).2 = laterResult p.numbers ((s.ask m args).2.map (p.numbers + ·)) := by
  obtain ⟨hsent, hresult⟩ := (h.hush.register m true).send (.ask s.nextId m args)
  rw [callLater_ask, ← h.nextId] at hsent hresult
  simp only [Session.ask]
  cases hs : ({ s with reply := none }.register m true).send (.ask s.nextId m args) with
  | mk t result =>
    cases hs' : ({ s' with reply := none }.register m true).send (.ask s'.nextId m args) with
    | mk t' result' =>
      rw [hs, hs'] at hsent hresult
      dsimp only at hsent hresult
      subst hresult
      cases result with
      | ok _ => exact ⟨hsent, congrArg Except.ok h.nextId⟩
      | error e => exact ⟨hsent.hush, rfl⟩

end Session

end RemoteDebugger
