import RemoteDebugger.Proofs.Session.Letters
import RemoteDebugger.Proofs.Session.Past
import RemoteDebugger.Proofs.Time.Backoff

/-!
# What sessions with a past do

A session with a past receives what comes as one without a past does, if the answers have later
numbers, and answers to the requests of the past itself change nothing. Its operations begin, go
on and end as they do without a past.
-/

namespace RemoteDebugger

namespace Session

variable {p : Past} {inbox : Bytes} {s s' : Session}

/-! ### Answers -/

/-- The errors that requests are answered with have no numbers. -/
lemma laterResult_resultOf (d : Nat) (m : Method) (outcome : Except RemoteError Json) :
    laterResult d (resultOf m outcome) = resultOf m outcome := by
  unfold resultOf
  split
  · split_ifs <;> rfl
  · rfl
  · rfl

/-- An answer is settled alike. -/
lemma Repeats.settle (h : Repeats p inbox s s') (m : Method)
    (outcome : Except RemoteError Json) :
    Repeats p inbox (s.settle m outcome).1 (s'.settle m outcome).1 ∧
      (s'.settle m outcome).2 = laterResult p.numbers (s.settle m outcome).2 := by
  have hresult := laterResult_resultOf p.numbers m outcome
  rw [Session.settle, Session.settle]
  cases hr : resultOf m outcome with
  | ok v =>
    refine ⟨?_, rfl⟩
    dsimp only
    split_ifs
    · exact h.clearInteraction
    · exact h
  | error e =>
    rw [hr] at hresult
    exact ⟨h, hresult.symm⟩

/-- The requests that were not answered without one of them. -/
lemma Repeats.strike (h : Repeats p inbox s s') (id : RequestId) :
    Repeats p inbox (s.modifyConnection fun c => { c with pending := without id c.pending })
      (s'.modifyConnection fun c =>
        { c with pending := without (p.numbers + id) c.pending }) := by
  refine h.modify (fun c => ?_) fun _ => rfl
  rw [Connection.later, Connection.later]
  simp only [without_renumber]

/-- The requests that were given up on without one of them. -/
lemma Repeats.strikeLate (h : Repeats p inbox s s') (id : RequestId) :
    Repeats p inbox (s.modifyConnection fun c => { c with abandoned := without id c.abandoned })
      (s'.modifyConnection fun c =>
        { c with abandoned := without (p.numbers + id) c.abandoned }) := by
  refine h.modify (fun c => ?_) fun _ => rfl
  rw [Connection.later, Connection.later]
  simp only [without_renumber]

lemma Repeats.abandon (h : Repeats p inbox s s') (id : RequestId) (m : Method) :
    Repeats p inbox (s.abandon id m) (s'.abandon (p.numbers + id) m) := by
  refine h.modify (fun c => ?_) fun _ => rfl
  rw [Connection.later, Connection.later]
  simp only [insertAbandoned_renumber, renumber_drop, length_renumber]

/-- A pending request is answered with its later number. -/
lemma Repeats.finish (h : Repeats p inbox s s') (id : RequestId) (q : Pending)
    (outcome : Except RemoteError Json) :
    Repeats p inbox (s.finish id q outcome) (s'.finish (p.numbers + id) q outcome) := by
  obtain ⟨hsettled, hanswer⟩ := (h.strike id).settle q.method outcome
  rw [Session.finish, Session.finish]
  dsimp only
  rw [hanswer]
  exact hsettled.deliverIf q.awaited _

lemma Repeats.finishLate (h : Repeats p inbox s s') (id : RequestId) (m : Method)
    (outcome : Except RemoteError Json) :
    Repeats p inbox (s.finishLate id m outcome) (s'.finishLate (p.numbers + id) m outcome) :=
  ((h.strikeLate id).settle m outcome).1

/-- An answer to the later number is handled as one to the number. -/
lemma Repeats.receiveResponse (h : Repeats p inbox s s') (id : RequestId)
    (outcome : Except RemoteError Json) :
    Repeats p inbox (s.receiveResponse id outcome)
      (s'.receiveResponse (p.numbers + id) outcome) := by
  rw [Session.receiveResponse, Session.receiveResponse, h.connection]
  cases s.connection with
  | none => exact h
  | some c =>
    rw [Option.map_some]
    dsimp only
    rw [c.lookup_pending_later, c.lookup_abandoned_later]
    cases c.pending.lookup id with
    | some q => exact h.finish id q outcome
    | none =>
      cases c.abandoned.lookup id with
      | some m => exact h.finishLate id m outcome
      | none => exact h

/-- A broken record is handled alike, with the later number if it is an answer. -/
lemma Repeats.receiveMalformed (h : Repeats p inbox s s') (e : DecodeError) :
    Repeats p inbox (s.receiveMalformed e) (s'.receiveMalformed (e.later p.numbers)) := by
  obtain ⟨blame, reason⟩ := e
  rw [Session.receiveMalformed, Session.receiveMalformed, DecodeError.later]
  cases blame with
  | nobody => exact h
  | request id => exact h.post _
  | answerTo id =>
    dsimp only
    rw [h.connection]
    cases s.connection with
    | none => exact h
    | some c =>
      rw [Option.map_some]
      dsimp only
      rw [c.lookup_pending_later]
      cases c.pending.lookup id with
      | none => exact h
      | some q => exact ((h.strike id).abandon id q.method).deliverIf q.awaited _

/-! ### Calls -/

/-- The agent is answered alike, as its numbers are its own. -/
lemma Repeats.respond (h : Repeats p inbox s s') (id : Option RequestId)
    (outcome : Except RemoteError Json) :
    Repeats p inbox (s.respond id outcome) (s'.respond id outcome) := by
  cases id with
  | none => exact h
  | some id => exact h.post _

/-- The breakpoints are sent alike, with later numbers. -/
lemma Repeats.loaded (h : Repeats p inbox s s') : Repeats p inbox s.loaded s'.loaded := by
  have hfold : ∀ (bs : List Breakpoint) {s s' : Session}, Repeats p inbox s s' →
      Repeats p inbox (bs.foldl (fun s b => s.tell .setBreakpoint b.setArgs) s)
        (bs.foldl (fun s b => s.tell .setBreakpoint b.setArgs) s') := by
    intro bs
    induction bs with
    | nil => exact id
    | cons b bs ih => exact fun h => ih (h.tell .setBreakpoint b.setArgs)
  have hparams : ∀ {s s' : Session}, Repeats p inbox s s' →
      Repeats p inbox (s.tell .setParams [s.config.params.toJson])
        (s'.tell .setParams [s'.config.params.toJson]) := by
    intro s s' h
    rw [h.config]
    exact h.tell .setParams _
  have hbreakpoints : s'.breakpoints = s.breakpoints := h.eq ▸ rfl
  rw [Session.loaded, Session.loaded, hbreakpoints]
  exact hparams (hfold s.breakpoints.all h)

lemma Repeats.released (h : Repeats p inbox s s') : Repeats p inbox s.released s'.released := by
  rw [Session.released, Session.released, h.config]
  refine Repeats.post ?_ (.notify .run)
  split_ifs
  · exact h.modify (fun _ => rfl) fun _ => rfl
  · exact h

lemma Repeats.receiveStartup (h : Repeats p inbox s s') (id : Option RequestId) :
    Repeats p inbox (s.receiveStartup id) (s'.receiveStartup id) :=
  (h.loaded.respond id (.ok .null)).released

/-- A stop is handled alike, whether it is run over, hidden or shown. -/
lemma Repeats.receiveInteraction (h : Repeats p inbox s s') (args : List Json)
    (kwargs : Members) :
    Repeats p inbox (s.receiveInteraction args kwargs) (s'.receiveInteraction args kwargs) := by
  rw [Session.receiveInteraction, Session.receiveInteraction, h.connection]
  cases hc : s.connection with
  | none => exact h
  | some c =>
    have hstopped : ∀ (location : Option Location) (c₁ : Connection), c₁.room = c.room →
        Repeats p inbox { s with connection := some c₁, location }
          { s' with connection := some (c₁.later p inbox), location } :=
      fun location c₁ hroom => (h.replace hc hroom).location location
    rw [Option.map_some]
    dsimp only
    rw [show (c.later p inbox).startContinue = c.startContinue from rfl,
      show (c.later p inbox).suppressNext = c.suppressNext from rfl]
    -- the place of the stop is the same for both, and no case depends on it but the last
    generalize (if FileName.isPseudo (argText args 0) then none
      else some (⟨argText args 0, argLine args 1, argText args 2⟩ : Location)) = location
    -- the stop is run over, hidden, at no place in a file, or shown
    split_ifs
    · exact Repeats.tell
        (hstopped _ { c with interaction := .interacting, startContinue := false } rfl)
        .resume []
    · exact hstopped _ { c with interaction := .interacting, suppressNext := false } rfl
    · exact hstopped _ { c with interaction := .interacting } rfl
    · exact Repeats.publish (hstopped _ { c with interaction := .interacting } rfl) _

lemma Repeats.receiveReadLine (h : Repeats p inbox s s') (id : RequestId) (args : List Json) :
    Repeats p inbox (s.receiveReadLine id args) (s'.receiveReadLine id args) := by
  have hblocked : Repeats p inbox
      (s.modifyConnection fun c =>
        { c with interaction := .blockedOnInput, inputRequest := some (id, c.interaction) })
      (s'.modifyConnection fun c =>
        { c with interaction := .blockedOnInput, inputRequest := some (id, c.interaction) }) :=
    h.modify (fun _ => rfl) fun _ => rfl
  exact hblocked.publish _

lemma Repeats.receiveException (h : Repeats p inbox s s') (args : List Json) :
    Repeats p inbox (s.receiveException args) (s'.receiveException args) := by
  exact (h.lastException (some (argText args 0))).publish _

/-- A call of the agent is handled alike. -/
lemma Repeats.receiveCall (h : Repeats p inbox s s') (id : Option RequestId) (method : String)
    (args : List Json) (kwargs : Members) :
    Repeats p inbox (s.receiveCall id method args kwargs)
      (s'.receiveCall id method args kwargs) := by
  unfold Session.receiveCall
  split
  · exact h.respond id _
  · exact h.receiveStartup id
  · cases id with
    | none => exact h
    | some id => exact h.receiveReadLine id args
  · exact (h.receiveInteraction args kwargs).respond id _
  · exact (h.publish _).respond id _
  · exact (h.receiveException args).respond id _
  · exact h.respond id _

/-! ### Payloads -/

/-- What was read from a payload. -/
def take (s : Session) : Except DecodeError Record → Session
  | .ok r    => if s.isAttached then s.receiveRecord r else s
  | .error e => if s.isAttached then s.receiveMalformed e else s

/-- A payload is handled as what it is read as. -/
lemma receiveFrame_eq (s : Session) (payload : Bytes) :
    s.receiveFrame payload = s.take (Record.decode payload) := by
  rw [receiveFrame]
  cases hc : s.connection <;> cases Record.decode payload <;>
    simp [Session.take, Session.isAttached, hc]

/-- A record is handled alike, with the later number if it is an answer. -/
lemma Repeats.receiveRecord (h : Repeats p inbox s s') (r : Record) :
    Repeats p inbox (s.receiveRecord r) (s'.receiveRecord (r.answerLater p.numbers)) := by
  cases r with
  | response id outcome => exact h.receiveResponse id outcome
  | notification method args kwargs => exact h.receiveCall none method args kwargs
  | request id method args kwargs => exact h.receiveCall (some id) method args kwargs

/-- What a payload is read as is handled alike. -/
lemma Repeats.take (h : Repeats p inbox s s') (reading : Except DecodeError Record) :
    Repeats p inbox (s.take reading) (s'.take (readLater p.numbers reading)) := by
  cases reading with
  | ok r =>
    rw [readLater, Session.take, Session.take, h.isAttached]
    split_ifs
    · exact h.receiveRecord r
    · exact h
  | error e =>
    rw [readLater, Session.take, Session.take, h.isAttached]
    split_ifs
    · exact h.receiveMalformed e
    · exact h

/-- Whether what was read is an answer to a request with a number before `d`, malformed or
not. -/
def isLate (d : Nat) : Except DecodeError Record → Bool
  | .ok (.response id _)       => decide (id < d)
  | .error ⟨.answerTo id, _⟩ => decide (id < d)
  | _                          => false

/-- An answer to a number of the past is ignored. -/
lemma Repeats.receiveResponse_of_lt (h : Repeats p inbox s s') {id : RequestId}
    (hid : id < p.numbers) (outcome : Except RemoteError Json) :
    s'.receiveResponse id outcome = s' := by
  rw [Session.receiveResponse, h.connection]
  cases s.connection with
  | none => rfl
  | some c =>
    have hpending : (c.later p inbox).pending.lookup id = none :=
      lookup_renumber_of_lt hid c.pending
    have habandoned : (c.later p inbox).abandoned.lookup id = none :=
      lookup_renumber_of_lt hid c.abandoned
    rw [Option.map_some]
    dsimp only
    rw [hpending, habandoned]

/-- A broken answer to a number of the past is ignored. -/
lemma Repeats.receiveMalformed_of_lt (h : Repeats p inbox s s') {id : RequestId}
    (hid : id < p.numbers) (reason : Malformation) :
    s'.receiveMalformed ⟨.answerTo id, reason⟩ = s' := by
  rw [Session.receiveMalformed]
  dsimp only
  rw [h.connection]
  cases s.connection with
  | none => rfl
  | some c =>
    have hpending : (c.later p inbox).pending.lookup id = none :=
      lookup_renumber_of_lt hid c.pending
    rw [Option.map_some]
    dsimp only
    rw [hpending]

/-- After a past, no answer to one of its requests changes anything. -/
lemma Repeats.take_of_isLate (h : Repeats p inbox s s') {reading : Except DecodeError Record}
    (hlate : isLate p.numbers reading) : s'.take reading = s' := by
  unfold isLate at hlate
  split at hlate
  · next id outcome =>
    have hsame : s'.receiveRecord (.response id outcome) = s' :=
      h.receiveResponse_of_lt (of_decide_eq_true hlate) outcome
    rw [Session.take, hsame, ite_self]
  · next id reason =>
    rw [Session.take, h.receiveMalformed_of_lt (of_decide_eq_true hlate) reason, ite_self]
  · cases hlate

/-! ### Operations that are over at once -/

/-- From what an operation comes to for one session, the other differs by nothing but the
past. -/
structure Matches (p : Past) (inbox : Bytes) (r r' : Session × Answer) : Prop where
  session : Repeats p inbox r.1 r'.1
  answer : r'.2 = laterResult p.numbers r.2

/-- From how far an operation is for one session, the other differs by nothing but the past. -/
structure Follows (p : Past) (inbox : Bytes) (r r' : Session × Progress) : Prop where
  session : Repeats p inbox r.1 r'.1
  progress : r'.2 = r.2.later p

lemma Matches.done {r r' : Session × Answer} (h : Matches p inbox r r') :
    Follows p inbox (done r) (done r') :=
  ⟨h.session, congrArg Progress.finished h.answer⟩

lemma Repeats.finished (h : Repeats p inbox s s') (a : Answer) :
    Follows p inbox (s, .finished a) (s', .finished (laterResult p.numbers a)) := ⟨h, rfl⟩

lemma Repeats.fail (h : Repeats p inbox s s') (e : SessionError) :
    Follows p inbox (s.fail e) (s'.fail (e.later p.numbers)) := ⟨h, rfl⟩

lemma laterResult_unitAnswer (d : Nat) (r : Except SessionError Unit) :
    unitAnswer (laterResult d r) = laterResult d (unitAnswer r) := by
  cases r <;> rfl

lemma laterResult_map {α β : Type} (d : Nat) (f : α → β) (r : Except SessionError α) :
    (laterResult d r).map f = laterResult d (r.map f) := by
  cases r <;> rfl

/-- A record without an answer is sent alike. -/
lemma Repeats.sendUnit (h : Repeats p inbox s s') (r : Record) :
    Matches p inbox ((s.send r).1, unitAnswer (s.send r).2)
      ((s'.send (r.callLater p.numbers)).1, unitAnswer (s'.send (r.callLater p.numbers)).2) := by
  obtain ⟨hsent, hresult⟩ := h.send r
  refine ⟨hsent, ?_⟩
  dsimp only
  rw [hresult, laterResult_unitAnswer]

lemma Repeats.interrupt (h : Repeats p inbox s s') :
    Matches p inbox s.interrupt s'.interrupt := by
  rw [Session.interrupt, Session.interrupt, h.state]
  cases s.state with
  | detached => exact ⟨h, rfl⟩
  | running => exact h.sendUnit (.notify .interrupt)
  | interacting => exact ⟨h, rfl⟩
  | blockedOnInput => exact ⟨h, rfl⟩

/-- A line is given alike. -/
lemma Repeats.provideInput (h : Repeats p inbox s s') (text : String) :
    Matches p inbox (s.provideInput text) (s'.provideInput text) := by
  rw [Session.provideInput, Session.provideInput, h.connection]
  cases hc : s.connection with
  | none => exact ⟨h, rfl⟩
  | some c =>
    rw [Option.map_some]
    dsimp only
    rw [show (c.later p inbox).inputRequest = c.inputRequest from rfl]
    cases c.inputRequest with
    | none => exact ⟨h, rfl⟩
    | some request =>
      obtain ⟨id, previous⟩ := request
      have hgiven : Repeats p inbox
          { s with connection := some { c with inputRequest := none, interaction := previous } }
          { s' with
            connection :=
              some { c.later p inbox with inputRequest := none, interaction := previous } } :=
        h.replace hc rfl
      exact hgiven.sendUnit (.response id (.ok (.string text)))

lemma Repeats.checkException (h : Repeats p inbox s s') :
    s'.checkException = laterResult p.numbers s.checkException := by
  have hexception : s'.lastException = s.lastException := h.eq ▸ rfl
  rw [Session.checkException, Session.checkException, hexception]
  cases s.lastException <;> rfl

/-! ### Attaching -/

lemma Repeats.connected (h : Repeats p inbox s s') (remote : Bool) :
    Repeats p inbox (s.connected remote) (s'.connected remote) := by
  refine ⟨?_, h.inbox, fun c hc => ?_⟩
  · rw [h.eq]
    rfl
  · cases hc
    exact .inl rfl

/-- Why a session could not connect has nothing to do with numbers. -/
lemma later_ofConnection (d : Nat) (e : ConnectionError) :
    (SessionError.ofConnection e).later d = .ofConnection e := by
  cases e <;> rfl

/-- An attempt to attach fails with no number in its error. -/
lemma later_attempt (d : Nat) {r : Except ConnectionError Unit} {e : SessionError}
    (h : s.attempt r = .error e) : e.later d = e := by
  unfold Session.attempt at h
  split at h
  · next e' =>
    obtain rfl := Except.error.inj h
    exact later_ofConnection d e'
  · split_ifs at h
    obtain rfl := Except.error.inj h
    rfl

lemma Repeats.attempt (h : Repeats p inbox s s') (r : Except ConnectionError Unit) :
    s'.attempt r = s.attempt r := by
  unfold Session.attempt
  rw [h.config]

/-- An attempt to attach comes to the same. -/
lemma Repeats.attach (h : Repeats p inbox s s') (network : Network) (target : Target) :
    Matches p inbox (s.attach network target) (s'.attach network target) := by
  rw [Session.attach, Session.attach, h.isAttached, h.attempt]
  split_ifs
  · exact ⟨h, rfl⟩
  · cases hr : s.attempt (network target 0) with
    | ok _ => exact ⟨h.connected target.isRemote, rfl⟩
    | error e => exact ⟨h, congrArg Except.error (later_attempt p.numbers hr).symm⟩

lemma Repeats.attachRetrying (h : Repeats p inbox s s') (network : Network) (target : Target) :
    Matches p inbox (s.attachRetrying network target) (s'.attachRetrying network target) := by
  have htries : (fun k => s'.attempt (network target k)) = fun k =>
      s.attempt (network target k) :=
    funext fun k => h.attempt _
  rw [Session.attachRetrying, Session.attachRetrying, h.isAttached, h.config, htries]
  split_ifs
  · exact ⟨h, rfl⟩
  · obtain ⟨j, -, hj, -, -⟩ := s.config.attachRetry.outcome_retry SessionError.isUnreached
      fun k => s.attempt (network target k)
    dsimp only
    rw [hj]
    cases hr : s.attempt (network target j) with
    | ok _ => exact ⟨h.connected target.isRemote, rfl⟩
    | error e =>
      refine ⟨h, ?_⟩
      dsimp only
      split_ifs
      · rfl
      · exact congrArg Except.error (later_attempt p.numbers hr).symm

/-! ### Requests -/

/-- A request is asked for alike, with the later number and goal. -/
lemma Repeats.askFor (h : Repeats p inbox s s') (m : Method) (args : List Json) (goal : Goal)
    {otherwise otherwise' : Session → SessionError → Session × Progress}
    (hotherwise : ∀ {t t'} e, Repeats p inbox t t' →
      Follows p inbox (otherwise t e) (otherwise' t' (e.later p.numbers))) :
    Follows p inbox (s.askFor m args goal otherwise)
      (s'.askFor m args (goal.later p) otherwise') := by
  obtain ⟨hasked, hresult⟩ := h.ask m args
  rw [Session.askFor, Session.askFor]
  cases hs : s.ask m args with
  | mk t result =>
    cases hs' : s'.ask m args with
    | mk t' result' =>
      rw [hs, hs'] at hasked hresult
      dsimp only at hasked hresult
      subst hresult
      cases result with
      | ok id => exact ⟨hasked, rfl⟩
      | error e => exact hotherwise e hasked

lemma Repeats.refusal? (h : Repeats p inbox s s') : s'.refusal? = s.refusal? := by
  rw [Session.refusal?, Session.refusal?, h.state]

lemma later_refusal? {e : SessionError} (d : Nat) (h : s.refusal? = some e) : e.later d = e := by
  rw [Session.refusal?] at h
  cases hstate : s.state <;> rw [hstate] at h <;> cases h <;> rfl

/-- A command begins alike. -/
lemma Repeats.command (h : Repeats p inbox s s') (m : Method) (args : List Json) (goal : Goal) :
    Follows p inbox (s.command m args goal) (s'.command m args (goal.later p)) := by
  rw [Session.command, Session.command, h.refusal?]
  cases hr : s.refusal? with
  | some e =>
    have hfailed := h.fail e
    rw [later_refusal? p.numbers hr] at hfailed
    exact hfailed
  | none => exact h.askFor m args goal fun e ht => ht.fail e

/-! ### Forced operations -/

lemma method_later (n : Nat) (operation : Forced) :
    (operation.later n).method = operation.method := by
  cases operation <;> rfl

lemma args_later (n : Nat) (operation : Forced) : (operation.later n).args = operation.args := by
  cases operation <;> rfl

/-- The agent of a later connection is dropped as that of the connection is. -/
lemma Repeats.drop (h : Repeats p inbox s s') (epoch : Nat) :
    Repeats p inbox (s.drop epoch) (s'.drop (p.connections + epoch)) := by
  have hepoch : s'.connection.map Connection.epoch = some (p.connections + epoch)
      ↔ s.connection.map Connection.epoch = some epoch := by
    rw [h.connection]
    cases s.connection with
    | none => exact ⟨nofun, nofun⟩
    | some c =>
      rw [Option.map_some, Option.map_some, Option.map_some, Option.some_inj, Option.some_inj]
      exact Nat.add_left_cancel_iff
  rw [Session.drop, Session.drop]
  simp only [hepoch]
  split_ifs
  · exact h.detach
  · exact h

lemma Repeats.relent (h : Repeats p inbox s s') :
    Repeats p inbox (s.modifyConnection fun c => { c with quitting := false })
      (s'.modifyConnection fun c => { c with quitting := false }) :=
  h.modify (fun _ => rfl) fun _ => rfl

lemma Repeats.showNext (h : Repeats p inbox s s') : Repeats p inbox s.showNext s'.showNext :=
  h.modify (fun _ => rfl) fun _ => rfl

/-- A forced operation is concluded alike. -/
lemma Repeats.conclude (h : Repeats p inbox s s') (operation : Forced) (answer : Answer) :
    Follows p inbox (s.conclude operation answer)
      (s'.conclude (operation.later p.connections) (laterResult p.numbers answer)) := by
  cases operation with
  | quit epoch =>
    cases answer with
    | ok v => exact (h.drop epoch).finished (.ok .null)
    | error e =>
      cases e with
      | disconnected => exact (h.drop epoch).finished (.ok .null)
      | _ => exact h.relent.fail _
  | _ =>
    refine ⟨h, ?_⟩
    exact congrArg Progress.finished (laterResult_map p.numbers _ answer)

lemma Repeats.mustResume (h : Repeats p inbox s s') (interrupted : Bool) :
    s'.mustResume interrupted = s.mustResume interrupted := by
  rw [Session.mustResume, Session.mustResume, h.connection]
  cases s.connection <;> rfl

/-- What comes after a forced operation is alike. -/
lemma Repeats.afterForced (h : Repeats p inbox s s') (operation : Forced) (interrupted : Bool)
    (answer : Answer) :
    Follows p inbox (s.afterForced operation interrupted answer)
      (s'.afterForced (operation.later p.connections) interrupted
        (laterResult p.numbers answer)) := by
  rw [Session.afterForced, Session.afterForced, h.mustResume]
  split_ifs
  · exact h.askFor .resume [] (.resumed operation answer) fun _ ht =>
      ht.conclude operation answer
  · exact h.conclude operation answer

lemma Repeats.carryOut (h : Repeats p inbox s s') (operation : Forced) (interrupted : Bool) :
    Follows p inbox (s.carryOut operation interrupted)
      (s'.carryOut (operation.later p.connections) interrupted) := by
  rw [Session.carryOut, Session.carryOut, method_later, args_later]
  exact h.askFor _ _ (.forced operation interrupted) fun e ht =>
    ht.afterForced operation interrupted (.error e)

/-- A look finds the same. -/
lemma Repeats.look (h : Repeats p inbox s s') (pauses : Pauses) (operation : Forced) :
    Follows p inbox (s.look pauses operation)
      (s'.look pauses (operation.later p.connections)) := by
  rw [Session.look, Session.look, h.state]
  cases s.state with
  | detached => exact h.conclude operation (.error .disconnected)
  | interacting => exact h.carryOut operation true
  | blockedOnInput => exact h.showNext.conclude operation (.error .waitingForInput)
  | running =>
    dsimp only
    cases pauses.next? with
    | none => exact h.showNext.conclude operation (.error .busy)
    | some next => exact ⟨h, rfl⟩

/-- A forced operation begins alike. -/
lemma Repeats.force (h : Repeats p inbox s s') (operation : Forced) :
    Follows p inbox (s.force operation) (s'.force (operation.later p.connections)) := by
  rw [Session.force, Session.force, h.state]
  cases s.state with
  | detached => exact h.conclude operation (.error .notAttached)
  | blockedOnInput => exact h.conclude operation (.error .waitingForInput)
  | interacting => exact h.carryOut operation false
  | running =>
    have hhidden : Repeats p inbox (s.modifyConnection fun c => { c with suppressNext := true })
        (s'.modifyConnection fun c => { c with suppressNext := true }) :=
          h.modify (fun _ => rfl) fun _ => rfl
    -- the interrupt can be sent in both sessions or in none
    obtain ⟨hsent, hresult⟩ := hhidden.send (.notify .interrupt)
    have hnotify : (Record.notify .interrupt).callLater p.numbers = .notify .interrupt := rfl
    rw [hnotify] at hsent hresult
    dsimp only
    cases hs :
        (s.modifyConnection fun c => { c with suppressNext := true }).send
          (.notify .interrupt) with
    | mk t result =>
      cases hs' :
        (s'.modifyConnection fun c => { c with suppressNext := true }).send
          (.notify .interrupt) with
      | mk t' result' =>
        rw [hs, hs'] at hsent hresult
        dsimp only at hsent hresult
        subst hresult
        cases result with
        | ok _ =>
          dsimp only [laterResult]
          rw [hsent.config]
          exact hsent.look t.config.forceWait.pauses operation
        | error e => exact hsent.showNext.conclude operation (.error e)

lemma Repeats.forceIfAttached (h : Repeats p inbox s s') (operation : Forced) {detached : Answer}
    (hdetached : laterResult p.numbers detached = detached) :
    Follows p inbox (s.forceIfAttached operation detached)
      (s'.forceIfAttached (operation.later p.connections) detached) := by
  rw [Session.forceIfAttached, Session.forceIfAttached, h.isAttached]
  split_ifs
  · exact h.force operation
  · have hfinished := h.finished detached
    rw [hdetached] at hfinished
    exact hfinished

lemma Repeats.setBreakpoint (h : Repeats p inbox s s') (b : Breakpoint) :
    Follows p inbox (s.setBreakpoint b) (s'.setBreakpoint b) := by
  have hbreakpoints : s'.breakpoints = s.breakpoints := h.eq ▸ rfl
  have hknown : Repeats p inbox
      (if b.temporary then s else { s with breakpoints := s.breakpoints.insert b })
        (if b.temporary then s' else { s' with breakpoints := s'.breakpoints.insert b }) := by
    rw [hbreakpoints]
    split_ifs
    · exact h
    · exact h.breakpoints _
  exact hknown.forceIfAttached (.setBreakpoint b) rfl

lemma Repeats.clearBreakpoint (h : Repeats p inbox s s') (b : Breakpoint) :
    Follows p inbox (s.clearBreakpoint b) (s'.clearBreakpoint b) := by
  have hbreakpoints : s'.breakpoints = s.breakpoints := h.eq ▸ rfl
  rw [Session.clearBreakpoint, Session.clearBreakpoint, hbreakpoints]
  refine (h.breakpoints (s.breakpoints.erase b.key)).forceIfAttached (.clearBreakpoint b) ?_
  split_ifs <;> rfl

lemma Repeats.clearFile (h : Repeats p inbox s s') (file : String) :
    Follows p inbox (s.clearFile file) (s'.clearFile file) := by
  have hbreakpoints : s'.breakpoints = s.breakpoints := h.eq ▸ rfl
  have hfile : FileName.canonical s'.config.directory file
      = FileName.canonical s.config.directory file := by
    rw [h.config]
  rw [Session.clearFile, Session.clearFile, hbreakpoints, hfile]
  refine (h.breakpoints (s.breakpoints.removeFile _).2).forceIfAttached (.clearFile _) ?_
  rfl

/-- To quit begins alike. -/
lemma Repeats.quit (h : Repeats p inbox s s') : Follows p inbox s.quit s'.quit := by
  rw [Session.quit, Session.quit, h.connection]
  cases hc : s.connection with
  | none => exact h.fail .notAttached
  | some c =>
    have hquitting : Repeats p inbox { s with connection := some { c with quitting := true } }
        { s' with connection := some { c.later p inbox with quitting := true } } :=
          h.replace hc rfl
    exact hquitting.force (.quit c.epoch)

/-! ### The course of an operation -/

/-- Every operation begins alike. -/
lemma Repeats.start (h : Repeats p inbox s s') (network : Network) (operation : Operation) :
    Follows p inbox (s.start network operation) (s'.start network operation) := by
  cases operation with
  | attach target => exact (h.attach network target).done
  | attachRetrying target => exact (h.attachRetrying network target).done
  | detach => exact h.detach.finished (.ok .null)
  | step => exact h.command .step [] .unit
  | next => exact h.command .next [] .unit
  | stepOut => exact h.command .stepOut [] .unit
  | resume => exact h.command .resume [] .unit
  | resumeTo file line =>
    rw [Session.start, Session.start, h.config]
    exact h.command .setBreakpoint _ .thenResume
  | jump line => exact h.command .jump _ .unit
  | exec statement => exact h.command .exec _ .value
  | eval expression => exact h.command .eval _ .value
  | callStack => exact h.command .callStack [] .value
  | environment => exact h.command .environment [] .value
  | setBreakpoint b => exact h.setBreakpoint b
  | clearBreakpoint b => exact h.clearBreakpoint b
  | clearFile file => exact h.clearFile file
  | quit => exact h.quit
  | interrupt => exact h.interrupt.done
  | input text => exact (h.provideInput text).done
  | checkException => exact ⟨h, congrArg Progress.finished h.checkException⟩

/-- What is done with an answer is alike. -/
lemma Repeats.proceed (h : Repeats p inbox s s') (answer : Answer) (goal : Goal) :
    Follows p inbox (s.proceed answer goal)
      (s'.proceed (laterResult p.numbers answer) (goal.later p)) := by
  cases goal with
  | value => exact h.finished answer
  | unit => exact ⟨h, congrArg Progress.finished (laterResult_map p.numbers _ answer)⟩
  | thenResume =>
    cases answer with
    | ok v => exact h.askFor .resume [] .unit fun e ht => ht.fail e
    | error e => exact h.fail e
  | forced operation interrupted => exact h.afterForced operation interrupted answer
  | resumed operation own => exact h.conclude operation own

lemma Repeats.giveUp (h : Repeats p inbox s s') (id : RequestId) (m : Method) :
    Matches p inbox (s.giveUp id m) (s'.giveUp (p.numbers + id) m) := by
  have hpending : s'.connection.bind (·.pending.lookup (p.numbers + id))
      = s.connection.bind (·.pending.lookup id) := by
    rw [h.connection]
    cases s.connection with
    | none => rfl
    | some c => exact c.lookup_pending_later p inbox id
  rw [Session.giveUp, Session.giveUp, hpending, h.config]
  cases s.connection.bind (·.pending.lookup id) with
  | none => exact ⟨h, rfl⟩
  | some q => exact ⟨(h.strike id).abandon id m, rfl⟩

/-- A wait ends alike, with the later number if its request is given up on. -/
lemma Repeats.endWait (h : Repeats p inbox s s') (id : RequestId) (m : Method) :
    Matches p inbox (s.endWait id m) (s'.endWait (p.numbers + id) m) := by
  rw [Session.endWait, Session.endWait, takeReply, takeReply, h.reply]
  cases s.reply with
  | none => exact h.hush.giveUp id m
  | some answer => exact ⟨h.hush, rfl⟩

/-- An operation goes on alike as its wait is over. -/
lemma Repeats.wake (h : Repeats p inbox s s') (task : Task) :
    Follows p inbox (s.wake task) (s'.wake (task.later p)) := by
  cases task with
  | stop pause pauses operation => exact h.look pauses operation
  | answer id m goal =>
    obtain ⟨hended, hanswer⟩ := h.endWait id m
    show Follows p inbox ((s.endWait id m).1.proceed (s.endWait id m).2 goal)
      ((s'.endWait (p.numbers + id) m).1.proceed (s'.endWait (p.numbers + id) m).2
        (goal.later p))
    rw [hanswer]
    exact hended.proceed _ goal

end Session

end RemoteDebugger
