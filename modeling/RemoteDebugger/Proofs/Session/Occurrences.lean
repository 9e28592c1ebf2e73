import RemoteDebugger.Proofs.Session.Ending

/-!
# Occurrences

What happens to a session comes down to few occurrences: a connection begins or ends, the program
moves or tells something, or it gets a line of input. They alone change how a session stands, and
of them alone user interfaces are told.
-/

namespace RemoteDebugger

/-- Something that changes how a session stands, or that user interfaces are told of. -/
inductive Occurrence where
  /-- A connection begins. -/
  | attached
  /-- The program moves. -/
  | moved (m : Move)
  /-- The program tells something. -/
  | told (e : Event)
  /-- The program gets the line of input that it waits for. -/
  | given
  /-- The connection ends. -/
  | closed
deriving DecidableEq

/-- How a session stands, as users see it. -/
structure Status where
  state         : SessionState := .detached
  /-- How the program stood when it asked for the line of input that is to be given. -/
  before        : Option SessionState := none
  location      : Option Location := none
  lastException : Option String := none
deriving DecidableEq

/-- How a session stands after an occurrence. -/
def Status.after (st : Status) : Occurrence → Status
  | .attached                 => { state := .running }
  | .moved .stay              => st
  | .moved .run               => { st with state := .running }
  | .moved (.stop location _) => { st with state := .interacting, location }
  | .moved (.block _)         => { st with state := .blockedOnInput, before := some st.state }
  | .told (.exception text)   => { st with lastException := some text }
  | .told _                   => st
  | .given                    => { st with state := st.before.getD st.state, before := none }
  | .closed                   => { st with state := .detached, before := none }

/-- Whether something can occur as a session stands. A connection begins only where there is
none, a line is given only if it was asked for, and everything else takes a connection. -/
def Status.admits (st : Status) : Occurrence → Bool
  | .attached                    => st.state == .detached
  | .given                       => st.before.isSome
  | .moved _ | .told _ | .closed => st.state != .detached

/-- How a session stands after something that can occur. -/
def Status.after? (st : Status) (o : Occurrence) : Option Status :=
  if st.admits o then some (st.after o) else none

/-- What user interfaces are told of an occurrence. -/
def Occurrence.events : Occurrence → List Event
  | .moved .run           => [.clearInteraction]
  | .moved (.stop _ mark) => mark.toList
  | .told e               => [e]
  | .closed               => [.clearInteraction]
  | .moved .stay | .moved (.block _) | .attached | .given => []

namespace Record

/-- What a call tells on its own account. -/
def newsOfCall (id : Option RequestId) (method : String) (args : List Json) : Option Event :=
  match Method.ofName? method, id with
  | some .write,     _      => some (.write (Session.argText args 0))
  | some .exception, _      => some (.exception (Session.argText args 0))
  | some .readLine,  some _ => some (.inputRequested (Session.argText args 0))
  | _,               _      => none

/-- What a payload tells on its own account. -/
def news? (payload : Bytes) : Option Event :=
  match decode payload with
  | .ok (.notification method args _) => newsOfCall none method args
  | .ok (.request id method args _)   => newsOfCall (some id) method args
  | .ok (.response _ _) | .error _    => none

end Record

namespace Session

variable {s s' s'' : Session} {os os' : List Occurrence}

def status (s : Session) : Status :=
  { state         := s.state
    before        := s.inputRequest?.map fun q => q.2.seen
    location      := s.location
    lastException := s.lastException }

/-- What comes to happen on account of a payload: a move of the program, and news. -/
def occurrences (s : Session) (payload : Bytes) : List Occurrence :=
  .moved (s.move payload) :: ((Record.news? payload).map Occurrence.told).toList

/-! ### What comes to happen to sessions -/

lemma isAttached_eq_state (s : Session) : s.isAttached = (s.state != .detached) := by
  rw [isAttached, state]
  cases s.connection with
  | none => rfl
  | some c =>
    dsimp only
    cases c.interaction <;> rfl

/-- From one session to the other, nothing came to happen but these occurrences, each when it
could. -/
structure Undergoes (os : List Occurrence) (s s' : Session) : Prop where
  status : os.foldlM Status.after? s.status = some s'.status
  events : s'.events.queued = s.events.queued ++ os.flatMap Occurrence.events
  breakpoints : s'.breakpoints = s.breakpoints
  config : s'.config = s.config

/-- What came to happen over one stretch and the next came to happen over both. -/
lemma Undergoes.trans (h : Undergoes os s s') (h' : Undergoes os' s' s'') :
    Undergoes (os ++ os') s s'' where
  status := by
    rw [List.foldlM_append, h.status]
    exact h'.status
  events := by rw [h'.events, h.events, List.flatMap_append, List.append_assoc]
  breakpoints := h'.breakpoints.trans h.breakpoints
  config := h'.config.trans h.config

lemma Undergoes.of_eq (hstatus : s'.status = s.status) (hevents : s'.events = s.events)
    (hbreakpoints : s'.breakpoints = s.breakpoints) (hconfig : s'.config = s.config) :
    Undergoes [] s s' :=
  ⟨congrArg some hstatus.symm, by
    rw [hevents]; exact (List.append_nil _).symm, hbreakpoints, hconfig⟩

/-- One occurrence came to happen, if the status and the events say so. -/
lemma undergoes_single {o : Occurrence} (hadmits : s.status.admits o)
    (hstatus : s'.status = s.status.after o)
    (hevents : s'.events.queued = s.events.queued ++ o.events)
    (hbreakpoints : s'.breakpoints = s.breakpoints) (hconfig : s'.config = s.config) :
    Undergoes [o] s s' where
  status := by
    rw [List.foldlM_cons, Status.after?, if_pos hadmits, hstatus]
    rfl
  events := by rw [hevents, List.flatMap_singleton]
  breakpoints := hbreakpoints
  config := hconfig

/-- With a connection, the program may move and tell something, and the connection may end. -/
lemma admits_of_attached (h : s.isAttached) :
    (s.state != .detached) = true := isAttached_eq_state s ▸ h

/-- The end of the connection, if it has ended from one session to the other. -/
def closing (s s' : Session) : List Occurrence :=
  if s.isAttached && !s'.isAttached then [.closed] else []

lemma closing_of_attached (h : s'.isAttached) : closing s s' = [] := by
  rw [closing, h, Bool.not_true, Bool.and_false, if_neg Bool.false_ne_true]

lemma closing_of_detached (h : s.isAttached = false) : closing s s' = [] := by
  rw [closing, h, Bool.false_and, if_neg Bool.false_ne_true]

/-- From one session to the other, nothing came to happen but these occurrences, and after them
perhaps the end of the connection. -/
structure Passes (os : List Occurrence) (s s' : Session) : Prop where
  undergoes : Undergoes (os ++ closing s s') s s'
  stands : s'.isAttached → s.isAttached

/-- Nothing came to happen, but perhaps the end of the connection. -/
abbrev Quiet (s s' : Session) : Prop := Passes [] s s'

/-- What left the connection standing did not close it. -/
lemma Undergoes.passes (h : Undergoes os s s') (hattached : s'.isAttached = s.isAttached) :
    Passes os s s' where
  undergoes := by
    have hstands : closing s s' = [] := by
      rw [closing, hattached, Bool.and_not_self, if_neg Bool.false_ne_true]
    rw [hstands, List.append_nil]
    exact h
  stands h := hattached ▸ h

/-- What follows the end of a connection is quiet. -/
lemma Passes.trans (h : Passes os s s') (h' : Passes os' s' s'')
    (hlast : s'.isAttached = false → os' = []) :
    Passes (os ++ os') s s'' where
  undergoes := by
    have hboth := h.undergoes.trans h'.undergoes
    cases hs' : s'.isAttached with
    | true =>
      have hsame : closing s s'' = closing s' s'' := by rw [closing, closing, hs', h.stands hs']
      rw [closing_of_attached hs', List.append_nil, ← hsame, ← List.append_assoc] at hboth
      exact hboth
    | false =>
      have hs'' : s''.isAttached = false := Bool.eq_false_iff.mpr fun hs'' => by
        rw [h'.stands hs''] at hs'
        cases hs'
      have hsame : closing s s'' = closing s s' := by rw [closing, closing, hs', hs'']
      rw [closing_of_detached hs', hlast hs', List.append_nil, List.append_nil, ← hsame] at hboth
      rw [hlast hs', List.append_nil]
      exact hboth
  stands hs'' := h.stands (h'.stands hs'')

lemma Passes.quiet (h : Passes os s s') (h' : Quiet s' s'') : Passes os s s'' := by
  rw [← List.append_nil os]
  exact h.trans h' fun _ => rfl

/-- What is quiet may come before an occurrence, if the connection stands. -/
lemma Quiet.passes (h : Quiet s s') (h' : Passes os s' s'') (hs' : s'.isAttached) :
    Passes os s s'' :=
  Passes.trans h h' fun hgone => by
    rw [hs'] at hgone
    cases hgone

lemma Quiet.of_eq (hstatus : s'.status = s.status) (hevents : s'.events = s.events)
    (hbreakpoints : s'.breakpoints = s.breakpoints) (hconfig : s'.config = s.config) :
    Quiet s s' := by
  refine (Undergoes.of_eq hstatus hevents hbreakpoints hconfig).passes ?_
  have hstate : s'.state = s.state := congrArg Status.state hstatus
  rw [isAttached_eq_state, isAttached_eq_state, hstate]

lemma Quiet.refl (s : Session) : Quiet s s := Quiet.of_eq rfl rfl rfl rfl

lemma Quiet.trans (h : Quiet s s') (h' : Quiet s' s'') : Quiet s s'' := Passes.quiet h h'

lemma status_modifyConnection {f : Connection → Connection}
    (h : ∀ c, (f c).interaction = c.interaction ∧ (f c).inputRequest = c.inputRequest) :
    (s.modifyConnection f).status = s.status := by
  have hrequest : (s.modifyConnection f).inputRequest? = s.inputRequest? := by
    rw [inputRequest?, inputRequest?, modifyConnection]
    cases s.connection with
    | none => rfl
    | some c => exact (h c).2
  rw [status, status, state_modifyConnection fun c => (h c).1, hrequest]
  rfl

lemma quiet_modifyConnection {f : Connection → Connection}
    (h : ∀ c, (f c).interaction = c.interaction ∧ (f c).inputRequest = c.inputRequest) :
    Quiet s (s.modifyConnection f) := Quiet.of_eq (status_modifyConnection h) rfl rfl rfl

lemma quiet_deliver (s : Session) (awaited : Bool) (a : Answer) :
    Quiet s (if awaited then s.deliver a else s) := by
  cases awaited with
  | true =>
    rw [if_pos rfl]
    exact Quiet.of_eq rfl rfl rfl rfl
  | false => exact Quiet.refl s

/-! ### Sending -/

/-- The end of a connection is told. -/
lemma quiet_detach (s : Session) : Quiet s s.detach := by
  rw [detach]
  split
  · exact Quiet.refl s
  · next c hc =>
    dsimp only
    refine (quiet_deliver s (c.pending.any (·.2.awaited)) (.error .disconnected)).trans ?_
    have hattached :
        (if c.pending.any (·.2.awaited) then s.deliver
          (.error .disconnected) else s).isAttached := by
      split_ifs <;> exact congrArg Option.isSome hc
    generalize (if c.pending.any (·.2.awaited) then s.deliver (.error .disconnected) else s) = t
      at hattached ⊢
    have hends : closing t ({ t with connection := none }.publish .clearInteraction)
        = [.closed] := by
      rw [closing, hattached]
      rfl
    refine ⟨?_, fun h => nomatch h⟩
    rw [hends]
    exact undergoes_single (admits_of_attached hattached) rfl rfl rfl rfl

/-- What is written is quiet, though the connection may end. -/
lemma quiet_send (s : Session) (r : Record) : Quiet s (s.send r).1 := by
  rcases send_eq s r with ⟨-, room, heq⟩ | ⟨e, heq⟩ <;> rw [heq]
  · have hwritten : Quiet s (s.withLetter r) := Quiet.of_eq rfl rfl rfl rfl
    exact hwritten.trans (quiet_modifyConnection fun _ => ⟨rfl, rfl⟩)
  · exact quiet_detach s

lemma quiet_register (s : Session) (m : Method) (awaited : Bool) :
    Quiet s (s.register m awaited) := by
  have hnext : Quiet s { s with nextId := s.nextId + 1 } := Quiet.of_eq rfl rfl rfl rfl
  exact hnext.trans (quiet_modifyConnection fun _ => ⟨rfl, rfl⟩)

lemma quiet_tell (s : Session) (m : Method) (args : List Json) : Quiet s (s.tell m args) :=
  (quiet_register s m false).trans (quiet_send _ _)

lemma quiet_ask (s : Session) (m : Method) (args : List Json) : Quiet s (s.ask m args).1 := by
  have hhush : ∀ s : Session, Quiet s { s with reply := none } :=
    fun _ => Quiet.of_eq rfl rfl rfl rfl
  have hsent := ((hhush s).trans (quiet_register _ m true)).trans
    (quiet_send _ (.ask s.nextId m args))
  rw [ask]
  split
  · next s' hs' =>
    rw [hs'] at hsent
    exact hsent
  · next s' e hs' =>
    rw [hs'] at hsent
    exact hsent.trans (hhush s')

lemma quiet_respond (s : Session) (id : Option RequestId) (outcome : Except RemoteError Json) :
    Quiet s (s.respond id outcome) := by
  cases id with
  | none => exact Quiet.refl s
  | some id => exact quiet_send s _

/-! ### Payloads -/

lemma undergoes_stay (hattached : s.isAttached) : Undergoes [.moved .stay] s s :=
  undergoes_single (admits_of_attached hattached) rfl (List.append_nil _).symm rfl rfl

lemma passes_stay (hattached : s.isAttached) : Passes [.moved .stay] s s :=
  (undergoes_stay hattached).passes rfl

/-- An answer lets the program run on if it is for a command that does. -/
lemma passes_settle (hattached : s.isAttached) (m : Method) (outcome : Except RemoteError Json) :
    Passes [.moved (if m.resumes && (resultOf m outcome).isOk then .run else .stay)] s
      (s.settle m outcome).1 := by
  obtain ⟨c, hc⟩ := Option.isSome_iff_exists.mp hattached
  have hrun : Undergoes [.moved .run] s s.clearInteraction := by
    refine undergoes_single (admits_of_attached hattached) ?_ rfl rfl rfl
    simp [clearInteraction, status, state, inputRequest?, modifyConnection, publish,
      hc, Status.after]
  rw [settle]
  cases hr : resultOf m outcome with
  | error e =>
    dsimp only
    rw [Except.isOk, Except.toBool, Bool.and_false]
    exact passes_stay hattached
  | ok v =>
    dsimp only
    rw [Except.isOk, Except.toBool, Bool.and_true]
    split_ifs
    · exact hrun.passes (isAttached_modifyConnection s _)
    · exact passes_stay hattached

/-- An answer comes to the move that it makes. -/
lemma passes_receiveResponse (hattached : s.isAttached) (id : RequestId)
    (outcome : Except RemoteError Json) :
    Passes [.moved (s.moveOfAnswer id outcome)] s (s.receiveResponse id outcome) := by
  obtain ⟨c, hc⟩ := Option.isSome_iff_exists.mp hattached
  have hquiet : ∀ f : Connection → Connection,
      (∀ c, (f c).interaction = c.interaction ∧ (f c).inputRequest = c.inputRequest) → ∀ m,
      Passes [.moved (if m.resumes && (resultOf m outcome).isOk then .run else .stay)] s
        ((s.modifyConnection f).settle m outcome).1 := by
    intro f hf m
    have hstands := (isAttached_modifyConnection s f).trans hattached
    exact (quiet_modifyConnection hf).passes (passes_settle hstands m outcome) hstands
  rw [receiveResponse, moveOfAnswer, requested?, hc, Option.bind_some]
  dsimp only
  -- the request is waited for, or it was given up on, or it is not known
  cases hp : c.pending.lookup id with
  | some p =>
    rw [Option.map_some, Option.some_or]
    dsimp only [finish]
    refine (hquiet _ ?_ p.method).quiet (quiet_deliver _ _ _)
    exact fun _ => ⟨rfl, rfl⟩
  | none =>
    rw [Option.map_none, Option.none_or]
    cases ha : c.abandoned.lookup id with
    | some m =>
      refine hquiet _ ?_ m
      exact fun _ => ⟨rfl, rfl⟩
    | none => exact passes_stay hattached

lemma quiet_receiveMalformed (s : Session) (e : DecodeError) :
    Quiet s (s.receiveMalformed e) := by
  simp only [receiveMalformed]
  split
  · exact Quiet.refl s
  · exact quiet_send s _
  · split
    · exact Quiet.refl s
    · split
      · exact Quiet.refl s
      · refine Quiet.trans ?_ (quiet_deliver _ _ _)
        refine Quiet.trans (quiet_modifyConnection ?_) (quiet_modifyConnection ?_)
        · exact fun _ => ⟨rfl, rfl⟩
        · exact fun _ => ⟨rfl, rfl⟩

lemma quiet_loaded (s : Session) : Quiet s s.loaded :=
  loaded_of_tell Quiet.refl Quiet.trans (fun s m args _ => quiet_tell s m args) s

lemma quiet_released (s : Session) : Quiet s s.released := by
  refine Quiet.trans ?_ (quiet_send _ (.notify .run))
  split_ifs
  · exact quiet_modifyConnection fun _ => ⟨rfl, rfl⟩
  · exact Quiet.refl s

lemma quiet_receiveStartup (s : Session) (id : Option RequestId) :
    Quiet s (s.receiveStartup id) := by
  rw [receiveStartup_eq]
  exact (quiet_loaded s).trans ((quiet_respond _ id _).trans (quiet_released _))

lemma passes_stop {t : Session} {location : Option Location} {mark : Option Event}
    (hattached : s.isAttached)
    (hstatus : t.status = { s.status with state := .interacting, location })
    (hevents : t.events.queued = s.events.queued ++ mark.toList)
    (hbreakpoints : t.breakpoints = s.breakpoints) (hconfig : t.config = s.config) :
    Passes [.moved (.stop location mark)] s t := by
  have hundergoes : Undergoes [.moved (.stop location mark)] s t :=
    undergoes_single (admits_of_attached hattached) hstatus hevents hbreakpoints hconfig
  refine hundergoes.passes ?_
  have hstate : t.state = .interacting := congrArg Status.state hstatus
  rw [isAttached_eq_state, hstate, hattached]
  rfl

/-- A stop is noted, and told or not. The request to run over it is quiet. -/
lemma passes_receiveInteraction (hattached : s.isAttached) (args : List Json)
    (kwargs : Members) :
    Passes [.moved (s.moveOfStop args kwargs)] s (s.receiveInteraction args kwargs) := by
  obtain ⟨c, hc⟩ := Option.isSome_iff_exists.mp hattached
  have hstatus : ∀ (c' : Connection) (location : Option Location),
      c'.interaction = .interacting → c'.inputRequest = c.inputRequest →
      { s with connection := some c', location }.status
        = { s.status with state := .interacting, location } := by
    intro c' location hinteraction hrequest
    simp [status, state, inputRequest?, hc, hinteraction, hrequest]
  have hhidden : ∀ (c' : Connection) (location : Option Location),
      c'.interaction = .interacting → c'.inputRequest = c.inputRequest →
      Passes [.moved (.stop location none)] s { s with connection := some c', location } := by
    intro c' location hinteraction hrequest
    exact passes_stop hattached (hstatus c' location hinteraction hrequest)
      (List.append_nil _).symm rfl rfl
  have hshown : ∀ (c' : Connection) (location : Option Location) (e : Event),
      c'.interaction = .interacting → c'.inputRequest = c.inputRequest →
      Passes [.moved (.stop location (some e))] s
        ({ s with connection := some c', location }.publish e) := by
    intro c' location e hinteraction hrequest
    exact passes_stop hattached (hstatus c' location hinteraction hrequest) rfl rfl rfl
  simp only [receiveInteraction, moveOfStop, hc, Option.any_some]
  -- whether the place is a file or not, the stop is run over, hidden or shown
  cases FileName.isPseudo (argText args 0) with
  | true =>
    cases c.startContinue with
    | true =>
      refine Passes.quiet (hhidden _ none ?_ ?_) (quiet_tell _ .resume []) <;> rfl
    | false => cases c.suppressNext <;> exact hhidden _ none rfl rfl
  | false =>
    cases c.startContinue with
    | true =>
      refine Passes.quiet (hhidden _ _ ?_ ?_) (quiet_tell _ .resume []) <;> rfl
    | false =>
      cases c.suppressNext with
      | true => exact hhidden _ _ rfl rfl
      | false => exact hshown _ _ _ rfl rfl

lemma undergoes_told (hattached : s.isAttached) {e : Event} (he : ∀ text, e ≠ .exception text) :
    Undergoes [.told e] s (s.publish e) := by
  refine undergoes_single (admits_of_attached hattached) ?_ rfl rfl rfl
  cases e with
  | exception text => exact absurd rfl (he text)
  | _ => rfl

/-- A request for a line blocks the program and is told. -/
lemma passes_receiveReadLine (hattached : s.isAttached) (id : RequestId) (args : List Json) :
    Passes [.moved (.block id), .told (.inputRequested (argText args 0))] s
      (s.receiveReadLine id args) := by
  obtain ⟨c, hc⟩ := Option.isSome_iff_exists.mp hattached
  have hblocked : Undergoes [.moved (.block id)] s (s.modifyConnection fun c =>
      { c with interaction := .blockedOnInput, inputRequest := some (id, c.interaction) }) := by
    refine undergoes_single (admits_of_attached hattached) ?_ (List.append_nil _).symm rfl rfl
    simp only [status, inputRequest?, modifyConnection, hc, Option.map_some,
      Option.bind_some, Status.after, state]
    cases c.interaction <;> rfl
  refine Undergoes.passes (hblocked.trans ?_) (isAttached_modifyConnection s _)
  refine undergoes_told ((isAttached_modifyConnection s _).trans hattached) ?_
  intro text h
  cases h

/-- A call comes to the move that it makes and to the news that it brings. -/
lemma passes_receiveCall (hattached : s.isAttached) (id : Option RequestId) (method : String)
    (args : List Json) (kwargs : Members) :
    Passes (.moved (s.moveOfCall id method args kwargs) ::
        ((Record.newsOfCall id method args).map Occurrence.told).toList) s
      (s.receiveCall id method args kwargs) := by
  simp only [receiveCall, moveOfCall, Record.newsOfCall]
  cases Method.ofName? method with
  | none => exact (passes_stay hattached).quiet (quiet_respond s id _)
  | some m =>
    cases m with
    | startup => exact (passes_stay hattached).quiet (quiet_receiveStartup s id)
    | interaction =>
      exact (passes_receiveInteraction hattached args kwargs).quiet (quiet_respond _ id _)
    | readLine =>
      cases id with
      | none => exact passes_stay hattached
      | some id => exact passes_receiveReadLine hattached id args
    | write =>
      have htold : Undergoes [.told (.write (argText args 0))] s
          (s.publish (.write (argText args 0))) := by
        refine undergoes_told hattached ?_
        intro text h
        cases h
      exact (((undergoes_stay hattached).trans htold).passes rfl).quiet (quiet_respond _ id _)
    | exception =>
      have htold : Undergoes [.told (.exception (argText args 0))] s (s.receiveException args) :=
        undergoes_single (admits_of_attached hattached) rfl rfl rfl rfl
      exact (((undergoes_stay hattached).trans htold).passes rfl).quiet (quiet_respond _ id _)
    | _ => exact (passes_stay hattached).quiet (quiet_respond s id _)

/-- On account of a payload nothing comes to happen but a move of the program and its news, and
perhaps the end of the connection. -/
lemma passes_receiveFrame (hattached : s.isAttached) (payload : Bytes) :
    Passes (s.occurrences payload) s (s.receiveFrame payload) := by
  obtain ⟨c, hc⟩ := Option.isSome_iff_exists.mp hattached
  rw [receiveFrame, hc, occurrences, move, Record.news?]
  dsimp only
  cases Record.decode payload with
  | error e => exact (passes_stay hattached).quiet (quiet_receiveMalformed s e)
  | ok r =>
    cases r with
    | response id outcome => exact passes_receiveResponse hattached id outcome
    | notification method args kwargs =>
      exact passes_receiveCall hattached none method args kwargs
    | request id method args kwargs =>
      exact passes_receiveCall hattached (some id) method args kwargs

end Session

end RemoteDebugger
