import RemoteDebugger.Proofs.Session.Writing

/-!
# The end of a connection

When a connection ends, and on account of what: its user closes it, the program is told to quit
and does, the agent ends its stream, stops in the middle of a frame or sends what is no frame, or
there is no room for what is to be written.
-/

namespace RemoteDebugger

namespace Session

variable {s s' : Session}

/-! ### What operations write -/

/-- A request to a program that stands still. -/
def request (s : Session) (m : Method) (args : List Json) : List Record :=
  if s.state = .interacting then [.ask s.nextId m args] else []

/-- What a forced operation writes at once. -/
def forcing (s : Session) (operation : Forced) : List Record :=
  match s.state with
  | .interacting               => [.ask s.nextId operation.method operation.args]
  | .running                   => [.notify .interrupt]
  | .detached | .blockedOnInput => []

/-- What is to be written when an operation begins. -/
def opening (s : Session) : Operation → List Record
  | .step               => s.request .step []
  | .next               => s.request .next []
  | .stepOut            => s.request .stepOut []
  | .resume             => s.request .resume []
  | .resumeTo file line =>
    s.request .setBreakpoint (Breakpoint.build s.config.directory file (some line) true).setArgs
  | .jump line          => s.request .jump [Json.nat line]
  | .exec statement     => s.request .exec [.string statement]
  | .eval expression    => s.request .eval [.string expression]
  | .callStack          => s.request .callStack []
  | .environment        => s.request .environment []
  | .setBreakpoint b    => s.forcing (.setBreakpoint b)
  | .clearBreakpoint b  => s.forcing (.clearBreakpoint b)
  | .clearFile file     => s.forcing (.clearFile (FileName.canonical s.config.directory file))
  | .quit               => s.forcing (.quit ((s.connection.map Connection.epoch).getD 0))
  | .interrupt          => if s.state = .running then [.notify .interrupt] else []
  | .input text         =>
    (s.inputRequest?.map fun q => Record.response q.1 (.ok (.string text))).toList
  | .attach _ | .attachRetrying _ | .detach | .checkException => []

/-- What is to be written once an answer has come. -/
def sequel (s : Session) (goal : Goal) (answer : Answer) : List Record :=
  match goal with
  | .thenResume           => if answer.isOk then [.ask s.nextId .resume []] else []
  | .forced _ interrupted => if s.mustResume interrupted then [.ask s.nextId .resume []] else []
  | .value | .unit | .resumed _ _ => []

/-- What is to be written once a wait is over. -/
def continuation (s : Session) : Task → List Record
  | .stop _ _ operation =>
    if s.state = .interacting then [.ask s.nextId operation.method operation.args] else []
  | .answer id m goal   => (s.endWait id m).1.sequel goal (s.endWait id m).2

/-! ### Operations that end the connection -/

/-- Whether the program was told to quit, and did. -/
def hasQuit (s : Session) (operation : Forced) (answer : Answer) : Bool :=
  match operation, answer with
  | .quit epoch, .ok _ | .quit epoch, .error .disconnected =>
    s.connection.map Connection.epoch == some epoch
  | _, _ => false

/-- Whether an answer says that the program quits. -/
def quits (s : Session) (goal : Goal) (answer : Answer) : Bool :=
  match goal with
  | .forced operation interrupted => !s.mustResume interrupted && s.hasQuit operation answer
  | .resumed operation own        => s.hasQuit operation own
  | .value | .unit | .thenResume  => false

lemma isAttached_of_room? (h : s'.room? = s.room?) : s'.isAttached = s.isAttached := by
  rw [isAttached_eq_room?, isAttached_eq_room?, h]

lemma Retains.isAttached (h : Retains s s') (hs : s.isAttached = false) :
    s'.isAttached = false := by
  by_contra hattached
  obtain ⟨c', hc'⟩ := Option.isSome_iff_exists.mp (Bool.of_not_eq_false hattached)
  obtain ⟨c, hc, -⟩ := h c' hc'
  rw [Session.isAttached, hc] at hs
  cases hs

/-- An agent is dropped if it is the one of the connection that stands. -/
lemma isAttached_drop (s : Session) (epoch : Nat) :
    (s.drop epoch).isAttached
      = (s.isAttached && !(s.connection.map Connection.epoch == some epoch)) := by
  rw [drop]
  split_ifs with hepoch
  · rw [isAttached_detach, hepoch, beq_self_eq_true, Bool.not_true, Bool.and_false]
  · rw [beq_eq_false_iff_ne.mpr hepoch, Bool.not_false, Bool.and_true]

/-- A forced operation ends a connection if it has quit. -/
lemma isAttached_conclude (s : Session) (operation : Forced) (answer : Answer) :
    (s.conclude operation answer).1.isAttached
      = (s.isAttached && !s.hasQuit operation answer) := by
  have hstands : ∀ b : Bool, b = (b && !false) := fun b => (Bool.and_true b).symm
  cases operation with
  | quit epoch =>
    cases answer with
    | ok v => exact isAttached_drop s epoch
    | error e =>
      cases e with
      | disconnected => exact isAttached_drop s epoch
      | _ => exact (isAttached_modifyConnection s _).trans (hstands _)
  | _ => exact hstands _

lemma isAttached_ask (hattached : s.isAttached) (m : Method) (args : List Json) :
    (s.ask m args).1.isAttached = s.takes [.ask s.nextId m args] :=
  (writes_ask s m args).isAttached hattached

/-- A request that could not be written has ended the connection. -/
lemma isAttached_askFor (hattached : s.isAttached) {m : Method} {args : List Json} {goal : Goal}
    {otherwise : Session → SessionError → Session × Progress}
    (hotherwise : ∀ s' e, Retains s' (otherwise s' e).1) :
    (s.askFor m args goal otherwise).1.isAttached = s.takes [.ask s.nextId m args] := by
  rw [← isAttached_ask hattached]
  rcases ask_cases s m args with ⟨hr, -, -⟩ | ⟨⟨e, hr⟩, hbooks⟩
  · rw [askFor, ← Prod.eta (s.ask m args), hr]
  · have hgone : (s.ask m args).1.isAttached = false := by
      rw [← Bool.not_eq_true, isAttached_iff, hbooks]
      exact Bool.eq_false_iff.mp (congrArg Option.isSome (Books.table_close s.books))
    rw [askFor, ← Prod.eta (s.ask m args), hr, hgone]
    exact (hotherwise _ e).isAttached hgone

lemma takes_nil (s : Session) : s.takes [] := by
  rw [takes]
  cases s.room?.join <;> rfl

lemma state_modifyConnection {f : Connection → Connection}
    (h : ∀ c, (f c).interaction = c.interaction) :
    (s.modifyConnection f).state = s.state := by
  cases hc : s.connection with
  | none => rw [state, state, modifyConnection, hc, Option.map_none]
  | some c =>
    have hc' : (s.modifyConnection f).connection = some (f c) := by
      rw [modifyConnection, hc, Option.map_some]
    rw [state_of_connection hc, state_of_connection hc', h]

/-- What is written leaves the state as it is, unless the connection ends. -/
lemma state_send {r : Record} (h : (s.send r).1.isAttached) : (s.send r).1.state = s.state := by
  rcases send_eq s r with ⟨-, room, heq⟩ | ⟨e, heq⟩ <;> rw [heq] at h ⊢
  · exact state_modifyConnection (s := s.withLetter r) fun _ => rfl
  · rw [isAttached_detach] at h
    cases h

/-- A command leaves a session attached if what it writes can be written. -/
lemma isAttached_command (hattached : s.isAttached) (m : Method) (args : List Json)
    (goal : Goal) :
    (s.command m args goal).1.isAttached = s.takes (s.request m args) := by
  rw [command, request]
  split
  · next e he =>
    have hstate : s.state ≠ .interacting := by
      intro hs
      rw [refusal?, hs] at he
      cases he
    rw [if_neg hstate, takes_nil]
    exact hattached
  · next hnone =>
    rw [if_pos (state_of_refusal? hnone)]
    exact isAttached_askFor hattached fun s' _ => Retains.of_eq rfl

/-- After a forced operation a session stays attached if the program can be let go on, and if it
has not quit. -/
lemma isAttached_afterForced (hattached : s.isAttached) (operation : Forced) (interrupted : Bool)
    (answer : Answer) : (s.afterForced operation interrupted answer).1.isAttached
      = (s.takes (s.sequel (.forced operation interrupted) answer)
          && !s.quits (.forced operation interrupted) answer) := by
  rw [afterForced, sequel, quits]
  cases s.mustResume interrupted with
  | true =>
    rw [if_pos rfl, if_pos rfl, Bool.not_true, Bool.false_and, Bool.not_false, Bool.and_true]
    exact isAttached_askFor hattached fun s' _ =>
      stable_retains.firm.conclude s' operation answer
  | false =>
    rw [if_neg Bool.false_ne_true, if_neg Bool.false_ne_true, takes_nil,
      isAttached_conclude, hattached]
    rfl

lemma isAttached_carryOut (hattached : s.isAttached) (operation : Forced) (interrupted : Bool) :
    (s.carryOut operation interrupted).1.isAttached
      = s.takes [.ask s.nextId operation.method operation.args] :=
  isAttached_askFor hattached fun s' _ =>
    stable_retains.firm.afterForced s' operation interrupted _

/-- An operation that was not carried out leaves the connection alone. -/
lemma isAttached_conclude_error (s : Session) (operation : Forced) {e : SessionError}
    (he : e ≠ .disconnected) :
    (s.conclude operation (.error e)).1.isAttached = s.isAttached := by
  have hstays : s.hasQuit operation (.error e) = false := by
    cases operation with
    | quit epoch => cases e <;> first | rfl | exact absurd rfl he
    | _ => rfl
  rw [isAttached_conclude, hstays, Bool.not_false, Bool.and_true]

/-- A look writes only if the program has stopped. -/
lemma isAttached_look (hattached : s.isAttached) (pauses : Pauses) (operation : Forced) :
    (s.look pauses operation).1.isAttached
      = s.takes (if s.state = .interacting
          then [.ask s.nextId operation.method operation.args] else []) := by
  rw [look]
  cases hs : s.state with
  | interacting => exact isAttached_carryOut hattached operation true
  | detached =>
    obtain ⟨c, hc⟩ := Option.isSome_iff_exists.mp hattached
    rw [state_of_connection hc] at hs
    cases hi : c.interaction <;> rw [hi] at hs <;> cases hs
  | blockedOnInput =>
    rw [if_neg (by decide), takes_nil, ← hattached]
    exact (isAttached_conclude_error _ _ (by simp)).trans (isAttached_modifyConnection s _)
  | running =>
    rw [if_neg (by decide), takes_nil, ← hattached]
    dsimp only
    split
    · rfl
    · exact (isAttached_conclude_error _ _ (by simp)).trans (isAttached_modifyConnection s _)

/-- A forced operation leaves a session attached if what it writes at once can be written. -/
lemma isAttached_force (hattached : s.isAttached) (operation : Forced) :
    (s.force operation).1.isAttached = s.takes (s.forcing operation) := by
  rw [force, forcing]
  cases hs : s.state with
  | interacting => exact isAttached_carryOut hattached operation false
  | detached =>
    rw [takes_nil, ← hattached]
    exact isAttached_conclude_error s operation (by simp)
  | blockedOnInput =>
    rw [takes_nil, ← hattached]
    exact isAttached_conclude_error s operation (by simp)
  | running =>
    -- the interrupt is sent, and the first look is made at once
    have hroom : (s.modifyConnection ({ · with suppressNext := true })).room? = s.room? :=
      room?_modifyConnection fun _ => rfl
    have hmuted : (s.modifyConnection ({ · with suppressNext := true })).state = s.state :=
      state_modifyConnection fun _ => rfl
    dsimp only
    generalize s.modifyConnection ({ · with suppressNext := true }) = muted at hroom hmuted
    have hmuted' : muted.isAttached := (isAttached_of_room? hroom).trans hattached
    have hsent := (writes_send muted (.notify .interrupt)).isAttached hmuted'
    rw [takes_of_room? hroom] at hsent
    rw [← hsent]
    have hstate := state_send (s := muted) (r := .notify .interrupt)
    split
    · next s' hs' =>
      rw [hs'] at hstate ⊢
      cases hs'' : s'.isAttached with
      | true =>
        -- the program has not stopped yet
        rw [isAttached_look hs'', hstate hs'', hmuted, hs, if_neg (by decide), takes_nil]
      | false => exact (stable_retains.firm.look s' _ operation).isAttached hs''
    · next s' e hs' =>
      have hgone : s'.isAttached = false := by
        rcases send_eq muted (.notify .interrupt) with ⟨-, room, heq⟩ | ⟨e', heq⟩ <;>
          rw [hs'] at heq <;>
          cases heq
        exact isAttached_detach muted
      rw [hs', hgone]
      apply (stable_retains.firm.conclude _ operation _).isAttached
      exact (isAttached_modifyConnection _ _).trans hgone

/-- What a forced operation writes at once depends on the state, the room and the next number. -/
lemma takes_forcing (hstate : s'.state = s.state) (hroom : s'.room? = s.room?)
    (hid : s'.nextId = s.nextId) (operation : Forced) :
    s'.takes (s'.forcing operation) = s.takes (s.forcing operation) := by
  rw [takes_of_room? hroom, forcing, forcing, hstate, hid]

lemma isAttached_forceIfAttached (hattached : s.isAttached) (breakpoints : Registry)
    (operation : Forced) (detached : Answer) :
    ({ s with breakpoints }.forceIfAttached operation detached).1.isAttached
      = s.takes (s.forcing operation) := by
  have hedited : { s with breakpoints }.isAttached := hattached
  rw [forceIfAttached, if_pos hedited, isAttached_force hedited]
  exact takes_forcing rfl rfl rfl operation

lemma isAttached_quit (hattached : s.isAttached) :
    s.quit.1.isAttached = s.takes (s.opening .quit) := by
  obtain ⟨c, hc⟩ := Option.isSome_iff_exists.mp hattached
  have hroom : (s.modifyConnection ({ · with quitting := true })).room? = s.room? :=
    room?_modifyConnection fun _ => rfl
  have hstate : (s.modifyConnection ({ · with quitting := true })).state = s.state :=
    state_modifyConnection fun _ => rfl
  have hforced := isAttached_force ((isAttached_of_room? hroom).trans hattached) (.quit c.epoch)
  rw [takes_forcing hstate hroom rfl, modifyConnection, hc, Option.map_some] at hforced
  rw [quit, opening, hc]
  exact hforced

lemma isAttached_interrupt (hattached : s.isAttached) :
    s.interrupt.1.isAttached = s.takes (s.opening .interrupt) := by
  rw [interrupt, opening]
  cases hs : s.state with
  | running =>
    rw [if_pos rfl]
    exact (writes_send s _).isAttached hattached
  | _ =>
    rw [if_neg (by decide), takes_nil]
    exact hattached

lemma isAttached_provideInput (hattached : s.isAttached) (text : String) :
    (s.provideInput text).1.isAttached = s.takes (s.opening (.input text)) := by
  obtain ⟨c, hc⟩ := Option.isSome_iff_exists.mp hattached
  rw [provideInput, opening, inputRequest?, hc, Option.bind_some]
  dsimp only
  cases hr : c.inputRequest with
  | none =>
    rw [Option.map_none, Option.toList_none, takes_nil]
    exact hattached
  | some q =>
    have hroom :
        ({ s with connection := some { c with inputRequest := none, interaction := q.2 } } :
          Session).room? = s.room? := by rw [room?, room?, hc, Option.map_some, Option.map_some]
    have hsent :=
      (writes_send { s with
                     connection := some { c with inputRequest := none, interaction := q.2 } }
      (.response q.1 (.ok (.string text)))).isAttached rfl
    rw [takes_of_room? hroom] at hsent
    exact hsent

/-- Whether the beginning of an operation ends the connection. -/
def shuts (s : Session) : Operation → Bool
  | .detach   => true
  | operation => !s.takes (s.opening operation)

/-- What an operation writes when it begins is written, or else the connection ends. -/
lemma isAttached_start (hattached : s.isAttached) (network : Network) (operation : Operation) :
    (s.start network operation).1.isAttached = !s.shuts operation := by
  have hstays : s.isAttached = !!s.takes [] := by rw [hattached, takes_nil]; rfl
  have htold : ∀ {s' : Session} {rs : List Record}, s'.isAttached = s.takes rs →
      s'.isAttached = !!s.takes rs :=
    fun h => h.trans (Bool.not_not _).symm
  cases operation with
  | attach target =>
    rcases attaches_attach s network target with ⟨-, heq⟩ | ⟨-, hgone, -⟩
    · exact (congrArg isAttached heq).trans hstays
    · rw [hattached] at hgone
      cases hgone
  | attachRetrying target =>
    rcases attaches_attachRetrying s network target with ⟨-, heq⟩ | ⟨-, hgone, -⟩
    · exact (congrArg isAttached heq).trans hstays
    · rw [hattached] at hgone
      cases hgone
  | detach => exact isAttached_detach s
  | step => exact htold (isAttached_command hattached .step [] .unit)
  | next => exact htold (isAttached_command hattached .next [] .unit)
  | stepOut => exact htold (isAttached_command hattached .stepOut [] .unit)
  | resume => exact htold (isAttached_command hattached .resume [] .unit)
  | resumeTo file line => exact htold (isAttached_command hattached .setBreakpoint _ .thenResume)
  | jump line => exact htold (isAttached_command hattached .jump _ .unit)
  | exec statement => exact htold (isAttached_command hattached .exec _ .value)
  | eval expression => exact htold (isAttached_command hattached .eval _ .value)
  | callStack => exact htold (isAttached_command hattached .callStack [] .value)
  | environment => exact htold (isAttached_command hattached .environment [] .value)
  | setBreakpoint b =>
    show (s.setBreakpoint b).1.isAttached = _
    rw [Session.setBreakpoint]
    split_ifs
    · exact htold (isAttached_forceIfAttached hattached s.breakpoints _ _)
    · exact htold (isAttached_forceIfAttached hattached _ _ _)
  | clearBreakpoint b => exact htold (isAttached_forceIfAttached hattached _ _ _)
  | clearFile file => exact htold (isAttached_forceIfAttached hattached _ _ _)
  | quit => exact htold (isAttached_quit hattached)
  | interrupt => exact htold (isAttached_interrupt hattached)
  | input text => exact htold (isAttached_provideInput hattached text)
  | checkException => exact hstays

/-! ### Waits that are over -/

/-- What follows an answer leaves a session attached if it can be written, and if it is not the
end of the program. -/
lemma isAttached_proceed (hattached : s.isAttached) (answer : Answer) (goal : Goal) :
    (s.proceed answer goal).1.isAttached
      = (s.takes (s.sequel goal answer) && !s.quits goal answer) := by
  have hstays : s.isAttached = (s.takes [] && !false) := by rw [hattached, takes_nil]; rfl
  cases goal with
  | value => exact hstays
  | unit => exact hstays
  | thenResume =>
    cases answer with
    | error e => exact hstays
    | ok v =>
      have hasked : (s.askFor .resume [] .unit fail).1.isAttached
          = s.takes [.ask s.nextId .resume []] :=
        isAttached_askFor hattached fun s' _ => Retains.of_eq rfl
      exact hasked.trans (Bool.and_true _).symm
  | forced operation interrupted =>
    exact isAttached_afterForced hattached operation interrupted answer
  | resumed operation own =>
    rw [sequel, takes_nil, quits, Bool.true_and, ← Bool.true_and (!_), ← hattached]
    exact isAttached_conclude s operation own

lemma room?_endWait (s : Session) (id : RequestId) (m : Method) :
    (s.endWait id m).1.room? = s.room? := by
  simp only [endWait, takeReply]
  split
  · next h =>
    obtain ⟨rfl, -⟩ := Prod.mk.inj h
    rfl
  · next h =>
    obtain ⟨rfl, -⟩ := Prod.mk.inj h
    rw [giveUp]
    dsimp only
    split
    · rfl
    · rw [abandon, room?_modifyConnection, room?_modifyConnection]
      · rfl
      · exact fun _ => rfl
      · exact fun _ => rfl

/-- Whether the program quits by the answer that was waited for. -/
def leaves (s : Session) : Task → Bool
  | .stop _ _ _       => false
  | .answer id m goal => (s.endWait id m).1.quits goal (s.endWait id m).2

/-- What is written once a wait is over is written, or else the connection ends. -/
lemma isAttached_wake (hattached : s.isAttached) (task : Task) :
    (s.wake task).1.isAttached = (s.takes (s.continuation task) && !s.leaves task) := by
  cases task with
  | stop pause pauses operation =>
    rw [wake, isAttached_look hattached, leaves, Bool.not_false, Bool.and_true]
    rfl
  | answer id m goal =>
    have hroom := room?_endWait s id m
    have hproceed :=
      isAttached_proceed ((isAttached_of_room? hroom).trans hattached) (s.endWait id m).2 goal
    rw [takes_of_room? hroom] at hproceed
    exact hproceed

/-! ### Bytes -/

/-- What is to be written on account of payloads is written one after the other, or else the
connection ends. -/
lemma isAttached_foldl_receiveFrame (hattached : s.isAttached) (ps : List Bytes) :
    (ps.foldl receiveFrame s).isAttached = (s.meetings ps).all fun m =>
      m.1.takes (m.1.outgoing m.2) := by
  induction ps generalizing s with
  | nil => exact hattached
  | cons p ps ih =>
    have hframe := (writes_receiveFrame hattached p).isAttached hattached
    rw [List.foldl_cons, meetings_cons hattached, List.all_cons, ← hframe]
    cases hnext : (s.receiveFrame p).isAttached with
    | true => exact ih hnext
    | false =>
      rw [foldl_receiveFrame_of_detached (connection_of_detached (Bool.eq_false_iff.mp hnext)),
        hnext]
      rfl

/-- Whether the agent sends what is no frame, after those before it. -/
def rejects (s : Session) (bytes : Bytes) : Bool :=
  s.connection.any fun c => (Frame.cut Frame.defaultLimit (c.inbox ++ bytes)).2.isNone

/-- Bytes leave a session attached if what their frames call for can be written, and if no frame
is broken. -/
lemma isAttached_receiveBytes (hattached : s.isAttached) (bytes : Bytes) :
    (s.receiveBytes bytes).isAttached
      = (((s.meetingsIn bytes).all fun m => m.1.takes (m.1.outgoing m.2))
          && !s.rejects bytes) := by
  obtain ⟨c, hc⟩ := Option.isSome_iff_exists.mp hattached
  have hframes :=
    isAttached_foldl_receiveFrame (s := { s with connection := some { c with inbox := [] } }) rfl
    (Frame.cut Frame.defaultLimit (c.inbox ++ bytes)).1
  rw [receiveBytes_eq hc, meetingsIn, rejects, hc, Option.any_some, ← hframes]
  cases (Frame.cut Frame.defaultLimit (c.inbox ++ bytes)).2 with
  | none => rw [Option.isNone_none, Bool.not_true, Bool.and_false]; exact isAttached_detach _
  | some inbox =>
    rw [Option.isNone_some, Bool.not_false, Bool.and_true]
    exact isAttached_modifyConnection _ _

end Session

/-! ### Whatever happens -/

namespace Engine

variable {e : Engine}

/-- Whether an operation that the user asks for begins. -/
def begins (e : Engine) (operation : Operation) : Bool := e.task.isNone || !operation.isExclusive

/-- Whether something that happens to an attached session ends the connection. -/
def severs (e : Engine) : Input → Bool
  | .start operation => e.begins operation && e.session.shuts operation
  | .bytes bytes     =>
    !((e.session.meetingsIn bytes).all fun m => m.1.takes (m.1.outgoing m.2)) ||
      e.session.rejects bytes
  | .endOfStream     => true
  | .frameTimeout    => e.session.isMidFrame
  | .wake            =>
    e.task.any fun task => !e.session.takes (e.session.continuation task) ||
      e.session.leaves task
  | .room _          => false

/-- An operation that may begin begins. -/
lemma step_of_begins {operation : Operation} (h : e.begins operation) (network : Network) :
    (e.step network (.start operation)).1.session = (e.session.start network operation).1 := by
  rw [begins] at h
  simp only [step, Engine.start]
  cases ht : e.task with
  | none => exact after_session _
  | some task =>
    rw [ht, Option.isNone_some, Bool.false_or, Bool.not_eq_true'] at h
    dsimp only
    rw [h, if_neg Bool.false_ne_true]
    exact after_session _

/-- An operation that may not begin leaves everything as it is. -/
lemma step_of_not_begins {operation : Operation} (h : e.begins operation = false)
    (network : Network) :
    (e.step network (.start operation)).1 = e := by
  rw [begins, Bool.or_eq_false_iff] at h
  simp only [step, Engine.start]
  cases ht : e.task with
  | none =>
    rw [ht] at h
    cases h.1
  | some task =>
    have hexclusive : operation.isExclusive := by simpa using h.2
    dsimp only
    rw [if_pos hexclusive]

/-- Nothing else ends a connection. -/
lemma isAttached_step (hattached : e.session.isAttached) (network : Network) (input : Input) :
    (e.step network input).1.session.isAttached = !e.severs input := by
  cases input with
  | start operation =>
    rw [severs]
    cases hbegins : e.begins operation with
    | true => rw [step_of_begins hbegins, Session.isAttached_start hattached, Bool.true_and]
    | false => rw [step_of_not_begins hbegins, Bool.false_and]; exact hattached
  | bytes bytes =>
    rw [severs, Bool.not_or, Bool.not_not]
    exact Session.isAttached_receiveBytes hattached bytes
  | endOfStream => exact Session.isAttached_detach _
  | frameTimeout =>
    show e.session.expireFrame.isAttached = _
    rw [Session.expireFrame, severs]
    split_ifs with hmid
    · rw [hmid, Session.isAttached_detach]; rfl
    · rw [Bool.eq_false_iff.mpr hmid]; exact hattached
  | wake =>
    rw [severs, step]
    cases e.task with
    | none => exact hattached
    | some task =>
      dsimp only
      rw [after_session, Option.any_some, Bool.not_or, Bool.not_not]
      exact Session.isAttached_wake hattached task
  | room room => exact (Session.isAttached_modifyConnection _ _).trans hattached

end Engine

end RemoteDebugger
