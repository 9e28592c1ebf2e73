import RemoteDebugger.Proofs.Session.Run

/-!
# The acts of operations

Operations are made of few acts: they ask, they notify, they end the connection, and they change
what is noted of it. A relation that all these acts respect is respected by operations as a
whole, and with a few more acts by whatever happens, but for what the agent sends and lines of
input.
-/

namespace RemoteDebugger

lemma Forced.needsStop_method (operation : Forced) : operation.method.needsStop = false := by
  cases operation <;> rfl

/-- How a program stands, as users see it. -/
def Interaction.seen : Interaction → SessionState
  | .running        => .running
  | .interacting    => .interacting
  | .blockedOnInput => .blockedOnInput

/-- Whether an operation begins no connection, does not say that the user is quitting, and
answers nothing. -/
def Operation.isPlain : Operation → Bool
  | .attach _ | .attachRetrying _ | .quit | .input _ => false
  | _                                                => true

/-- The registry once an operation has begun on a session that names files from `directory`. -/
def Registry.note (directory : String) (r : Registry) : Operation → Registry
  | .setBreakpoint b   => if b.temporary then r else r.insert b
  | .clearBreakpoint b => r.erase b.key
  | .clearFile file    => (r.removeFile (FileName.canonical directory file)).2
  | _                  => r

namespace Session

variable {s : Session}

/-- A relation between sessions that the acts of operations respect, once the registry is
changed. What needs the program to stand still is asked only while it does. -/
structure Firm (R : Session → Session → Prop) : Prop where
  refl : ∀ s, R s s
  trans : ∀ {s s' s''}, R s s' → R s' s'' → R s s''
  ask : ∀ s m args, (m.needsStop → s.state = .interacting) → R s (s.ask m args).1
  notify : ∀ s m, R s (s.send (.notify m)).1
  detach : ∀ s, R s s.detach
  suppress : ∀ s suppressNext, R s (s.modifyConnection ({ · with suppressNext }))
  relent : ∀ s, R s (s.modifyConnection ({ · with quitting := false }))

/-- A relation between sessions that the acts of operations respect. What needs the program to
stand still is asked only while it does. -/
structure Stable (R : Session → Session → Prop) : Prop where
  refl : ∀ s, R s s
  trans : ∀ {s s' s''}, R s s' → R s' s'' → R s s''
  ask : ∀ s m args, (m.needsStop → s.state = .interacting) → R s (s.ask m args).1
  notify : ∀ s m, R s (s.send (.notify m)).1
  detach : ∀ s, R s s.detach
  breakpoints : ∀ s breakpoints, R s { s with breakpoints }
  suppress : ∀ s suppressNext, R s (s.modifyConnection ({ · with suppressNext }))
  relent : ∀ s, R s (s.modifyConnection ({ · with quitting := false }))

lemma Stable.firm {R : Session → Session → Prop} (h : Stable R) : Firm R :=
  ⟨h.refl, h.trans, h.ask, h.notify, h.detach, h.suppress, h.relent⟩

/-- What an attempt to attach comes to: the session is left as it is, or gets a new
connection. -/
def Attaches (s : Session) (r : Session × Answer) : Prop :=
  r.2.isOk = false ∧ r.1 = s ∨ r.2.isOk ∧ s.isAttached = false ∧ ∃ remote,
    r.1 = s.connected remote

lemma attaches_attach (s : Session) (network : Network) (target : Target) :
    s.Attaches (s.attach network target) := by
  rw [attach]
  split_ifs with hattached
  · exact .inl ⟨rfl, rfl⟩
  · split
    · exact .inr ⟨rfl, Bool.eq_false_iff.mpr hattached, _, rfl⟩
    · exact .inl ⟨rfl, rfl⟩

lemma attaches_attachRetrying (s : Session) (network : Network) (target : Target) :
    s.Attaches (s.attachRetrying network target) := by
  rw [attachRetrying]
  split_ifs with hattached
  · exact .inl ⟨rfl, rfl⟩
  · dsimp only
    split
    · exact .inr ⟨rfl, Bool.eq_false_iff.mpr hattached, _, rfl⟩
    · exact .inl ⟨rfl, rfl⟩

lemma state_of_connection {c : Connection} (hc : s.connection = some c) :
    s.state = c.interaction.seen := by
  rw [state, hc]
  rfl

/-- A session shows an interaction if it has a connection with that interaction. -/
lemma state_eq_seen_iff (s : Session) (i : Interaction) :
    s.state = i.seen ↔ ∃ c, s.connection = some c ∧ c.interaction = i := by
  constructor
  · intro h
    cases hc : s.connection with
    | none =>
      rw [state, hc] at h
      cases i <;> cases h
    | some c =>
      rw [state_of_connection hc] at h
      refine ⟨c, rfl, ?_⟩
      cases i <;> cases hi : c.interaction <;> rw [hi] at h <;> first | rfl | cases h
  · rintro ⟨c, hc, rfl⟩
    exact state_of_connection hc

/-- A command that needs a stopped program is not refused only if the program has stopped. -/
lemma state_of_refusal? (h : s.refusal? = none) : s.state = .interacting := by
  cases hs : s.state with
  | interacting => rfl
  | _ => simp [refusal?, hs] at h

/-- A program is let go on only if it has stopped. -/
lemma state_of_mustResume {interrupted : Bool} (h : s.mustResume interrupted) :
    s.state = .interacting := by
  rw [mustResume] at h
  split at h
  · cases h
  · next c hc =>
    have hinteraction : c.interaction = .interacting :=
      beq_iff_eq.mp (Bool.and_eq_true_iff.mp h).2
    exact (state_eq_seen_iff s .interacting).mpr ⟨c, hc, hinteraction⟩

lemma askFor_fst (s : Session) (m : Method) (args : List Json) (goal : Goal) :
    (s.askFor m args goal fail).1 = (s.ask m args).1 := by
  rw [askFor]
  split
  · next h => rw [h]
  · next h => rw [h]; rfl

namespace Firm

variable {R : Session → Session → Prop}

/-- A command that is begun is respected, if it is sent only where it may be, and so is what is
done if it cannot be sent. -/
lemma askFor (h : Firm R) {m : Method} {args : List Json} {goal : Goal}
    {otherwise : Session → SessionError → Session × Progress}
    (hm : m.needsStop → s.state = .interacting) (hotherwise : ∀ s' e, R s' (otherwise s' e).1) :
    R s (s.askFor m args goal otherwise).1 := by
  have hask := h.ask s m args hm
  rw [Session.askFor]
  split
  · next s' id hs' =>
    rw [hs'] at hask
    exact hask
  · next s' e hs' =>
    rw [hs'] at hask
    exact h.trans hask (hotherwise s' e)

/-- A command for a stopped program is respected. -/
lemma command (h : Firm R) (s : Session) (m : Method) (args : List Json) (goal : Goal) :
    R s (s.command m args goal).1 := by
  rw [Session.command]
  split
  · exact h.refl s
  · next hs => exact h.askFor (fun _ => state_of_refusal? hs) fun s' _ => h.refl s'

lemma drop (h : Firm R) (s : Session) (epoch : Nat) : R s (s.drop epoch) := by
  rw [Session.drop]
  split_ifs
  · exact h.detach s
  · exact h.refl s

/-- What follows a forced operation is respected. -/
lemma conclude (h : Firm R) (s : Session) (operation : Forced) (answer : Answer) :
    R s (s.conclude operation answer).1 := by
  simp only [Session.conclude]
  split
  · exact h.drop s _
  · exact h.drop s _
  · exact h.relent s
  · exact h.refl s

lemma afterForced (h : Firm R) (s : Session) (operation : Forced) (interrupted : Bool)
    (answer : Answer) : R s (s.afterForced operation interrupted answer).1 := by
  rw [Session.afterForced]
  split
  · next hs =>
    apply h.askFor
    · exact fun _ => state_of_mustResume hs
    · exact fun s' _ => h.conclude s' operation answer
  · exact h.conclude s operation answer

/-- The command of a forced operation is respected. -/
lemma carryOut (h : Firm R) (s : Session) (operation : Forced) (interrupted : Bool) :
    R s (s.carryOut operation interrupted).1 := by
  apply h.askFor
  · intro hm
    rw [Forced.needsStop_method] at hm
    cases hm
  · exact fun s' _ => h.afterForced s' operation interrupted _

/-- One look whether the program has stopped is respected. -/
lemma look (h : Firm R) (s : Session) (pauses : Pauses) (operation : Forced) :
    R s (s.look pauses operation).1 := by
  have hgiveUp : ∀ answer, R s (s.showNext.conclude operation answer).1 :=
    fun answer => h.trans (h.suppress s false) (h.conclude s.showNext operation answer)
  rw [Session.look]
  split
  · exact h.carryOut s operation true
  · exact h.conclude s operation _
  · exact hgiveUp _
  · split
    · exact h.refl s
    · exact hgiveUp _

/-- A forced operation is respected as it begins. -/
lemma force (h : Firm R) (s : Session) (operation : Forced) : R s (s.force operation).1 := by
  rw [Session.force]
  split
  · exact h.conclude s operation _
  · exact h.conclude s operation _
  · exact h.carryOut s operation false
  · have hsent := h.trans (h.suppress s true) (h.notify _ .interrupt)
    split
    · next s' hs' =>
      rw [hs'] at hsent
      exact h.trans hsent (h.look s' _ operation)
    · next s' e hs' =>
      rw [hs'] at hsent
      exact h.trans hsent (h.trans (h.suppress s' false) (h.conclude s'.showNext operation _))

lemma forceIfAttached (h : Firm R) (s : Session) (operation : Forced) (detached : Answer) :
    R s (s.forceIfAttached operation detached).1 := by
  rw [Session.forceIfAttached]
  split_ifs
  · exact h.force s operation
  · exact h.refl s

lemma interrupt (h : Firm R) (s : Session) : R s s.interrupt.1 := by
  rw [Session.interrupt]
  split
  · exact h.refl s
  · exact h.refl s
  · exact h.refl s
  · exact h.notify s .interrupt

/-- Once the registry has taken note of an operation, the rest of its beginning is made of the
acts. -/
lemma start (h : Firm R) (s : Session) (network : Network) {operation : Operation}
    (hplain : operation.isPlain) :
    R { s with breakpoints := s.breakpoints.note s.config.directory operation }
      (s.start network operation).1 := by
  cases operation with
  | detach => exact h.detach s
  | step => exact h.command s .step [] .unit
  | next => exact h.command s .next [] .unit
  | stepOut => exact h.command s .stepOut [] .unit
  | resume => exact h.command s .resume [] .unit
  | resumeTo file line => exact h.command s .setBreakpoint _ .thenResume
  | jump line => exact h.command s .jump _ .unit
  | exec statement => exact h.command s .exec _ .value
  | eval expression => exact h.command s .eval _ .value
  | callStack => exact h.command s .callStack [] .value
  | environment => exact h.command s .environment [] .value
  | setBreakpoint b =>
    show R _ (s.setBreakpoint b).1
    rw [Session.setBreakpoint, Registry.note]
    split_ifs
    · exact h.forceIfAttached s (.setBreakpoint b) (.ok .null)
    · exact h.forceIfAttached _ (.setBreakpoint b) (.ok .null)
  | clearBreakpoint b => exact h.forceIfAttached _ (.clearBreakpoint b) _
  | clearFile file => exact h.forceIfAttached _ (.clearFile _) _
  | interrupt => exact h.interrupt s
  | checkException => exact h.refl s
  | _ => cases hplain

/-- Quitting is respected, if it is respected that the session is on its way to quit. -/
lemma quit (h : Firm R) (s : Session)
    (hquitting : R s (s.modifyConnection ({ · with quitting := true }))) : R s s.quit.1 := by
  rw [Session.quit]
  split
  · exact h.refl s
  · next c hc =>
    rw [modifyConnection, hc, Option.map_some] at hquitting
    exact h.trans hquitting (h.force _ _)

/-- What is done with an answer is respected, if it is respected that the program goes on where
the answer is for a temporary breakpoint. -/
lemma proceed (h : Firm R) (s : Session) (answer : Answer) {goal : Goal}
    (hresume : goal = .thenResume → R s (s.ask .resume []).1) :
    R s (s.proceed answer goal).1 := by
  cases goal with
  | value => exact h.refl s
  | unit => exact h.refl s
  | thenResume =>
    cases answer with
    | error e => exact h.refl s
    | ok v =>
      show R s (s.askFor .resume [] .unit fail).1
      rw [askFor_fst]
      exact hresume rfl
  | forced operation interrupted => exact h.afterForced s operation interrupted answer
  | resumed operation own => exact h.conclude s operation own

end Firm

/-- What does not look at the breakpoints respects every operation as it begins. -/
lemma Stable.start {R : Session → Session → Prop} (h : Stable R) (s : Session)
    (network : Network) {operation : Operation} (hplain : operation.isPlain) :
    R s (s.start network operation).1 :=
  h.trans (h.breakpoints s _) (h.firm.start s network hplain)

/-- A relation that the acts respect that make up whatever happens, but for what the agent sends
and lines of input. -/
structure Lasting (R : Session → Session → Prop) : Prop extends Stable R where
  quitting : ∀ s, R s (s.modifyConnection ({ · with quitting := true }))
  connected : ∀ s remote, R s (s.connected remote)
  endWait : ∀ s id m, R s (s.endWait id m).1
  room : ∀ s room, R s (s.modifyConnection ({ · with room }))

namespace Lasting

variable {R : Session → Session → Prop}

/-- Every operation is respected as it begins, if a line of input is. -/
lemma begin (h : Lasting R) (s : Session) (network : Network) {operation : Operation}
    (hinput : ∀ text, operation = .input text → R s (s.provideInput text).1) :
    R s (s.start network operation).1 := by
  cases operation with
  | attach target =>
    show R s (s.attach network target).1
    rcases attaches_attach s network target with ⟨-, heq⟩ | ⟨-, -, remote, heq⟩ <;> rw [heq]
    · exact h.refl s
    · exact h.connected s remote
  | attachRetrying target =>
    show R s (s.attachRetrying network target).1
    rcases attaches_attachRetrying s network target with ⟨-, heq⟩ | ⟨-, -, remote, heq⟩ <;>
      rw [heq]
    · exact h.refl s
    · exact h.connected s remote
  | quit => exact h.firm.quit s (h.quitting s)
  | input text => exact hinput text rfl
  | _ => exact h.toStable.start s network rfl

/-- What a command does when it is woken is respected, if it is that the program goes on. -/
lemma wake (h : Lasting R) (s : Session) {task : Task}
    (hresume : ∀ id m, task = .answer id m .thenResume → ∀ s, R s (s.ask .resume []).1) :
    R s (s.wake task).1 := by
  cases task with
  | stop pause pauses operation => exact h.firm.look s pauses operation
  | answer id m goal =>
    refine h.trans (h.endWait s id m) (h.firm.proceed _ _ ?_)
    rintro rfl
    exact hresume id m rfl _

end Lasting

end Session

namespace Engine

variable {e : Engine} {R : Session → Session → Prop}

/-- Whatever happens is respected, if what the agent sends is, and a line of input. -/
lemma step_lasting (h : Session.Lasting R) (network : Network) {input : Input}
    (hbytes : ∀ bytes, input = .bytes bytes → R e.session (e.session.receiveBytes bytes))
    (hinput : ∀ text, input = .start (.input text) → R e.session (e.session.provideInput text).1)
    (hresume : input = .wake → ∀ id m, e.task = some (.answer id m .thenResume) →
      ∀ s : Session, R s (s.ask .resume []).1) :
    R e.session (e.step network input).1.session := by
  cases input with
  | start operation =>
    have hbegin :=
      h.begin e.session network fun text htext => hinput text (congrArg Input.start htext)
    rcases step_start_cases e network operation with ⟨-, heq⟩ | ⟨-, heq⟩ | ⟨-, heq⟩ <;> rw [heq]
    · rw [after_session]
      exact hbegin
    · exact hbegin
    · exact h.refl _
  | bytes bytes => exact hbytes bytes rfl
  | endOfStream => exact h.detach _
  | frameTimeout =>
    show R e.session e.session.expireFrame
    rw [Session.expireFrame]
    split_ifs
    · exact h.detach _
    · exact h.refl _
  | wake =>
    rw [step]
    split
    · exact h.refl _
    · next task ht =>
      rw [after_session]
      exact h.wake e.session fun id m htask => hresume rfl id m (htask ▸ ht)
  | room room => exact h.room _ room

end Engine

end RemoteDebugger
