import RemoteDebugger.Proofs.Session.Letters
import RemoteDebugger.Proofs.Session.Run

/-!
# Requests to a program that stands still

Requests that need the program to stand still are written while it does, whatever the agent sends
and in whatever order. There is one exception: a program that is to run to a line is told to run
on once its breakpoint is set, although it may not stand still any more by then.
-/

namespace RemoteDebugger

namespace Session

variable {s : Session}

/-! ### Frames -/

lemma timely_post_response (s : Session) (id : RequestId) (outcome : Except RemoteError Json) :
    WroteTimely s (s.post (.response id outcome)) :=
  wrote_send (Letter.isTimely_response id outcome s.state)

lemma timely_respond (s : Session) (id : Option RequestId) (outcome : Except RemoteError Json) :
    WroteTimely s (s.respond id outcome) := by
  cases id with
  | some id => exact timely_post_response s id outcome
  | none => exact Wrote.refl s

/-- What a startup calls for is written in time. -/
lemma timely_receiveStartup (s : Session) (id : Option RequestId) :
    WroteTimely s (s.receiveStartup id) := by
  rw [receiveStartup_eq]
  exact (called_loaded s).timely.trans
    ((timely_respond s.loaded id (.ok .null)).trans (called_released _).timely)

/-- What a call of the agent calls for is written in time. -/
lemma timely_receiveCall (s : Session) (id : Option RequestId) (method : String)
    (args : List Json) (kwargs : Members) :
    WroteTimely s (s.receiveCall id method args kwargs) := by
  simp only [receiveCall]
  split
  · exact timely_respond s id _
  · exact timely_receiveStartup s id
  · split
    · exact Wrote.of_eq rfl
    · exact Wrote.refl s
  · exact (called_receiveInteraction s args kwargs).timely.trans (timely_respond _ id _)
  · exact WroteTimely.trans (Wrote.of_eq rfl) (timely_respond _ id _)
  · exact WroteTimely.trans (Wrote.of_eq rfl) (timely_respond _ id _)
  · exact timely_respond s id _

lemma timely_receiveMalformed (s : Session) (e : DecodeError) :
    WroteTimely s (s.receiveMalformed e) := by
  simp only [receiveMalformed]
  split
  · exact Wrote.refl s
  · exact timely_post_response s _ _
  · split
    · exact Wrote.refl s
    · split
      · exact Wrote.refl s
      · split_ifs <;> exact Wrote.of_eq rfl

/-- Whatever a frame says, what is written on account of it is timely. -/
lemma timely_receiveFrame (s : Session) (payload : Bytes) :
    WroteTimely s (s.receiveFrame payload) := by
  rw [receiveFrame]
  split
  · exact Wrote.refl s
  · split
    · next r _ =>
      cases r with
      | response id outcome => exact Wrote.of_eq (letters_receiveResponse s id outcome)
      | notification method args kwargs => exact timely_receiveCall s none method args kwargs
      | request id method args kwargs => exact timely_receiveCall s (some id) method args kwargs
    · exact timely_receiveMalformed s _

/-- What frames bring about to be written is of a kind if that is so for each of them. -/
lemma wrote_receiveBytes {P : Letter → Prop}
    (h : ∀ s payload, Wrote P s (receiveFrame s payload)) (s : Session) (bytes : Bytes) :
    Wrote P s (s.receiveBytes bytes) := by
  have hframes : ∀ (ps : List Bytes) (s : Session), Wrote P s (ps.foldl receiveFrame s) := by
    intro ps
    induction ps with
    | nil => exact Wrote.refl
    | cons p ps ih => exact fun s => (h s p).trans (ih (s.receiveFrame p))
  cases hc : s.connection with
  | none =>
    rw [receiveBytes, hc]
    exact Wrote.refl s
  | some c =>
    rw [receiveBytes_eq hc]
    have hwrote : Wrote P s _ := hframes (Frame.cut Frame.defaultLimit (c.inbox ++ bytes)).1
      { s with connection := some { c with inbox := [] } }
    refine hwrote.trans ?_
    cases (Frame.cut Frame.defaultLimit (c.inbox ++ bytes)).2 with
    | none => exact Wrote.of_eq (letters_detach _)
    | some inbox => exact Wrote.of_eq rfl

lemma timely_receiveBytes (s : Session) (bytes : Bytes) : WroteTimely s (s.receiveBytes bytes) :=
  wrote_receiveBytes timely_receiveFrame s bytes

/-! ### Operations -/

lemma timely_provideInput (s : Session) (text : String) :
    WroteTimely s (s.provideInput text).1 := by
  rw [provideInput]
  split
  · exact Wrote.refl s
  · split
    · exact Wrote.refl s
    · exact WroteTimely.trans (Wrote.of_eq rfl) (timely_post_response _ _ _)

/-- A request is written, or else the connection is gone. -/
lemma letters_ask (s : Session) (m : Method) (args : List Json) :
    ((s.ask m args).1.isAttached ∧ (s.ask m args).1.letters
        = s.letters ++ [{ record := .ask s.nextId m args, state := s.state }]) ∨
      (s.ask m args).1.isAttached = false ∧ (s.ask m args).1.letters = s.letters := by
  have hstate := state_register { s with reply := none } m true
  rw [ask]
  rcases send_eq ({ s with reply := none }.register m true) (.ask s.nextId m args)
    with ⟨hattached, room, hsend⟩ | ⟨e, hsend⟩
  · rw [hsend]
    left
    refine ⟨?_, ?_⟩
    · dsimp only
      rw [isAttached_modifyConnection]
      exact hattached
    · show s.letters ++ _ = s.letters ++ _
      rw [hstate]
      rfl
  · rw [hsend]
    right
    exact ⟨isAttached_detach _, letters_detach _⟩

end Session

namespace Engine

variable {e : Engine}

/-! ### Requests that come too late -/

/-- Whether the breakpoint that the program is to run to was set, but the program does not stand
still any more. -/
def isOvertaken (e : Engine) : Bool :=
  match e.task, e.session.reply with
  | some (.answer _ _ .thenResume), some (.ok _) => e.session.state != .interacting
  | _, _                                         => false

/-- Whether such a program is told to run on. -/
def resumesOvertaken (e : Engine) (network : Network) : Input → Bool
  | .wake => e.isOvertaken && (e.step network .wake).1.session.isAttached
  | _     => false

/-- Whether that happens in a run. -/
def everResumesOvertaken (e : Engine) : List (Network × Input) → Bool
  | []      => false
  | i :: is => e.resumesOvertaken i.1 i.2 || (e.step i.1 i.2).1.everResumesOvertaken is

/-- As a wait for an answer ends, the operation proceeds with it. -/
lemma step_wake {id : RequestId} {m : Method} {goal : Goal}
    (ht : e.task = some (.answer id m goal)) (network : Network) :
    (e.step network .wake).1.session
      = ((e.session.endWait id m).1.proceed (e.session.endWait id m).2 goal).1 := by
  rw [step, ht]
  exact after_session _

/-- After the answer to the breakpoint, either nothing is written or the request to run on, with
the state as it is by then. -/
lemma step_thenResume {id : RequestId} {m : Method}
    (ht : e.task = some (.answer id m .thenResume)) (network : Network) :
    (e.step network .wake).1.session.letters = e.session.letters ∧
        e.resumesOvertaken network .wake = false ∨
      (e.step network .wake).1.session.letters
          = e.session.letters ++
            [{ record := .ask e.session.nextId .resume [], state := e.session.state }] ∧
        e.resumesOvertaken network .wake = (e.session.state != .interacting) := by
  have hwake := step_wake ht network
  cases hr : e.session.reply with
  | none =>
    left
    have hfail : (e.step network .wake).1.session = (e.session.endWait id m).1 := by
      rw [hwake]
      simp only [Session.endWait, Session.takeReply, hr, Session.giveUp]
      split <;> rfl
    rw [hfail, Session.letters_endWait, resumesOvertaken, isOvertaken, ht, hr]
    exact ⟨rfl, rfl⟩
  | some a =>
    have hend : e.session.endWait id m = ({ e.session with reply := none }, a) := by
      simp only [Session.endWait, Session.takeReply, hr]
    rw [hend] at hwake
    cases a with
    | error error =>
      left
      rw [hwake, resumesOvertaken, isOvertaken, ht, hr]
      exact ⟨rfl, rfl⟩
    | ok v =>
      have hask : (e.step network .wake).1.session
          = (Session.ask { e.session with reply := none } .resume []).1 := by
        rw [hwake]
        exact Session.askFor_fst _ _ _ _
      have hovertaken : e.isOvertaken = (e.session.state != .interacting) := by
        rw [isOvertaken, ht, hr]
      rw [resumesOvertaken, hovertaken, hask]
      rcases Session.letters_ask { e.session with reply := none } .resume []
        with ⟨hattached, hletters⟩ | ⟨hattached, hletters⟩
      · right
        rw [hattached, Bool.and_true]
        exact ⟨hletters, rfl⟩
      · left
        rw [hattached, Bool.and_false]
        exact ⟨hletters, rfl⟩

/-- Apart from the request to run on after a breakpoint, what is written on account of other
things than the agent's and lines of input are calls that are due. -/
lemma called_step (network : Network) {input : Input} (hbytes : ∀ bytes, input ≠ .bytes bytes)
    (hinput : ∀ text, input ≠ .start (.input text))
    (h : input = .wake → ∀ id m, e.task ≠ some (.answer id m .thenResume)) :
    Session.Called e.session (e.step network input).1.session := by
  apply step_lasting Session.lasting_called
  · exact fun bytes hin => absurd hin (hbytes bytes)
  · exact fun text hin => absurd hin (hinput text)
  · exact fun hwake id m ht => absurd ht (h hwake id m)

/-- A line of input is given at any time. -/
lemma step_input (e : Engine) (network : Network) (text : String) :
    (e.step network (.start (.input text))).1.session = (e.session.provideInput text).1 := by
  rcases step_start_cases e network (.input text) with ⟨-, heq⟩ | ⟨-, heq⟩ | ⟨hexclusive, -⟩
  · rw [heq]
    exact after_session _
  · rw [heq]
    rfl
  · cases hexclusive

/-- Apart from the request to run on after a breakpoint, everything that happens writes timely
letters. -/
lemma step_timely (network : Network) {input : Input}
    (h : input = .wake → ∀ id m, e.task ≠ some (.answer id m .thenResume)) :
    Session.WroteTimely e.session (e.step network input).1.session := by
  by_cases hbytes : ∃ bytes, input = .bytes bytes
  · obtain ⟨bytes, rfl⟩ := hbytes
    exact Session.timely_receiveBytes e.session bytes
  · by_cases hinput : ∃ text, input = .start (.input text)
    · obtain ⟨text, rfl⟩ := hinput
      rw [step_input]
      exact Session.timely_provideInput e.session text
    · refine (called_step network ?_ ?_ h).timely
      · exact fun bytes hin => hbytes ⟨bytes, hin⟩
      · exact fun text hin => hinput ⟨text, hin⟩

/-- Whatever happens, what is written are calls that are due, or requests to run on, or it is
written on account of what the agent sends or of a line of input. -/
lemma wrote_step {P : Letter → Prop} (e : Engine) (network : Network) {input : Input}
    (hcall : ∀ l : Letter, l.isDue → P l)
    (hresume : ∀ id st, P { record := .ask id .resume [], state := st })
    (hbytes : ∀ bytes, input = .bytes bytes →
      Session.Wrote P e.session (e.session.receiveBytes bytes))
    (hinput : ∀ text, input = .start (.input text) →
      Session.Wrote P e.session (e.session.provideInput text).1) :
    Session.Wrote P e.session (e.step network input).1.session := by
  by_cases h : input = .wake ∧ ∃ id m, e.task = some (.answer id m .thenResume)
  · obtain ⟨rfl, id, m, ht⟩ := h
    rcases step_thenResume ht network with ⟨hletters, -⟩ | ⟨hletters, -⟩
    · exact Session.Wrote.of_eq hletters
    · exact ⟨_, hletters, fun l hl => List.mem_singleton.mp hl ▸ hresume _ _⟩
  · by_cases hin : ∃ bytes, input = .bytes bytes
    · obtain ⟨bytes, rfl⟩ := hin
      exact hbytes bytes rfl
    · by_cases hline : ∃ text, input = .start (.input text)
      · obtain ⟨text, rfl⟩ := hline
        rw [step_input]
        exact hinput text rfl
      · refine (called_step network ?_ ?_ fun hwake id m ht => h ⟨hwake, id, m, ht⟩).mono hcall
        · exact fun bytes heq => hin ⟨bytes, heq⟩
        · exact fun text heq => hline ⟨text, heq⟩

/-- Whatever happens, a letter that is not timely is a request to run on. -/
lemma step_wrote (e : Engine) (network : Network) (input : Input) :
    Session.Wrote (fun l => l.isTimely ∨ ∃ id, l.record = .ask id .resume []) e.session
      (e.step network input).1.session :=
  wrote_step e network (fun _ hl => .inl (Letter.isTimely_of_isDue hl))
    (fun id _ => .inr ⟨id, rfl⟩)
    (fun bytes _ => (Session.timely_receiveBytes e.session bytes).mono fun _ => .inl)
    (fun text _ => (Session.timely_provideInput e.session text).mono fun _ => .inl)

/-- A letter comes out of time just if a request to run on is overtaken. -/
lemma step_timely_iff (e : Engine) (network : Network) (input : Input) :
    (e.resumesOvertaken network input = false ∧
        Session.WroteTimely e.session (e.step network input).1.session) ∨
      e.resumesOvertaken network input = true ∧
        ∃ l ∈ (e.step network input).1.session.letters, l.isTimely = false := by
  -- only the wait for a temporary breakpoint ends with a request that is not checked again
  by_cases h : input = .wake ∧ ∃ id m, e.task = some (.answer id m .thenResume)
  · obtain ⟨rfl, id, m, ht⟩ := h
    rcases step_thenResume ht network with ⟨hletters, hnot⟩ | ⟨hletters, hiff⟩
    · exact .inl ⟨hnot, Session.Wrote.of_eq hletters⟩
    · rw [hiff]
      by_cases hstate : e.session.state = .interacting
      · left
        rw [hstate]
        refine ⟨rfl, _, hletters, ?_⟩
        intro l hl
        rw [List.mem_singleton.mp hl, hstate]
        rfl
      · right
        rw [hletters]
        refine ⟨bne_iff_ne.mpr hstate, _,
          List.mem_append_right _ (List.mem_singleton_self _), ?_⟩
        have hbeq : (e.session.state == SessionState.interacting) = false :=
          beq_false_of_ne hstate
        rw [Letter.isTimely, hbeq]
        rfl
  · left
    refine ⟨?_, step_timely network fun hwake id m ht => h ⟨hwake, id, m, ht⟩⟩
    cases input with
    | wake =>
      have hnot : e.isOvertaken = false := by
        rw [isOvertaken]
        split
        · next id m v ht hr => exact absurd ⟨rfl, id, m, ht⟩ h
        · rfl
      rw [resumesOvertaken, hnot, Bool.false_and]
    | _ => rfl

/-! ### Runs -/

/-- Nothing but a request to run on is ever written out of time. -/
lemma run_wrote (e : Engine) (run : List (Network × Input)) :
    Session.Wrote (fun l => l.isTimely ∨ ∃ id, l.record = .ask id .resume []) e.session
      (e.run run).1.session := by
  induction run generalizing e with
  | nil => exact Session.Wrote.refl _
  | cons i is ih => exact (step_wrote e i.1 i.2).trans (ih (e.step i.1 i.2).1)

/-- Everything is written in time over a run just if no request to run on is overtaken. -/
lemma run_timely_iff (h : ∀ l ∈ e.session.letters, l.isTimely) (run : List (Network × Input)) :
    (∀ l ∈ (e.run run).1.session.letters, l.isTimely) ↔ e.everResumesOvertaken run = false := by
  induction run generalizing e with
  | nil => exact ⟨fun _ => rfl, fun _ => h⟩
  | cons i is ih =>
    rw [everResumesOvertaken]
    rcases step_timely_iff e i.1 i.2 with ⟨hnot, hwrote⟩ | ⟨hovertaken, l, hl, hlate⟩
    · rw [hnot, Bool.false_or]
      exact ih (hwrote.forall h)
    · rw [hovertaken, Bool.true_or]
      constructor
      · intro hall
        have hend := hall l ((run_wrote _ is).mem hl)
        rw [hlate] at hend
        exact hend.symm
      · intro hfalse
        cases hfalse

/-- In every run the requests that need the program to stand still are written while it does,
exactly unless a program that is to run to a line is told to run on when it does not stand still
any more. No other request is ever written too late. -/
theorem asked_of_stopped_program (config : SessionConfig) (run : List (Network × Input)) :
    ((∀ l ∈ (Engine.run { session := { config } } run).1.session.letters,
          l.record.needsStop → l.state = .interacting) ↔
        everResumesOvertaken { session := { config } } run = false) ∧
      ∀ l ∈ (Engine.run { session := { config } } run).1.session.letters,
        l.record.needsStop → l.state ≠ .interacting → ∃ id, l.record = .ask id .resume [] := by
  have htimely : ∀ l : Letter, l.isTimely ↔ (l.record.needsStop → l.state = .interacting) := by
    intro l
    rw [Letter.isTimely]
    cases l.record.needsStop <;> simp
  constructor
  · simp only [← htimely]
    exact run_timely_iff (fun _ hl => absurd hl List.not_mem_nil) run
  · intro l hl hneeds hstate
    rcases (run_wrote _ run).forall (fun _ hl => absurd hl List.not_mem_nil) l hl with h | h
    · exact absurd ((htimely l).mp h hneeds) hstate
    · exact h

/-- The program stopped and is to run to a line, but asks for input before its breakpoint is
set. -/
def overtaking : List (Network × Input) :=
  [(fun _ _ => .ok (), .start (.attach {})),
    (Network.nowhere, .bytes (Frame.encode
      (Record.notification "interaction" [.string "a.py", Json.nat 1, .string "x"] []).encode)),
    (Network.nowhere, .start (.resumeTo "a.py" 20)),
    (Network.nowhere, .bytes (Frame.encode (Record.request 7 "readline" [] []).encode
      ++ Frame.encode (Record.response 1 (.ok .null)).encode)),
    (Network.nowhere, .wake)]

/-- It is told to run on while it waits for input. -/
theorem resumed_while_blocked :
    (Engine.run { session := { config := {} } } overtaking).1.session.letters.getLast?
        = some { record := .ask 2 .resume [], state := .blockedOnInput } ∧
      (Record.ask 2 .resume []).needsStop := by
  decide +kernel

end Engine

end RemoteDebugger
