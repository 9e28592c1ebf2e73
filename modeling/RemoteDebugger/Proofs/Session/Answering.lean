import RemoteDebugger.Proofs.Session.Correlation
import RemoteDebugger.Proofs.Session.Outlook
import RemoteDebugger.Proofs.Session.Timely

/-!
# Answers to the agent

Every request of the agent is answered once, as soon as it is handled, but for one for a line of
input, which is answered when the user gives the line. Nothing else is answered.
-/

namespace RemoteDebugger

namespace Session

variable {s s' s'' : Session}

/-- The request for a line of input that is to be answered. -/
def owed? (s : Session) : Option RequestId := s.inputRequest?.map Prod.fst

/-! ### Answers at once -/

/-- The requests that were due were answered, or else the connection ended. -/
def Answers (due : List RequestId) (s s' : Session) : Prop :=
  s'.answered = s.answered ++ due ∨ s'.isAttached = false ∧ s'.answered = s.answered

lemma Answers.of_called (h : Called s s') : Answers [] s s' := by
  left
  rw [Wrote.answered h, List.append_nil]

/-- Calls before and after an answer do not matter. -/
lemma Answers.between {due : List RequestId} {s₀ s₃ : Session} (hbefore : Called s₀ s)
    (h : Answers due s s') (hafter : Called s' s₃) (hattached : s₃.isAttached → s'.isAttached) :
    Answers due s₀ s₃ := by
  rcases h with h | ⟨hgone, h⟩
  · left
    rw [Wrote.answered hafter, h, Wrote.answered hbefore]
  · right
    constructor
    · by_contra hnot
      rw [hattached (by simpa using hnot)] at hgone
      cases hgone
    · rw [Wrote.answered hafter, h, Wrote.answered hbefore]

lemma answers_post (s : Session) (id : RequestId) (outcome : Except RemoteError Json) :
    Answers [id] s (s.post (.response id outcome)) := by
  rw [post]
  rcases send_eq s (.response id outcome) with ⟨-, room, heq⟩ | ⟨e, heq⟩
  · left
    rw [heq]
    exact answered_withLetter s (.response id outcome)
  · right
    rw [heq]
    refine ⟨isAttached_detach s, ?_⟩
    rw [answered, answered, sent, sent, letters_detach]

/-- An answer is for the request that asked for it, if there was one. -/
lemma answers_respond (s : Session) (id : Option RequestId) (outcome : Except RemoteError Json) :
    Answers id.toList s (s.respond id outcome) := by
  cases id with
  | some id => exact answers_post s id outcome
  | none => exact Answers.of_called (Called.refl s)

/-- A session that is attached after it let the program go was attached before. -/
lemma isAttached_of_released (h : s.released.isAttached) : s.isAttached := by
  have hsent := isAttached_of_send h
  split_ifs at hsent
  · rw [isAttached_modifyConnection] at hsent
    exact hsent
  · exact hsent

/-- A startup is answered, if an answer to it is asked for. -/
lemma answers_receiveStartup (s : Session) (id : Option RequestId) :
    Answers id.toList s (s.receiveStartup id) := by
  rw [receiveStartup_eq]
  exact (answers_respond s.loaded id (.ok .null)).between (called_loaded s) (called_released _)
    isAttached_of_released

lemma called_publish (s : Session) (e : Event) : Called s (s.publish e) := Called.of_eq rfl

lemma called_receiveException (s : Session) (args : List Json) :
    Called s (s.receiveException args) :=
  Called.of_eq rfl

/-- A call other than for a line of input is answered at once, if it asks for an answer. -/
lemma answers_receiveCall (s : Session) (id : Option RequestId) (method : String)
    (args : List Json) (kwargs : Members)
    (h : id = none ∨ Method.ofName? method ≠ some .readLine) :
    Answers id.toList s (s.receiveCall id method args kwargs) := by
  have hthen : ∀ {t : Session}, Called s t → ∀ outcome,
      Answers id.toList s (t.respond id outcome) :=
    fun hcalled outcome =>
      (answers_respond _ id outcome).between hcalled (Called.refl _) fun ht => ht
  simp only [receiveCall]
  split
  · exact answers_respond s id _
  · exact answers_receiveStartup s id
  · next hm =>
    rcases h with rfl | h
    · exact Answers.of_called (Called.refl s)
    · exact absurd hm h
  · exact hthen (called_receiveInteraction s args kwargs) _
  · exact hthen (called_publish s _) _
  · exact hthen (called_receiveException s args) _
  · exact answers_respond s id _

/-- A broken request is answered, and a broken answer is not. -/
lemma answers_receiveMalformed (s : Session) (e : DecodeError) :
    Answers (Record.asker? (.error e)).toList s (s.receiveMalformed e) := by
  have hsame : ∀ {t : Session}, t.letters = s.letters → Answers [] s t :=
    fun h => Answers.of_called (Called.of_eq h)
  simp only [receiveMalformed, Record.asker?]
  cases e.blame with
  | nobody => exact hsame rfl
  | request id => exact answers_post s id _
  | answerTo id =>
    dsimp only
    split
    · exact hsame rfl
    · split
      · exact hsame rfl
      · split_ifs <;> exact hsame rfl

/-- What a payload asks for is answered at once, unless it is a line of input. -/
lemma answers_receiveFrame (hattached : s.isAttached) (payload : Bytes) :
    Answers (Record.due payload) s (s.receiveFrame payload) := by
  obtain ⟨c, hc⟩ := Option.isSome_iff_exists.mp hattached
  rw [receiveFrame, hc, Record.due, Record.isReadLine, Record.asking?_eq]
  dsimp only
  cases Record.decode payload with
  | error e => exact answers_receiveMalformed s e
  | ok r =>
    cases r with
    | response id outcome =>
      exact Answers.of_called (Called.of_eq (letters_receiveResponse s id outcome))
    | notification method args kwargs =>
      exact answers_receiveCall s none method args kwargs (.inl rfl)
    | request id method args kwargs =>
      dsimp only
      -- a line of input is owed, and everything else is answered at once
      by_cases hm : Method.ofName? method = some .readLine
      · simp only [hm, beq_self_eq_true, if_true]
        apply Answers.of_called
        show Called s (s.receiveCall (some id) method args kwargs)
        rw [receiveCall, hm]
        exact Called.of_eq rfl
      · simp only [beq_false_of_ne hm, Bool.false_eq_true, if_false]
        exact answers_receiveCall s (some id) method args kwargs (.inr hm)

/-! ### Lines of input -/

/-- A line that is given answers the request for it, or else nothing is written. -/
lemma provideInput_cases (s : Session) (text : String) :
    ((∃ v, (s.provideInput text).2 = .ok v) ∧ (s.provideInput text).1.owed? = none ∧ ∃ id,
        s.owed? = some id ∧ (s.provideInput text).1.answered = s.answered ++ [id]) ∨
      (∃ e, (s.provideInput text).2 = .error e) ∧ (s.provideInput text).1.answered = s.answered ∧
        ((s.provideInput text).1.owed? = s.owed? ∨ (s.provideInput text).1.owed? = none) := by
  rw [provideInput]
  split
  · -- there is no connection
    exact .inr ⟨⟨_, rfl⟩, rfl, .inl rfl⟩
  · next c hc =>
    split
    · exact .inr ⟨⟨_, rfl⟩, rfl, .inl rfl⟩
    · next id previous hr =>
      dsimp only
      rcases send_eq
        { s with connection := some { c with inputRequest := none, interaction := previous } }
        (.response id (.ok (.string text))) with ⟨-, room, heq⟩ | ⟨e, heq⟩
      · left
        rw [heq]
        refine ⟨⟨_, rfl⟩, rfl, id, ?_, ?_⟩
        · rw [owed?, inputRequest?, hc, Option.bind_some, hr]
          rfl
        · exact answered_withLetter
            { s with
              connection := some { c with inputRequest := none, interaction := previous } }
            (.response id (.ok (.string text)))
      · right
        rw [heq]
        refine ⟨⟨_, rfl⟩, ?_, .inr ?_⟩
        · rw [answered, answered, sent, sent, letters_detach]
        · have hnone := connection_of_detached (Bool.eq_false_iff.mp (isAttached_detach
            { s with
              connection := some { c with inputRequest := none, interaction := previous } }))
          rw [owed?, inputRequest?, hnone]
          rfl

end Session

namespace Engine

variable {e : Engine}

/-! ### Runs in which writes succeed -/

/-- The requests of the agent that are to be answered on account of something that happens: those
that come with it, but for lines of input, or the one for the line that is given. -/
def due (e : Engine) : Input → List RequestId
  | .bytes bytes          => (e.meetings (.bytes bytes)).flatMap fun m => Record.due m.2
  | .start (.input text)  =>
    if (e.session.provideInput text).2.isOk then e.session.owed?.toList else []
  | _                     => []

/-- The requests of the agent that are to be answered over a run, one by one. -/
def dues (e : Engine) : List (Network × Input) → List RequestId
  | []      => []
  | i :: is => e.due i.2 ++ (e.step i.1 i.2).1.dues is

/-- As long as the session stands, each of the payloads is answered with what is due. -/
lemma answered_foldl_receiveFrame {s : Session} {ps : List Bytes} (hattached : s.isAttached)
    (hwrites : s.outlasts ps) :
    (ps.foldl Session.receiveFrame s).answered
      = s.answered ++ (s.meetings ps).flatMap fun m => Record.due m.2 := by
  induction ps generalizing s with
  | nil => exact (List.append_nil _).symm
  | cons p ps ih =>
    obtain ⟨hstands, hrest⟩ := Bool.and_eq_true_iff.mp hwrites
    rw [List.foldl_cons, ih hstands hrest, Session.meetings_cons hattached, List.flatMap_cons]
    rcases Session.answers_receiveFrame hattached p with h | ⟨hgone, -⟩
    · rw [h, List.append_assoc]
    · rw [hstands] at hgone
      cases hgone

/-- Nothing is answered unless the agent sends something or the user gives a line. -/
lemma answered_step_quiet (network : Network) {input : Input}
    (hbytes : ∀ bytes, input ≠ .bytes bytes) (hinput : ∀ text, input ≠ .start (.input text)) :
    (e.step network input).1.session.answered = e.session.answered := by
  by_cases h : input = .wake ∧ ∃ id m, e.task = some (.answer id m .thenResume)
  · obtain ⟨rfl, id, m, ht⟩ := h
    rcases step_thenResume ht network with ⟨hletters, -⟩ | ⟨hletters, -⟩
    · exact Session.Wrote.answered (Session.Called.of_eq hletters)
    · rw [Session.answered_of_letters hletters]
      exact List.append_nil _
  · apply Session.Wrote.answered (called_step network hbytes hinput ?_)
    exact fun hwake id m ht => h ⟨hwake, id, m, ht⟩

/-- As long as writes succeed, an input is answered with what is due. -/
lemma answered_step (network : Network) {input : Input}
    (hwrites : e.writeSucceeds network input) :
    (e.step network input).1.session.answered = e.session.answered ++ e.due input := by
  -- frames are answered, so is the request for a line once it is given, and nothing else is
  -- written to a request
  by_cases hbytes : ∃ bytes, input = .bytes bytes
  · obtain ⟨bytes, rfl⟩ := hbytes
    show (e.session.receiveBytes bytes).answered = e.session.answered ++ _
    rw [due, meetings, Session.meetingsIn]
    cases hc : e.session.connection with
    | none =>
      rw [Session.receiveBytes, hc]
      exact (List.append_nil _).symm
    | some c =>
      rw [writeSucceeds, hc] at hwrites
      have hframes := answered_foldl_receiveFrame
        (s := { e.session with connection := some { c with inbox := [] } }) rfl hwrites
      rw [Session.receiveBytes_eq hc]
      refine Eq.trans ?_ hframes
      cases (Frame.cut Frame.defaultLimit (c.inbox ++ bytes)).2 with
      | none => exact Session.Wrote.answered (Session.Called.of_eq (Session.letters_detach _))
      | some inbox => rfl
  · by_cases hinput : ∃ text, input = .start (.input text)
    · obtain ⟨text, rfl⟩ := hinput
      rw [step_input, due]
      rcases Session.provideInput_cases e.session text
        with ⟨⟨v, hv⟩, -, id, hid, h⟩ | ⟨⟨f, hf⟩, h, -⟩
      · rw [h, hv, hid]
        rfl
      · rw [h, hf]
        exact (List.append_nil _).symm
    · rw [answered_step_quiet network (fun bytes h => hbytes ⟨bytes, h⟩) fun text h =>
        hinput ⟨text, h⟩]
      have hnone : e.due input = [] := by
        rw [due.eq_def]
        split
        · exact absurd ⟨_, rfl⟩ hbytes
        · exact absurd ⟨_, rfl⟩ hinput
        · rfl
      rw [hnone, List.append_nil]

/-- As long as writes succeed, a run is answered with what is due. -/
lemma answered_run {run : List (Network × Input)} (hwrites : e.writesSucceed run) :
    (e.run run).1.session.answered = e.session.answered ++ e.dues run := by
  induction run generalizing e with
  | nil => exact (List.append_nil _).symm
  | cons i is ih =>
    obtain ⟨hfirst, hrest⟩ := Bool.and_eq_true_iff.mp hwrites
    show ((e.step i.1 i.2).1.run is).1.session.answered = _
    rw [ih hrest, answered_step i.1 hfirst, dues, List.append_assoc]

end Engine

/-! ### All runs -/

namespace Session

variable {s s' s'' : Session} {received received' : List RequestId}

/-- Of the requests received, each was answered at most once, and so will be the one for a line
of input. -/
def Accounts (received : List RequestId) (s s' : Session) : Prop :=
  ∀ id, (s'.answered ++ s'.owed?.toList).count id
    ≤ (s.answered ++ s.owed?.toList).count id + received.count id

/-- Accounts add up. -/
lemma Accounts.trans (h : Accounts received s s') (h' : Accounts received' s' s'') :
    Accounts (received ++ received') s s'' := by
  intro id
  have hboth : (received ++ received').count id = received.count id + received'.count id :=
    List.count_append
  have := h id
  have := h' id
  omega

lemma Accounts.trans_quiet (h : Accounts received s s') (h' : Accounts [] s' s'') :
    Accounts received s s'' := by
  have hboth := h.trans h'
  rw [List.append_nil] at hboth
  exact hboth

lemma Accounts.of_eq (hanswered : s'.answered = s.answered)
    (howed : s'.owed? = s.owed? ∨ s'.owed? = none) : Accounts [] s s' := by
  intro id
  rw [hanswered, List.count_append, List.count_append]
  rcases howed with howed | howed
  · rw [howed]
    omega
  · rw [howed, Option.toList_none, List.count_nil]
    omega

/-- Where no call is heard, the line that is owed stays the same, or it is owed no more. -/
lemma owed?_of_keeps (h : Outlook.Keeps s.outlook s'.outlook) :
    s'.owed? = s.owed? ∨ s'.owed? = none := by
  rw [owed?, owed?, inputRequest?_eq, inputRequest?_eq]
  rcases h with hnone | ⟨-, -, p, q, hp, hq⟩
  · right
    rw [hnone]
    rfl
  · left
    rw [hp, hq]
    rfl

lemma accounts_of_keeps (hanswered : s'.answered = s.answered)
    (h : Outlook.Keeps s.outlook s'.outlook) : Accounts [] s s' :=
  Accounts.of_eq hanswered (owed?_of_keeps h)

lemma moveOfStop_ne_block (s : Session) (args : List Json) (kwargs : Members) (id : RequestId) :
    s.moveOfStop args kwargs ≠ .block id := by
  intro h
  simp only [moveOfStop] at h
  split_ifs at h

/-- Only a request for a line of input blocks. -/
lemma of_moveOfCall_eq_block {id? : Option RequestId} {method : String} {args : List Json}
    {kwargs : Members} {id : RequestId} (h : s.moveOfCall id? method args kwargs = .block id) :
    id? = some id ∧ Method.ofName? method = some .readLine := by
  simp only [moveOfCall] at h
  split at h
  · exact absurd h (moveOfStop_ne_block s args kwargs id)
  · next hm =>
    cases h
    exact ⟨rfl, hm⟩
  · cases h

/-- Only a request for a line of input lets the program wait for one. -/
lemma isReadLine_of_move {payload : Bytes} {id : RequestId} (h : s.move payload = .block id) :
    Record.isReadLine payload := by
  rw [move] at h
  rw [Record.isReadLine]
  cases hdecode : Record.decode payload with
  | error e =>
    rw [hdecode] at h
    cases h
  | ok r =>
    rw [hdecode] at h
    cases r with
    | response n outcome =>
      dsimp only at h
      rw [moveOfAnswer] at h
      split at h
      · split_ifs at h
      · cases h
    | notification method args kwargs => cases (of_moveOfCall_eq_block h).1
    | request n method args kwargs => exact beq_iff_eq.mpr (of_moveOfCall_eq_block h).2

lemma accounts_detach (s : Session) : Accounts [] s s.detach := by
  apply accounts_of_keeps (Wrote.answered (Called.of_eq (letters_detach s)))
  rw [outlook_detach]
  exact (Outlook.Steady.close _).keeps

/-- A payload that asks for no line leaves the request for one as it is. -/
lemma owed?_receiveFrame (hattached : s.isAttached) {payload : Bytes}
    (h : Record.isReadLine payload = false) :
    (s.receiveFrame payload).owed? = s.owed? ∨ (s.receiveFrame payload).owed? = none := by
  have hsame : (s.outlook.after (s.move payload)).posture.bind Posture.inputRequest
      = s.outlook.posture.bind Posture.inputRequest := by
    cases hm : s.move payload with
    | stay => rfl
    | run => cases hp : s.outlook.posture <;> simp [Outlook.after, hp]
    | stop location mark => cases hp : s.outlook.posture <;> simp [Outlook.after, hp]
    | block id =>
      rw [isReadLine_of_move hm] at h
      cases h
  rw [owed?, owed?, inputRequest?_eq, inputRequest?_eq]
  rcases steady_receiveFrame hattached payload with heq | heq
  · left
    rw [heq, hsame]
  · right
    rw [heq, Outlook.posture_close]
    rfl

/-- A payload is answered at most once, if it asks for an answer at all. -/
lemma accounts_receiveFrame (hattached : s.isAttached) (payload : Bytes) :
    Accounts (Record.asking? payload).toList s (s.receiveFrame payload) := by
  have hanswers := answers_receiveFrame hattached payload
  intro id
  rw [List.count_append, List.count_append]
  cases hline : Record.isReadLine payload with
  | true =>
    have hsame : (s.receiveFrame payload).answered = s.answered := by
      rw [Record.due, hline] at hanswers
      rcases hanswers with h | ⟨-, h⟩
      · rw [h]
        exact List.append_nil _
      · exact h
    -- the request for a line is owed in place of the one before it
    have howed : (s.receiveFrame payload).owed? = Record.asking? payload := by
      obtain ⟨c, hc⟩ := Option.isSome_iff_exists.mp hattached
      rw [Record.asking?_eq, receiveFrame, hc]
      rw [Record.isReadLine] at hline
      dsimp only
      split at hline
      · next n method args kwargs hdecode =>
        rw [hdecode]
        show (s.receiveCall (some n) method args kwargs).owed? = some n
        rw [receiveCall, beq_iff_eq.mp hline]
        simp [receiveReadLine, publish, modifyConnection, owed?, inputRequest?, hc]
      · cases hline
    rw [hsame, howed]
    omega
  | false =>
    -- what was owed is owed still, or it is not owed any more, as the connection ended or the
    -- program did not wait for it
    have howed : (s.receiveFrame payload).owed?.toList.count id ≤ s.owed?.toList.count id := by
      rcases owed?_receiveFrame hattached hline with h | h
      · exact Nat.le_of_eq (by rw [h])
      · rw [h]
        exact Nat.zero_le _
    have hanswered : (s.receiveFrame payload).answered.count id
        ≤ s.answered.count id + (Record.asking? payload).toList.count id := by
      rw [Record.due, hline] at hanswers
      rcases hanswers with h | ⟨-, h⟩
      · rw [h, List.count_append]
        exact Nat.le_refl _
      · rw [h]
        exact Nat.le_add_right _ _
    omega

/-- Payloads are answered no more often than they ask for it. -/
lemma accounts_foldl_receiveFrame (s : Session) (ps : List Bytes) :
    Accounts (((s.meetings ps).map Prod.snd).filterMap Record.asking?) s
      (ps.foldl receiveFrame s) := by
  induction ps generalizing s with
  | nil => exact Accounts.of_eq rfl (.inl rfl)
  | cons p ps ih =>
    by_cases hattached : s.isAttached
    · have hfirst := (accounts_receiveFrame hattached p).trans (ih (s.receiveFrame p))
      rw [meetings_cons hattached, List.map_cons, List.filterMap_cons]
      cases hasking : Record.asking? p with
      | none =>
        rw [hasking] at hfirst
        exact hfirst
      | some id =>
        rw [hasking] at hfirst
        exact hfirst
    · rw [foldl_receiveFrame_of_detached (connection_of_detached hattached),
        meetings_of_detached (by simpa using hattached)]
      exact Accounts.of_eq rfl (.inl rfl)

/-- Bytes are answered no more often than their frames ask for it. -/
lemma accounts_receiveBytes (s : Session) (bytes : Bytes) :
    Accounts (((s.meetingsIn bytes).map Prod.snd).filterMap Record.asking?) s
      (s.receiveBytes bytes) := by
  rw [meetingsIn]
  cases hc : s.connection with
  | none =>
    rw [receiveBytes, hc]
    exact Accounts.of_eq rfl (.inl rfl)
  | some c =>
    have hinbox : ∀ (t : Session) (inbox : Bytes),
        Accounts [] t (t.modifyConnection ({ · with inbox })) :=
      fun t inbox =>
        accounts_of_keeps rfl (keeps_of_eq (outlook_modifyConnection_of_eq fun _ => rfl))
    have hstart : Accounts [] s { s with connection := some { c with inbox := [] } } := by
      have hempty := hinbox s []
      rw [modifyConnection, hc, Option.map_some] at hempty
      exact hempty
    have hframes := hstart.trans (accounts_foldl_receiveFrame _
      (Frame.cut Frame.defaultLimit (c.inbox ++ bytes)).1)
    rw [List.nil_append] at hframes
    rw [receiveBytes_eq hc]
    cases (Frame.cut Frame.defaultLimit (c.inbox ++ bytes)).2 with
    | none => exact hframes.trans_quiet (accounts_detach _)
    | some inbox => exact hframes.trans_quiet (hinbox _ inbox)

lemma accounts_ask (s : Session) (m : Method) (args : List Json) :
    Accounts [] s (s.ask m args).1 := by
  refine accounts_of_keeps ?_ (steady_ask s m args).keeps
  rcases letters_ask s m args with ⟨-, hletters⟩ | ⟨-, hletters⟩
  · rw [answered_of_letters hletters]
    exact List.append_nil _
  · exact Wrote.answered (Called.of_eq hletters)

/-- Nothing but what the agent sends and lines of input matter for the accounts. -/
lemma lasting_accounts : Lasting (Accounts []) where
  refl _ := Accounts.of_eq rfl (.inl rfl)
  trans := Accounts.trans_quiet
  ask s m args _ := accounts_ask s m args
  notify s m := accounts_of_keeps (Wrote.answered (called_notify s m)) (stable_keeps.notify s m)
  detach := accounts_detach
  breakpoints _ _ := Accounts.of_eq rfl (.inl rfl)
  suppress s b := accounts_of_keeps rfl (stable_keeps.suppress s b)
  relent s := accounts_of_keeps rfl (stable_keeps.relent s)
  quitting s := accounts_of_keeps rfl (keeps_quitting s true)
  connected _ _ := Accounts.of_eq rfl (.inr rfl)
  endWait s id m := by
    apply accounts_of_keeps (Wrote.answered (Called.of_eq (letters_endWait s id m)))
    exact keeps_of_eq (outlook_endWait s id m)
  room s room := by
    refine accounts_of_keeps rfl (keeps_of_eq (outlook_modifyConnection_of_eq ?_))
    exact fun _ => rfl

lemma accounts_provideInput (s : Session) (text : String) :
    Accounts [] s (s.provideInput text).1 := by
  rcases provideInput_cases s text with ⟨-, howed, id, hid, h⟩ | ⟨-, h, howed⟩
  · intro n
    rw [h, howed, hid, Option.toList_some, Option.toList_none, List.append_nil]
    exact Nat.le_add_right _ _
  · exact Accounts.of_eq h howed

end Session

namespace Engine

variable {e : Engine}

/-- An input is answered no more often than it asks for it. -/
lemma accounts_step (e : Engine) (network : Network) (input : Input) :
    Session.Accounts (((e.meetings input).map Prod.snd).filterMap Record.asking?) e.session
      (e.step network input).1.session := by
  by_cases hbytes : ∃ bytes, input = .bytes bytes
  · obtain ⟨bytes, rfl⟩ := hbytes
    exact Session.accounts_receiveBytes e.session bytes
  · have hnone : e.meetings input = [] := by
      cases input with
      | bytes bytes => exact absurd ⟨bytes, rfl⟩ hbytes
      | _ => rfl
    rw [hnone]
    apply step_lasting Session.lasting_accounts
    · exact fun bytes hin => absurd ⟨bytes, hin⟩ hbytes
    · exact fun text _ => Session.accounts_provideInput e.session text
    · exact fun _ _ _ _ s => Session.accounts_ask s .resume []

/-- No request is answered more often over a run than it is heard. -/
lemma accounts_run (e : Engine) (run : List (Network × Input)) :
    Session.Accounts ((e.heard run).filterMap Record.asking?) e.session
      (e.run run).1.session := by
  induction run generalizing e with
  | nil => exact Session.Accounts.of_eq rfl (.inl rfl)
  | cons i is ih =>
    rw [heard, List.filterMap_append]
    exact (accounts_step e i.1 i.2).trans (ih (e.step i.1 i.2).1)

/-- As long as writes succeed, a frame that asks for an answer gets one with its number, and
nothing else does, unless it asks for a line of input; and over a run the answers written are
those, together with one for each line that was given. In every run a number is answered at most
as often as it was asked with. -/
theorem requests_answered_once (config : SessionConfig) (run : List (Network × Input)) :
    (∀ (s : Session) (payload : Bytes), s.isAttached → (s.receiveFrame payload).isAttached →
      ∃ ls, (s.receiveFrame payload).letters = s.letters ++ ls ∧
        ls.filterMap (fun l => l.record.answered?) = Record.due payload) ∧
    (writesSucceed { session := { config } } run →
      (Engine.run { session := { config } } run).1.session.answered
        = dues { session := { config } } run) ∧
    ∀ id, (Engine.run { session := { config } } run).1.session.answered.count id
      ≤ ((heard { session := { config } } run).filterMap Record.asking?).count id := by
  refine ⟨?_, ?_, ?_⟩
  · -- one frame
    intro s payload hattached hstands
    obtain ⟨ls, hls, -⟩ := Session.timely_receiveFrame s payload
    refine ⟨ls, hls, ?_⟩
    have hanswered : (s.receiveFrame payload).answered = s.answered ++ Record.due payload := by
      rcases Session.answers_receiveFrame hattached payload with h | ⟨hgone, -⟩
      · exact h
      · rw [hstands] at hgone
        cases hgone
    rw [Session.answered_of_letters hls] at hanswered
    exact List.append_cancel_left hanswered
  · -- a run over which writes succeed
    intro hwrites
    rw [answered_run hwrites]
    exact List.nil_append _
  · -- any run, and one id
    intro id
    have h := accounts_run { session := { config } } run id
    rw [List.count_append] at h
    have hnone : (({ session := { config } } : Engine).session.answered
      ++ ({ session := { config } } : Engine).session.owed?.toList).count id = 0 := rfl
    omega

def listening :
    Engine := (Engine.step (fun _ _ => .ok ()) { session := {} } (.start (.attach {}))).1

/-- The agent asks for what is not served and for a line, which is given. -/
def conversing : List (Network × Input) :=
  [(fun _ _ => .ok (), .start (.attach {})),
    (Network.nowhere, .bytes (Frame.encode (Record.request 7 "do_step" [] []).encode
      ++ Frame.encode (Record.request 8 "readline" [] []).encode)),
    (Network.nowhere, .start (.input "yes"))]

/-- A program that steps and then reads a line gets an answer to each of the two requests. -/
theorem requests_answered_once_conversing :
    (∃ ls, (listening.session.receiveFrame (Record.request 7 "do_step" [] []).encode).letters
        = listening.session.letters ++ ls ∧ ls.filterMap (fun l => l.record.answered?) = [7]) ∧
      (Engine.run { session := { config := {} } } conversing).1.session.answered = [7, 8] ∧
      (Engine.run { session := { config := {} } } conversing).1.session.answered.count 8
        ≤ 1 := by
  obtain ⟨hframe, hrun, hcount⟩ := requests_answered_once {} conversing
  have hdue : Record.due (Record.request 7 "do_step" [] []).encode = [7] := by decide +kernel
  have hdues : dues { session := { config := {} } } conversing = [7, 8] := by decide +kernel
  have hheard : ((heard { session := { config := {} } } conversing).filterMap
      Record.asking?).count 8 = 1 := by
    decide +kernel
  refine ⟨?_, ?_, ?_⟩
  · rw [← hdue]
    apply hframe
    · decide +kernel
    · decide +kernel
  · rw [← hdues]
    apply hrun
    decide +kernel
  · exact Nat.le_trans (hcount 8) (Nat.le_of_eq hheard)

end Engine

end RemoteDebugger
