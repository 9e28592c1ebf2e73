import RemoteDebugger.Proofs.Session.Flags
import RemoteDebugger.Proofs.Session.Journal

/-!
# The first stop

A session that is to run without pausing runs over the first stop after a startup, and over no
other one: the flag of the connection is up exactly while the journal tells of a startup on it
and of no stop since.
-/

namespace RemoteDebugger

open Books

/-! ### Journals of a program that starts -/

/-- The program was started on the connection that began last, and has not stopped since. -/
def IsStarting (js : List Incident) : Prop :=
  ∃ before startup since, current js = before ++ .handled startup :: since ∧
    Record.isCallOf .startup startup ∧ ∀ payload, .handled payload ∈ since →
      ¬ Record.isCallOf .interaction payload

/-- Over a new connection there was no startup yet. -/
lemma not_isStarting_attached (js : List Incident) : ¬ IsStarting (js ++ [.attached]) := by
  rintro ⟨before, startup, since, hcurrent, -⟩
  rw [current_concat, if_pos rfl] at hcurrent
  cases before <;> cases hcurrent

/-- A startup is followed by a first stop until a stop is heard. -/
lemma isStarting_handled (js : List Incident) (payload : Bytes) :
    IsStarting (js ++ [.handled payload]) ↔
      Record.isCallOf .startup payload ∨
        IsStarting js ∧ ¬ Record.isCallOf .interaction payload := by
  have hcurrent : current (js ++ [.handled payload]) = current js ++ [.handled payload] :=
    current_append (by simp) js
  simp only [IsStarting, hcurrent, concat_eq_append_cons]
  constructor
  · rintro ⟨before, startup, since, ⟨rfl, hsame, rfl⟩ | ⟨since', rfl, hsplit⟩, hstartup, hsince⟩
    · cases hsame
      exact .inl hstartup
    · refine .inr ⟨⟨before, startup, since', hsplit, hstartup, fun q hq => ?_⟩, ?_⟩
      · exact hsince q (List.mem_append_left _ hq)
      · exact hsince payload (List.mem_append_right _ List.mem_cons_self)
  · rintro (hstartup | ⟨⟨before, startup, since, hsplit, hstartup, hsince⟩, hstop⟩)
    · exact ⟨_, payload, [], .inl ⟨rfl, rfl, rfl⟩, hstartup, fun _ hq => nomatch hq⟩
    · refine ⟨before, startup, _, .inr ⟨since, rfl, hsplit⟩, hstartup, fun q hq => ?_⟩
      rcases List.mem_append.mp hq with hq | hq
      · exact hsince q hq
      · cases List.mem_singleton.mp hq
        exact hstop

lemma isStarting_givenUp (js : List Incident) (id : RequestId) (m : Method) :
    IsStarting (js ++ [.givenUp id m]) ↔ IsStarting js := by
  have hcurrent : current (js ++ [.givenUp id m]) = current js ++ [.givenUp id m] :=
    current_append (by simp) js
  simp only [IsStarting, hcurrent, concat_eq_append_cons]
  constructor
  · rintro ⟨before, startup, since, ⟨-, hsame, -⟩ | ⟨since', rfl, hsplit⟩, hstartup, hsince⟩
    · cases hsame
    · exact ⟨before, startup, since', hsplit, hstartup, fun q hq =>
        hsince q (List.mem_append_left _ hq)⟩
  · rintro ⟨before, startup, since, hsplit, hstartup, hsince⟩
    refine ⟨before, startup, _, .inr ⟨since, rfl, hsplit⟩, hstartup, fun q hq => ?_⟩
    rcases List.mem_append.mp hq with hq | hq
    · exact hsince q hq
    · cases List.mem_singleton.mp hq

namespace Session

variable {s s' : Session} {js : List Incident} {config : SessionConfig}

/-- The incidents of a payload count as the payload. -/
lemma isStarting_incidents (js : List Incident) (s : Session) (payload : Bytes) :
    IsStarting (js ++ s.incidents payload) ↔
      Record.isCallOf .startup payload ∨ IsStarting js ∧
        ¬ Record.isCallOf .interaction payload := by
  rw [← isStarting_handled, incidents, ← List.singleton_append, ← List.append_assoc]
  rw [spoilt]
  split
  · rw [List.append_nil]
  · split
    · cases s.books.pending? _ with
      | none => rw [Option.map_none, Option.toList_none, List.append_nil]
      | some p => exact isStarting_givenUp _ _ p.method
    · rw [List.append_nil]

lemma isStarting_forsaken (js : List Incident) (s : Session) (id : RequestId) (m : Method) :
    IsStarting (js ++ s.forsaken id m) ↔ IsStarting js := by
  rw [forsaken]
  split_ifs
  · exact isStarting_givenUp js id m
  · rw [List.append_nil]

/-! ### The flag of a stop that is to be run over -/

/-- The next stop is to be run over if the program starts and the session is to run without
pausing. -/
def Awaits (config : SessionConfig) (js : List Incident) (s : Session) : Prop :=
  s.config = config ∧
    (s.isAttached →
      (s.connection.any Connection.startContinue ↔ config.runWithoutPausing ∧ IsStarting js))

/-- What leaves the flag alone leaves alone what is known of it. -/
lemma Awaits.spares (h : s.Awaits config js) (hconfig : s'.config = s.config)
    (hspares : Spares Connection.startContinue s s') : s'.Awaits config js := by
  refine ⟨hconfig.trans h.1, fun hattached => ?_⟩
  have hwas := h.2 (hspares.isAttached hattached)
  rcases hspares with hsame | hgone
  · rw [any_of_map_eq hsame]
    exact hwas
  · rw [isAttached, hgone] at hattached
    cases hattached

lemma Awaits.quiet (h : s.Awaits config js) (hquiet : Quiet s s')
    (hspares : Spares Connection.startContinue s s') : s'.Awaits config js :=
  h.spares hquiet.undergoes.config hspares

/-- A startup raises the flag if the session is to run without pausing, and leaves it alone
otherwise. -/
lemma any_startContinue_receiveStartup (s : Session) (id : Option RequestId)
    (hattached : (s.receiveStartup id).isAttached) :
    (s.receiveStartup id).connection.any Connection.startContinue
      = (s.config.runWithoutPausing || s.connection.any Connection.startContinue) := by
  have htold : Spares Connection.startContinue s (s.loaded.respond id (.ok .null)) :=
    (spares_loaded isFlag_startContinue s).trans (spares_respond isFlag_startContinue _ id _)
  have hconfig : (s.loaded.respond id (.ok .null)).config = s.config :=
    ((quiet_loaded s).trans (quiet_respond _ id _)).undergoes.config
  rw [receiveStartup_eq] at hattached ⊢
  generalize s.loaded.respond id (.ok .null) = t at *
  rw [released, hconfig] at hattached ⊢
  cases hrun : s.config.runWithoutPausing with
  | false =>
    rw [hrun, if_neg Bool.false_ne_true] at hattached
    rw [if_neg Bool.false_ne_true, Bool.false_or]
    rcases htold.trans (spares_send isFlag_startContinue t (.notify .run)) with hsame | hgone
    · exact any_of_map_eq hsame
    · rw [isAttached, show (t.post (.notify .run)).connection = none from hgone] at hattached
      cases hattached
  | true =>
    rw [hrun, if_pos rfl] at hattached
    rw [if_pos rfl, Bool.true_or]
    have hsent := spares_send isFlag_startContinue
      (t.modifyConnection fun c => { c with startContinue := true })
      (.notify .run)
    refine hsent.stays ?_ hattached
    obtain ⟨c, hc⟩ := Option.isSome_iff_exists.mp (isAttached_of_send hattached)
    rw [hc, Option.any_some]
    obtain ⟨d, -, rfl⟩ := Option.map_eq_some_iff.mp hc
    rfl

/-- No stop leaves the flag up. -/
lemma any_startContinue_receiveInteraction (s : Session) (args : List Json) (kwargs : Members) :
    (s.receiveInteraction args kwargs).connection.any Connection.startContinue = false := by
  rw [receiveInteraction]
  cases hc : s.connection with
  | none => rw [hc]; rfl
  | some c =>
    dsimp only
    cases hstart : c.startContinue with
    | true =>
      rw [if_pos rfl]
      refine Bool.eq_false_iff.mpr fun hup => ?_
      have hbefore := (spares_tell isFlag_startContinue _ .resume []).any hup
      cases hbefore
    | false =>
      rw [if_neg Bool.false_ne_true]
      split_ifs <;> rfl

/-- What is known of the stop to be run over is known after every payload. -/
lemma Awaits.receiveFrame (h : s.Awaits config js) (hattached : s.isAttached) (payload : Bytes) :
    (s.receiveFrame payload).Awaits config (js ++ s.incidents payload) := by
  have hconfig : (s.receiveFrame payload).config = s.config :=
    (passes_receiveFrame hattached payload).undergoes.config
  refine ⟨hconfig.trans h.1, fun hstands => ?_⟩
  have hflag := h.2 hattached
  rw [isStarting_incidents]
  -- a startup raises the flag, a stop takes it down, and nothing else touches it
  by_cases hstartup : Record.isCallOf .startup payload
  · obtain ⟨id, hreceived⟩ := receiveFrame_of_startup hattached hstartup
    rw [hreceived] at hstands ⊢
    rw [any_startContinue_receiveStartup s id hstands, Bool.or_eq_true, hflag, h.1]
    exact ⟨fun hor => ⟨hor.elim (fun hrun => hrun) And.left, .inl hstartup⟩, fun h => .inl h.1⟩
  · by_cases hstop : Record.isCallOf .interaction payload
    · obtain ⟨id, name, args, kwargs, hdecode, hname⟩ := Record.decode_of_isCallOf hstop
      have hdown : ¬ (s.receiveFrame payload).connection.any Connection.startContinue := by
        rw [receiveFrame_of_stop hattached hdecode hname]
        intro hup
        have hbefore := (spares_respond isFlag_startContinue _ id _).any hup
        rw [any_startContinue_receiveInteraction] at hbefore
        cases hbefore
      refine iff_of_false hdown ?_
      rintro ⟨-, hup | ⟨-, hnot⟩⟩
      · exact hstartup hup
      · exact hnot hstop
    · have hspares :=
        spares_receiveFrame isFlag_startContinue hattached (Bool.eq_false_iff.mpr hstartup)
        (Bool.eq_false_iff.mpr hstop)
      have hsame := (h.spares hconfig hspares).2 hstands
      exact hsame.trans (and_congr_right' ⟨fun hstarting => .inr ⟨hstarting, hstop⟩,
        fun hor => hor.elim (absurd · hstartup) And.left⟩)

lemma tracks_awaits (config : SessionConfig) : Tracks fun js s => s.Awaits config js where
  ask m args h := h.quiet (quiet_ask _ m args) (spares_ask isFlag_startContinue _ m args)
  notify m h := h.quiet (quiet_send _ _) (spares_send isFlag_startContinue _ _)
  detach h := h.quiet (quiet_detach _) (spares_detach _)
  breakpoints _ h := h
  modify hf h := by
    refine h.spares rfl (spares_modifyConnection fun c => ?_)
    obtain ⟨_, _, _, _, hc⟩ := hf c
    rw [hc]
  input text h :=
    h.spares (passes_provideInput _ text).undergoes.config
      (spares_provideInput isFlag_startContinue _ text)
  connected remote _ h := by
    refine ⟨h.1, fun _ => ?_⟩
    simp only [not_isStarting_attached, and_false, iff_false]
    exact Bool.false_ne_true
  endWait {js s id m} _ _ h := by
    have hover := h.quiet (quiet_endWait s id m) (spares_endWait isFlag_startContinue s id m)
    rw [Awaits, isStarting_forsaken]
    exact hover
  frame payload hattached _ h := h.receiveFrame hattached payload

/-! ### Requests to run on -/

/-- A record is written if the agent has room for it. -/
lemma letters_send (hattached : s.isAttached) (r : Record) :
    (s.send r).1.letters = s.letters ++ if s.takes [r] then [⟨r, s.state⟩] else [] := by
  rw [← (writes_send s r).isAttached hattached]
  rcases send_eq s r with ⟨-, room, heq⟩ | ⟨e, heq⟩
  · have hstands : (s.send r).1.isAttached := by
      rw [heq]
      exact (isAttached_modifyConnection _ _).trans hattached
    rw [if_pos hstands, heq]
    rfl
  · rw [heq, isAttached_detach, if_neg Bool.false_ne_true, List.append_nil, letters_detach]

/-- A request that nothing waits for is written if there is room for it. -/
lemma letters_tell (hattached : s.isAttached) (m : Method) (args : List Json) :
    (s.tell m args).letters
      = s.letters ++ if s.takes [.ask s.nextId m args]
        then [⟨.ask s.nextId m args, s.state⟩] else [] := by
  have hregistered : (s.register m false).isAttached := by
    rw [register, isAttached_modifyConnection]
    exact hattached
  have hroom : (s.register m false).room? = s.room? := by
    rw [register, room?_modifyConnection]
    · rfl
    · exact fun _ => rfl
  have hsent := letters_send hregistered (.ask s.nextId m args)
  rw [takes_of_room? hroom, state_register] at hsent
  exact hsent

/-- The agent is answered at most, and nothing is asked of it. -/
lemma wrote_respond (s : Session) (id : Option RequestId) (outcome : Except RemoteError Json) :
    Wrote (fun l => l.record.isCall = false) s (s.respond id outcome) := by
  cases id with
  | none => exact Wrote.refl s
  | some id => exact wrote_send rfl

/-- A stop that is to be run over is noted, and the program is asked to run on. -/
lemma receiveInteraction_of_startContinue (hattached : s.isAttached)
    (hup : s.connection.any Connection.startContinue) (args : List Json) (kwargs : Members) :
    ∃ t : Session, s.receiveInteraction args kwargs = t.tell .resume [] ∧
      t.state = .interacting ∧
      t.nextId = s.nextId ∧ t.letters = s.letters ∧ t.room? = s.room? ∧
        t.books.table = s.books.table := by
  obtain ⟨c, hc⟩ := Option.isSome_iff_exists.mp hattached
  rw [hc, Option.any_some] at hup
  rw [receiveInteraction, room?, books, hc]
  dsimp only
  rw [if_pos hup]
  exact ⟨_, rfl, rfl, rfl, rfl, rfl, rfl⟩

/-- From one session to the other, the program was not asked to run on. -/
def WroteNoResume (s s' : Session) : Prop :=
  Wrote (fun l => l.record.asksFor .resume = false) s s'

lemma wroteNoResume_respond (s : Session) (id : Option RequestId)
    (outcome : Except RemoteError Json) :
    WroteNoResume s (s.respond id outcome) :=
  (wrote_respond s id outcome).mono fun _ => Record.asksFor_of_not_isCall

/-- A startup does not make a session ask the program to run on. -/
lemma wroteNoResume_receiveStartup (s : Session) (id : Option RequestId) :
    WroteNoResume s (s.receiveStartup id) := by
  have hloaded : WroteNoResume s s.loaded := by
    refine loaded_of_tell (R := WroteNoResume) Wrote.refl Wrote.trans
      (fun s m args hm => wrote_tell ?_) s
    refine Record.asksFor_ask ?_ s.nextId args
    rintro rfl
    cases hm
  have hreleased : WroteNoResume (s.loaded.respond id (.ok .null))
      (s.loaded.respond id (.ok .null)).released := by
    refine Wrote.trans ?_ (wrote_send (Record.asksFor_ask (by decide) 0 []))
    split_ifs <;> exact Wrote.of_eq rfl
  exact (hloaded.trans (wroteNoResume_respond _ id _)).trans hreleased

/-- A stop that is not run over does not either. -/
lemma wroteNoResume_receiveInteraction (hnot : ¬ s.connection.any Connection.startContinue)
    (args : List Json) (kwargs : Members) :
    WroteNoResume s (s.receiveInteraction args kwargs) := by
  rw [receiveInteraction]
  cases hc : s.connection with
  | none => exact Wrote.refl s
  | some c =>
    rw [hc, Option.any_some] at hnot
    dsimp only
    rw [if_neg hnot]
    split_ifs <;> exact Wrote.of_eq rfl

lemma wroteNoResume_receiveMalformed (s : Session) (e : DecodeError) :
    WroteNoResume s (s.receiveMalformed e) := by
  simp only [receiveMalformed]
  split
  · exact Wrote.refl s
  · exact wrote_send rfl
  · split
    · exact Wrote.refl s
    · split
      · exact Wrote.refl s
      · split_ifs <;> exact Wrote.of_eq rfl

/-- Only a stop that is to be run over makes a session ask the program to run on. -/
lemma wroteNoResume_receiveFrame (hattached : s.isAttached) {payload : Bytes}
    (hnot : ¬ (s.connection.any Connection.startContinue ∧
      Record.isCallOf .interaction payload)) :
    WroteNoResume s (s.receiveFrame payload) := by
  have hcall : ∀ id name args kwargs,
      (Method.ofName? name = some .interaction → ¬ s.connection.any Connection.startContinue) →
      WroteNoResume s (s.receiveCall id name args kwargs) := by
    intro id name args kwargs hstop
    simp only [receiveCall]
    cases hm : Method.ofName? name with
    | none => exact wroteNoResume_respond s id _
    | some m =>
      cases m with
      | startup => exact wroteNoResume_receiveStartup s id
      | interaction =>
        exact (wroteNoResume_receiveInteraction (hstop hm) args kwargs).trans
          (wroteNoResume_respond _ id _)
      | readLine => cases id <;> exact Wrote.of_eq rfl
      | write => exact Wrote.trans (Wrote.of_eq rfl) (wroteNoResume_respond _ id _)
      | exception => exact Wrote.trans (Wrote.of_eq rfl) (wroteNoResume_respond _ id _)
      | _ => exact wroteNoResume_respond s id _
  rw [Record.isCallOf] at hnot
  obtain ⟨c, hc⟩ := Option.isSome_iff_exists.mp hattached
  rw [receiveFrame, hc]
  dsimp only
  cases hdecode : Record.decode payload with
  | error e => exact wroteNoResume_receiveMalformed s e
  | ok r =>
    rw [hdecode] at hnot
    cases r with
    | response id outcome => exact Wrote.of_eq (letters_receiveResponse s id outcome)
    | notification name args kwargs =>
      exact hcall none name args kwargs fun hm hup => hnot ⟨hup, beq_iff_eq.mpr hm⟩
    | request id name args kwargs =>
      exact hcall (some id) name args kwargs fun hm hup => hnot ⟨hup, beq_iff_eq.mpr hm⟩

/-- What user interfaces are told on account of a stop. -/
lemma events_receiveFrame_of_stop (hattached : s.isAttached) {payload : Bytes}
    {id : Option RequestId} {name : String} {args : List Json} {kwargs : Members}
    {location : Option Location} {mark : Option Event}
    (hdecode : Record.decode payload = .ok (.call id name args kwargs))
    (hname : Method.ofName? name = some .interaction)
    (hmove : s.moveOfStop args kwargs = .stop location mark) :
    (s.receiveFrame payload).events.queued
      = s.events.queued ++ mark.toList ++ if (s.receiveFrame payload).isAttached then []
        else [.clearInteraction] := by
  have hstops : s.move payload = .stop location mark := by
    rw [move, hdecode]
    cases id <;> simpa only [Record.call, moveOfCall, hname] using hmove
  have hnews : Record.news? payload = none := by
    rw [Record.news?, hdecode]
    cases id <;> simp only [Record.call, Record.newsOfCall, hname]
  have hoccurrences : (s.occurrences payload).flatMap Occurrence.events = mark.toList := by
    rw [occurrences, hstops, hnews]
    exact List.append_nil _
  rw [(passes_receiveFrame hattached payload).undergoes.events,
    List.flatMap_append, hoccurrences, List.append_assoc, closing, hattached, Bool.true_and]
  cases (s.receiveFrame payload).isAttached <;> rfl

lemma any_or (c? : Option Connection) (flag flag' : Connection → Bool) :
    (c?.any fun c => flag c || flag' c) = (c?.any flag || c?.any flag') := by
  cases c? <;> rfl

/-- A stop that is to be run over or suppressed is not shown. -/
lemma moveOfStop_of_hidden
    (h : s.connection.any Connection.startContinue ∨ s.connection.any Connection.suppressNext)
    (args : List Json) (kwargs : Members) :
    ∃ location, s.moveOfStop args kwargs = .stop location none := by
  have hhidden : (s.connection.any fun c => c.startContinue || c.suppressNext) := by
    rw [any_or, Bool.or_eq_true]
    exact h
  rw [moveOfStop, hhidden, if_pos rfl]
  split_ifs <;> exact ⟨_, rfl⟩

/-- Any other stop in a file is shown. -/
lemma moveOfStop_of_shown (hstart : ¬ s.connection.any Connection.startContinue)
    (hsuppress : ¬ s.connection.any Connection.suppressNext) {args : List Json}
    (kwargs : Members) (hfile : FileName.isPseudo (argText args 0) = false) :
    s.moveOfStop args kwargs
      = .stop (some { file := argText args 0, line := argLine args 1, source := argText args 2 })
        (some (.markLine (argText args 0) (argLine args 1) (contextOf args kwargs))) := by
  have hshown : (s.connection.any fun c => c.startContinue || c.suppressNext) = false := by
    rw [any_or, Bool.or_eq_false_iff]
    exact ⟨Bool.eq_false_iff.mpr hstart, Bool.eq_false_iff.mpr hsuppress⟩
  rw [moveOfStop, hfile, hshown]
  rfl

/-- The program is asked once to run on from a stop that is to be run over, nobody waits for the
answer, and the stop is not shown. -/
lemma receiveFrame_of_startContinue (hattached : s.isAttached)
    (hup : s.connection.any Connection.startContinue) {payload : Bytes}
    (hstop : Record.isCallOf .interaction payload) :
    (∃ answers, (s.receiveFrame payload).letters = s.letters
        ++ (if s.takes [.ask s.nextId .resume []]
          then [⟨.ask s.nextId .resume [], .interacting⟩] else [])
        ++ answers ∧ ∀ l ∈ answers, l.record.isCall = false) ∧
      ((s.receiveFrame payload).isAttached →
        (s.receiveFrame payload).pending
          = s.pending ++ [(s.nextId, { method := .resume, awaited := false })]) ∧
      (s.receiveFrame payload).events.queued
        = s.events.queued ++ if (s.receiveFrame payload).isAttached then []
          else [.clearInteraction] := by
  obtain ⟨id, name, args, kwargs, hdecode, hname⟩ := Record.decode_of_isCallOf hstop
  obtain ⟨t, htold, hstate, hnext, hletters, hroom, htable⟩ :=
    receiveInteraction_of_startContinue hattached hup args kwargs
  have hreceived : s.receiveFrame payload = (t.tell .resume []).respond id (.ok .null) := by
    rw [receiveFrame_of_stop hattached hdecode hname, htold]
  refine ⟨?_, fun hstands => ?_, ?_⟩
  · obtain ⟨answers, hanswers, hcalls⟩ := wrote_respond (t.tell .resume []) id (.ok .null)
    have hnoted : t.isAttached := by
      rw [isAttached_eq_room?, hroom, ← isAttached_eq_room?]
      exact hattached
    refine ⟨answers, ?_, hcalls⟩
    rw [hreceived, hanswers, letters_tell hnoted, takes_of_room? hroom, hnext, hletters, hstate]
  · have henters : Enters [(s.nextId, { method := .resume, awaited := false })] s
        (t.tell .resume []) := by
      rw [← hnext]
      exact (Enters.of_eq htable).trans (enters_tell t .resume [])
    have hanswered : Enters [] (t.tell .resume []) (s.receiveFrame payload) := by
      rw [hreceived]
      cases id with
      | none => exact Enters.of_eq rfl
      | some id => exact enters_send _ _
    exact (henters.trans hanswered).pending hstands
  · obtain ⟨location, hmove⟩ := moveOfStop_of_hidden (.inl hup) args kwargs
    rw [events_receiveFrame_of_stop hattached hdecode hname hmove, Option.toList_none,
      List.append_nil]

end Session

namespace Engine

open Session

/-- What is known of the stop to be run over is known to the session that meets a payload. -/
lemma awaits_of_meetings_eq {config : SessionConfig} {run : List (Network × Input)}
    {input : Input} {before after : List (Session × Bytes)} {s : Session} {payload : Bytes}
    (hmet : (Engine.run { session := { config } } run).1.meetings input
      = before ++ (s, payload) :: after) :
    s.Awaits config (Engine.journal { session := { config } } run ++ incidentsIn before) := by
  have hsound : (Engine.run { session := { config } } run).1.Sound := (sound_new config).run run
  have hfresh : Session.Awaits config [] { config } := ⟨rfl, nofun⟩
  exact tracks_meeting (tracks_awaits config) hsound hmet
    (tracks_run (tracks_awaits config) (sound_new config) run hfresh)

/-- A session that is to run without pausing runs over the first stop after a startup: it asks
the program once to run on, without a command that waits for the answer, and does not show the
stop. On account of any other payload it does not ask for that. Several startups make no
difference, and nor do those of earlier connections. -/
theorem first_stop_run_over (config : SessionConfig) (run : List (Network × Input))
    (input : Input) (before after : List (Session × Bytes)) (s : Session) (payload : Bytes)
    (hmet : (Engine.run { session := { config } } run).1.meetings input
      = before ++ (s, payload) :: after) :
    let js := Engine.journal { session := { config } } run ++ incidentsIn before
    let s' := s.receiveFrame payload
    let isFirst :=
      config.runWithoutPausing ∧ IsStarting js ∧ Record.isCallOf .interaction payload
    (isFirst →
      (∃ answers, s'.letters = s.letters
          ++ (if s.takes [.ask s.nextId .resume []]
            then [⟨.ask s.nextId .resume [], .interacting⟩] else [])
          ++ answers ∧ ∀ l ∈ answers, l.record.isCall = false) ∧
        (s'.isAttached →
          s'.pending = s.pending ++ [(s.nextId, { method := .resume, awaited := false })]) ∧
        s'.events.queued = s.events.queued ++ if s'.isAttached then []
          else [.clearInteraction]) ∧
      (¬ isFirst → ∃ ls, s'.letters = s.letters ++ ls ∧ ∀ l ∈ ls,
        l.record.asksFor .resume = false) ∧
      (Record.isCallOf .interaction payload → ¬ IsStarting (js ++ s.incidents payload)) := by
  intro js s' isFirst
  have hattached : s.isAttached :=
    isAttached_of_mem_meetings (hmet ▸ List.mem_append_right before List.mem_cons_self)
  have hflag := (awaits_of_meetings_eq hmet).2 hattached
  refine ⟨fun ⟨hrun, hstarting, hstop⟩ => ?_, fun hnot => ?_, fun hstop => ?_⟩
  · -- the first stop after a startup
    exact receiveFrame_of_startContinue hattached (hflag.mpr ⟨hrun, hstarting⟩) hstop
  · -- any other payload
    refine wroteNoResume_receiveFrame hattached fun ⟨hup, hstop⟩ => hnot ?_
    obtain ⟨hrun, hstarting⟩ := hflag.mp hup
    exact ⟨hrun, hstarting, hstop⟩
  · -- no startup stands open after a stop, as no payload is both
    rw [isStarting_incidents]
    rintro (hstartup | ⟨-, hnot⟩)
    · obtain ⟨id, name, args, kwargs, hdecode, hname⟩ := Record.decode_of_isCallOf hstop
      rw [Record.isCallOf, hdecode] at hstartup
      have hboth : (Method.ofName? name == some .startup) = true := by
        rwa [← Record.asksFor_call]
      rw [hname] at hboth
      cases hboth
    · exact hnot hstop

/-- A program is started twice before it stops. -/
def restarting : List (Network × Input) :=
  [(fun _ _ => .ok (), .start (.attach {})),
    (Network.nowhere, .bytes (Frame.encode announcement ++ Frame.encode announcement))]

def stopNews (line : Nat) : Bytes :=
  (Record.notification "interaction" [.string "a.py", Json.nat line, .string "x"] []).encode

/-- The program is asked to run on from the first of two stops, which is not shown, and not from
the second one. -/
theorem first_stop_run_over_restarting :
    let e := (Engine.run { session := { config := { runWithoutPausing := true } } } restarting).1
    let s := e.session.between
    let s' := s.receiveFrame (stopNews 1)
    s'.pending = s.pending ++ [(s.nextId, { method := .resume, awaited := false })] ∧
      s'.events.queued = s.events.queued ∧
      ∃ ls, (s'.receiveFrame (stopNews 2)).letters = s'.letters ++ ls ∧
        ∀ l ∈ ls, l.record.asksFor .resume = false := by
  intro e s s'
  have hinbox : e.inbox? = some [] := by decide +kernel
  have hmet : e.meetings (.bytes ([stopNews 1, stopNews 2].flatMap Frame.encode))
      = [(s, stopNews 1), (s', stopNews 2)] := by
    rw [meetings_frames hinbox (by decide +kernel), meetings_cons (by decide +kernel),
      meetings_cons (by decide +kernel)]
    rfl
  have hjournal : Engine.journal
      { session := { config := { runWithoutPausing := true } } } restarting
        = [.attached, .handled announcement, .handled announcement] := by
    decide +kernel
  have hstarting : IsStarting [.attached, .handled announcement, .handled announcement] := by
    refine ⟨[.handled announcement], announcement, [], ?_, ?_, fun _ hq => nomatch hq⟩
    · decide +kernel
    · decide +kernel
  have hstop : Record.isCallOf .interaction (stopNews 1) := by decide +kernel
  have hfirst :=
    first_stop_run_over { runWithoutPausing := true } restarting _ [] _ s (stopNews 1) hmet
  have hsecond :=
    first_stop_run_over { runWithoutPausing := true } restarting _ [(s, stopNews 1)] [] s'
      (stopNews 2) hmet
  rw [hjournal] at hfirst hsecond
  obtain ⟨hrunOver, -, hover⟩ := hfirst
  obtain ⟨-, hother, -⟩ := hsecond
  have hattached : s'.isAttached := by decide +kernel
  obtain ⟨-, hpending, hevents⟩ := hrunOver ⟨rfl, hstarting, hstop⟩
  rw [if_pos hattached, List.append_nil] at hevents
  refine ⟨hpending hattached, hevents, hother fun ⟨_, hagain, _⟩ => ?_⟩
  rw [incidentsIn, List.flatMap_nil, List.append_nil] at hover
  rw [incidentsIn, List.flatMap_singleton] at hagain
  exact hover hstop hagain

end Engine

end RemoteDebugger
