import RemoteDebugger.Proofs.Session.Startup

/-!
# Flags of a connection

What a session is to do at the next stop stands in flags of its connection. Sending, answers,
malformed payloads and most calls leave such a flag alone, as long as the connection stands;
startups and stops do not.
-/

namespace RemoteDebugger

/-- A flag of connections that has nothing to do with how the program stands, with requests, or
with bytes. -/
def IsFlag (flag : Connection → Bool) : Prop :=
  ∀ c interaction quitting inputRequest pending abandoned room inbox,
    flag { c with interaction, quitting, inputRequest, pending, abandoned, room, inbox } = flag c

lemma isFlag_startContinue : IsFlag Connection.startContinue := fun _ _ _ _ _ _ _ _ => rfl

lemma isFlag_suppressNext : IsFlag Connection.suppressNext := fun _ _ _ _ _ _ _ _ => rfl

namespace Record

/-- Whether a record asks for a method. -/
def asksFor (m : Method) : Record → Bool
  | .request _ name _ _ | .notification name _ _ => Method.ofName? name == some m
  | .response _ _                                => false

/-- Whether a payload is a call of a method. -/
def isCallOf (m : Method) (payload : Bytes) : Bool :=
  match decode payload with
  | .ok r    => r.asksFor m
  | .error _ => false

lemma asksFor_call (m : Method) (id : Option RequestId) (name : String) (args : List Json)
    (kwargs : Members) :
    (call id name args kwargs).asksFor m = (Method.ofName? name == some m) := by
  cases id <;> rfl

lemma asksFor_ask {m m' : Method} (h : m' ≠ m) (id : RequestId) (args : List Json) :
    (ask id m' args).asksFor m = false := by
  show (Method.ofName? m'.name == some m) = false
  rw [Method.ofName?_name]
  exact beq_eq_false_iff_ne.mpr fun hm => h (Option.some.inj hm)

lemma asksFor_of_not_isCall {m : Method} {r : Record} (h : r.isCall = false) :
    r.asksFor m = false := by
  cases r with
  | response id outcome => rfl
  | _ => cases h

/-- A call of a method, with or without a number. -/
lemma decode_of_isCallOf {m : Method} {payload : Bytes} (h : isCallOf m payload) :
    ∃ id name args kwargs, decode payload = .ok (.call id name args kwargs) ∧
      Method.ofName? name = some m := by
  rw [isCallOf] at h
  split at h
  · next r hdecode =>
    cases r with
    | request id name args kwargs => exact ⟨some id, name, args, kwargs, hdecode, eq_of_beq h⟩
    | notification name args kwargs => exact ⟨none, name, args, kwargs, hdecode, eq_of_beq h⟩
    | response id outcome => cases h
  · cases h

end Record

namespace Session

variable {flag : Connection → Bool} {s s' s'' : Session}

/-- From one session to the other, a flag was left alone, or the connection ended. -/
def Spares (flag : Connection → Bool) (s s' : Session) : Prop :=
  s'.connection.map flag = s.connection.map flag ∨ s'.connection = none

lemma Spares.refl (s : Session) : Spares flag s s := .inl rfl

lemma Spares.trans (h : Spares flag s s') (h' : Spares flag s' s'') : Spares flag s s'' := by
  rcases h' with h' | h'
  · rcases h with h | h
    · exact .inl (h'.trans h)
    · rw [h] at h'
      exact .inr (Option.map_eq_none_iff.mp h')
  · exact .inr h'

lemma any_of_map_eq {c? c'? : Option Connection} (h : c'?.map flag = c?.map flag) :
    c'?.any flag = c?.any flag := by
  cases c? <;> cases c'? <;> simp_all

/-- A flag is up only if it was before. -/
lemma Spares.any (h : Spares flag s s') (hup : s'.connection.any flag) :
    s.connection.any flag := by
  rcases h with h | h
  · rw [any_of_map_eq h] at hup
    exact hup
  · rw [h] at hup
    cases hup

/-- As long as the connection stands, the flag stays up. -/
lemma Spares.stays (h : Spares flag s s') (hup : s.connection.any flag)
    (hattached : s'.isAttached) :
    s'.connection.any flag := by
  rcases h with h | h
  · rw [any_of_map_eq h]
    exact hup
  · rw [isAttached, h] at hattached
    cases hattached

/-- No connection begins. -/
lemma Spares.isAttached (h : Spares flag s s') (hattached : s'.isAttached) : s.isAttached := by
  rcases h with h | h
  · rw [Session.isAttached, ← Option.isSome_map, ← h, Option.isSome_map]
    exact hattached
  · rw [Session.isAttached, h] at hattached
    cases hattached

/-- If the flag is up as long as the connection stands, it stays so. -/
lemma Spares.lasts (h : Spares flag s s') (hup : s.isAttached → s.connection.any flag)
    (hattached : s'.isAttached) :
    s'.connection.any flag := h.stays (hup (h.isAttached hattached)) hattached

lemma Spares.of_eq (h : s'.connection = s.connection) : Spares flag s s' := .inl (by rw [h])

lemma spares_modifyConnection {f : Connection → Connection} (h : ∀ c, flag (f c) = flag c) :
    Spares flag s (s.modifyConnection f) := by
  left
  rw [modifyConnection, Option.map_map]
  congr 1
  exact funext h

lemma spares_detach (s : Session) : Spares flag s s.detach := .inr (connection_detach s)

/-! ### What leaves a flag alone -/

lemma spares_send (hflag : IsFlag flag) (s : Session) (r : Record) :
    Spares flag s (s.send r).1 := by
  rcases send_eq s r with ⟨-, room, heq⟩ | ⟨e, heq⟩
  · rw [heq]
    exact spares_modifyConnection fun c => hflag c _ _ _ _ _ room _
  · rw [heq]
    exact spares_detach s

lemma spares_register (hflag : IsFlag flag) (s : Session) (m : Method) (awaited : Bool) :
    Spares flag s (s.register m awaited) :=
  spares_modifyConnection fun c => hflag c _ _ _ _ _ _ _

lemma spares_tell (hflag : IsFlag flag) (s : Session) (m : Method) (args : List Json) :
    Spares flag s (s.tell m args) :=
  (spares_register hflag s m false).trans (spares_send hflag _ _)

lemma spares_ask (hflag : IsFlag flag) (s : Session) (m : Method) (args : List Json) :
    Spares flag s (s.ask m args).1 := by
  have hsent : Spares flag s
      (({ s with reply := none }.register m true).send (.ask s.nextId m args)).1 :=
    (spares_register hflag { s with reply := none } m true).trans (spares_send hflag _ _)
  rw [ask]
  split
  · next hs' =>
    rw [hs'] at hsent
    exact hsent
  · next hs' =>
    rw [hs'] at hsent
    exact hsent

lemma spares_respond (hflag : IsFlag flag) (s : Session) (id : Option RequestId)
    (outcome : Except RemoteError Json) : Spares flag s (s.respond id outcome) := by
  cases id with
  | none => exact Spares.refl s
  | some id => exact spares_send hflag s _

lemma spares_settle (hflag : IsFlag flag) (s : Session) (m : Method)
    (outcome : Except RemoteError Json) :
    Spares flag s (s.settle m outcome).1 := by
  rw [settle]
  split
  · dsimp only
    split_ifs
    · exact spares_modifyConnection fun c => hflag c _ _ _ _ _ _ _
    · exact Spares.refl s
  · exact Spares.refl s

lemma spares_deliver (s : Session) (awaited : Bool) (a : Answer) :
    Spares flag s (if awaited then s.deliver a else s) := by
  cases awaited <;> exact Spares.of_eq rfl

/-- An answer leaves the flags alone. -/
lemma spares_receiveResponse (hflag : IsFlag flag) (s : Session) (id : RequestId)
    (outcome : Except RemoteError Json) : Spares flag s (s.receiveResponse id outcome) := by
  rw [receiveResponse]
  split
  · exact Spares.refl s
  · split
    · have hstruck : Spares flag s (s.modifyConnection fun c =>
          { c with pending := without id c.pending }) :=
        spares_modifyConnection fun c => hflag c _ _ _ _ _ _ _
      exact (hstruck.trans (spares_settle hflag _ _ outcome)).trans (spares_deliver _ _ _)
    · have hstruck : Spares flag s (s.modifyConnection fun c =>
          { c with abandoned := without id c.abandoned }) :=
        spares_modifyConnection fun c => hflag c _ _ _ _ _ _ _
      exact hstruck.trans (spares_settle hflag _ _ outcome)
    · exact Spares.refl s

lemma spares_giveUp (hflag : IsFlag flag) (s : Session) (id : RequestId) (m : Method) :
    Spares flag s ((s.modifyConnection fun c =>
      { c with pending := without id c.pending }).abandon id m) := by
  have hstruck : Spares flag s (s.modifyConnection fun c =>
      { c with pending := without id c.pending }) :=
    spares_modifyConnection fun c => hflag c _ _ _ _ _ _ _
  exact hstruck.trans (spares_modifyConnection fun c => hflag c _ _ _ _ _ _ _)

/-- A broken record leaves the flags alone. -/
lemma spares_receiveMalformed (hflag : IsFlag flag) (s : Session) (e : DecodeError) :
    Spares flag s (s.receiveMalformed e) := by
  simp only [receiveMalformed]
  split
  · exact Spares.refl s
  · exact spares_send hflag s _
  · split
    · exact Spares.refl s
    · split
      · exact Spares.refl s
      · exact (spares_giveUp hflag s _ _).trans (spares_deliver _ _ _)

lemma spares_loaded (hflag : IsFlag flag) (s : Session) : Spares flag s s.loaded :=
  loaded_of_tell Spares.refl Spares.trans (fun s m args _ => spares_tell hflag s m args) s

/-- The end of a wait leaves the flags alone. -/
lemma spares_endWait (hflag : IsFlag flag) (s : Session) (id : RequestId) (m : Method) :
    Spares flag s (s.endWait id m).1 := by
  rw [endWait, takeReply]
  cases s.reply with
  | some answer => exact Spares.of_eq rfl
  | none =>
    dsimp only
    rw [giveUp]
    dsimp only
    split
    · exact Spares.of_eq rfl
    · exact spares_giveUp hflag { s with reply := none } id m

/-- A line of input leaves the flags alone. -/
lemma spares_provideInput (hflag : IsFlag flag) (s : Session) (text : String) :
    Spares flag s (s.provideInput text).1 := by
  rw [provideInput]
  cases hc : s.connection with
  | none => exact Spares.refl s
  | some c =>
    dsimp only
    cases c.inputRequest with
    | none => exact Spares.refl s
    | some request =>
      have hgiven : Spares flag s
          { s with
            connection := some { c with inputRequest := none, interaction := request.2 } } := by
        left
        rw [hc, Option.map_some, Option.map_some]
        exact congrArg some (hflag c _ _ _ _ _ _ _)
      exact hgiven.trans (spares_send hflag _ _)

lemma spares_askFor (hflag : IsFlag flag) {m : Method} {args : List Json} {goal : Goal}
    {otherwise : Session → SessionError → Session × Progress}
    (hotherwise : ∀ s' e, Spares flag s' (otherwise s' e).1) :
    Spares flag s (s.askFor m args goal otherwise).1 := by
  have hask := spares_ask hflag s m args
  rw [askFor]
  split
  · next s' id hs' =>
    rw [hs'] at hask
    exact hask
  · next s' e hs' =>
    rw [hs'] at hask
    exact hask.trans (hotherwise s' e)

lemma spares_command (hflag : IsFlag flag) (s : Session) (m : Method) (args : List Json)
    (goal : Goal) :
    Spares flag s (s.command m args goal).1 := by
  rw [command]
  split
  · exact Spares.refl s
  · exact spares_askFor hflag fun s' _ => Spares.refl s'

lemma spares_conclude (hflag : IsFlag flag) (s : Session) (operation : Forced)
    (answer : Answer) :
    Spares flag s (s.conclude operation answer).1 := by
  have hdrop : ∀ epoch, Spares flag s (s.drop epoch) := by
    intro epoch
    rw [drop]
    split_ifs
    · exact spares_detach s
    · exact Spares.refl s
  simp only [conclude]
  split
  · exact hdrop _
  · exact hdrop _
  · exact spares_modifyConnection fun c => hflag c _ _ _ _ _ _ _
  · exact Spares.refl s

lemma spares_afterForced (hflag : IsFlag flag) (s : Session) (operation : Forced)
    (interrupted : Bool) (answer : Answer) :
    Spares flag s (s.afterForced operation interrupted answer).1 := by
  rw [afterForced]
  split_ifs
  · exact spares_askFor hflag fun s' _ => spares_conclude hflag s' operation answer
  · exact spares_conclude hflag s operation answer

lemma spares_carryOut (hflag : IsFlag flag) (s : Session) (operation : Forced)
    (interrupted : Bool) :
    Spares flag s (s.carryOut operation interrupted).1 :=
  spares_askFor hflag fun s' _ => spares_afterForced hflag s' operation interrupted _

/-- What follows an answer leaves the flags alone. -/
lemma spares_proceed (hflag : IsFlag flag) (s : Session) (answer : Answer) (goal : Goal) :
    Spares flag s (s.proceed answer goal).1 := by
  cases goal with
  | value => exact Spares.refl s
  | unit => exact Spares.refl s
  | thenResume =>
    cases answer with
    | error e => exact Spares.refl s
    | ok v => exact spares_askFor hflag fun s' _ => Spares.refl s'
  | forced operation interrupted => exact spares_afterForced hflag s operation interrupted answer
  | resumed operation own => exact spares_conclude hflag s operation own

lemma spares_interrupt (hflag : IsFlag flag) (s : Session) : Spares flag s s.interrupt.1 := by
  rw [interrupt]
  split
  · exact Spares.refl s
  · exact Spares.refl s
  · exact Spares.refl s
  · exact spares_send hflag s (.notify .interrupt)

/-- Only startups and stops change a flag. -/
lemma spares_receiveFrame (hflag : IsFlag flag) (hattached : s.isAttached) {payload : Bytes}
    (hstartup : Record.isCallOf .startup payload = false)
    (hstop : Record.isCallOf .interaction payload = false) :
    Spares flag s (s.receiveFrame payload) := by
  -- the calls that are neither
  have hcall : ∀ id name args kwargs, Method.ofName? name ≠ some .startup →
      Method.ofName? name ≠ some .interaction →
        Spares flag s (s.receiveCall id name args kwargs) := by
    intro id name args kwargs hstartup hstop
    simp only [receiveCall]
    cases hm : Method.ofName? name with
    | none => exact spares_respond hflag s id _
    | some m =>
      cases m with
      | startup => exact absurd hm hstartup
      | interaction => exact absurd hm hstop
      | readLine =>
        cases id with
        | none => exact Spares.refl s
        | some id => exact spares_modifyConnection fun c => hflag c _ _ _ _ _ _ _
      | write => exact Spares.trans (Spares.of_eq rfl) (spares_respond hflag _ id _)
      | exception => exact Spares.trans (Spares.of_eq rfl) (spares_respond hflag _ id _)
      | _ => exact spares_respond hflag s id _
  rw [Record.isCallOf] at hstartup hstop
  obtain ⟨c, hc⟩ := Option.isSome_iff_exists.mp hattached
  rw [receiveFrame, hc]
  dsimp only
  cases hdecode : Record.decode payload with
  | error e => exact spares_receiveMalformed hflag s e
  | ok r =>
    rw [hdecode] at hstartup hstop
    cases r with
    | response id outcome => exact spares_receiveResponse hflag s id outcome
    | notification name args kwargs =>
      exact hcall none name args kwargs (beq_eq_false_iff_ne.mp hstartup)
        (beq_eq_false_iff_ne.mp hstop)
    | request id name args kwargs =>
      exact hcall (some id) name args kwargs (beq_eq_false_iff_ne.mp hstartup)
        (beq_eq_false_iff_ne.mp hstop)

/-- A payload that is a call is handled as one. -/
lemma receiveFrame_of_call (hattached : s.isAttached) {payload : Bytes} {id : Option RequestId}
    {name : String} {args : List Json} {kwargs : Members}
    (hdecode : Record.decode payload = .ok (.call id name args kwargs)) :
    s.receiveFrame payload = s.receiveCall id name args kwargs := by
  obtain ⟨c, hc⟩ := Option.isSome_iff_exists.mp hattached
  rw [receiveFrame, hc]
  dsimp only
  rw [hdecode]
  cases id <;> rfl

/-- A startup is handled as such. -/
lemma receiveFrame_of_startup (hattached : s.isAttached) {payload : Bytes}
    (hstartup : Record.isCallOf .startup payload) :
    ∃ id, s.receiveFrame payload = s.receiveStartup id := by
  obtain ⟨id, name, args, kwargs, hdecode, hname⟩ := Record.decode_of_isCallOf hstartup
  refine ⟨id, ?_⟩
  rw [receiveFrame_of_call hattached hdecode]
  simp only [receiveCall, hname]

/-- A stop is handled as such, and answered. -/
lemma receiveFrame_of_stop (hattached : s.isAttached) {payload : Bytes} {id : Option RequestId}
    {name : String} {args : List Json} {kwargs : Members}
    (hdecode : Record.decode payload = .ok (.call id name args kwargs))
    (hname : Method.ofName? name = some .interaction) :
    s.receiveFrame payload = (s.receiveInteraction args kwargs).respond id (.ok .null) := by
  rw [receiveFrame_of_call hattached hdecode]
  simp only [receiveCall, hname]

end Session

end RemoteDebugger
