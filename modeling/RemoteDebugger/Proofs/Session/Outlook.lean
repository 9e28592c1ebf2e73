import RemoteDebugger.Proofs.Session.Heard

/-!
# What is known of the program

The outlook of a session is what it knows of the program and what it told user interfaces of
that. Only a few things that happen change it: the move that a payload makes, a line of input,
and the end or the beginning of a connection.
-/

namespace RemoteDebugger

/-! ### Outlooks -/

/-- How the program stands on a connection. -/
structure Posture where
  epoch : Nat
  interaction : Interaction
  quitting : Bool
  inputRequest : Option (RequestId × Interaction)

/-- How the program stands, where it stopped last, and the last event that told of that. -/
structure Outlook where
  posture : Option Posture
  location : Option Location
  told : Option Event

/-- Whether an event tells that the program stands at a line, or that it does not. -/
def Event.isPlace : Event → Bool
  | .markLine _ _ _ | .clearInteraction => true
  | _                                   => false

/-- The last event of a queue that tells where the program stands. -/
def EventQueue.lastPlace? (q : EventQueue) : Option Event := q.queued.reverse.find? Event.isPlace

lemma EventQueue.lastPlace?_publish (q : EventQueue) (e : Event) :
    (q.publish e).lastPlace? = if e.isPlace then some e else q.lastPlace? := by
  rw [lastPlace?, publish, List.reverse_append, List.reverse_singleton, List.singleton_append,
    List.find?_cons]
  cases e.isPlace <;> rfl

/-- How the program stands as far as a connection knows. -/
def Connection.posture (c : Connection) : Posture :=
  { epoch := c.epoch, interaction := c.interaction, quitting := c.quitting,
    inputRequest := c.inputRequest }

def Session.outlook (s : Session) : Outlook :=
  { posture := s.connection.map Connection.posture, location := s.location,
    told := s.events.lastPlace? }

/-- What a payload says of how the program stands. -/
inductive Move where
  /-- Nothing. -/
  | stay
  /-- It runs on. -/
  | run
  /-- It stopped, which is told by an event or not. -/
  | stop (location : Option Location) (mark : Option Event)
  /-- It waits for a line of input. -/
  | block (id : RequestId)
deriving DecidableEq

namespace Outlook

variable {o o' o'' : Outlook}

def close (o : Outlook) : Outlook :=
  match o.posture with
  | none   => o
  | some _ => { o with posture := none, told := some .clearInteraction }

/-- The program moves. -/
def after (o : Outlook) : Move → Outlook
  | .stay               => o
  | .run                =>
    { o with
      posture := o.posture.map ({ · with interaction := .running }), told :=
    some .clearInteraction }
  | .stop location mark =>
    { posture := o.posture.map ({ · with interaction := .interacting }), location,
      told := mark.or o.told }
  | .block id           =>
    { o with posture := o.posture.map fun p =>
        { p with interaction := .blockedOnInput, inputRequest := some (id, p.interaction) } }

def connect (o : Outlook) (epoch : Nat) : Outlook :=
  { o with
    posture  := some { epoch, interaction := .running, quitting := false, inputRequest := none }
    location := none }

/-- The program gets the line of input that it waits for. -/
def answer (o : Outlook) : Outlook :=
  { o with posture := o.posture.map fun p =>
      match p.inputRequest with
      | none               => p
      | some (_, previous) => { p with interaction := previous, inputRequest := none } }

/-- Nothing changes, or the connection ends. -/
def Steady (o o' : Outlook) : Prop := o' = o ∨ o' = o.close

lemma posture_close (o : Outlook) : o.close.posture = none := by
  rw [close]
  split
  · assumption
  · rfl

lemma close_close (o : Outlook) : o.close.close = o.close := by
  rw [close, posture_close]

lemma Steady.refl (o : Outlook) : Steady o o := .inl rfl

lemma Steady.close (o : Outlook) : Steady o o.close := .inr rfl

lemma Steady.trans (h : Steady o o') (h' : Steady o' o'') : Steady o o'' := by
  rcases h with rfl | rfl
  · exact h'
  · rcases h' with rfl | rfl
    · exact .inr rfl
    · exact .inr (close_close o)

/-- As long as the connection stands, nothing changes. -/
lemma Steady.eq (h : Steady o o') (hattached : o'.posture.isSome) : o' = o := by
  rcases h with h | rfl
  · exact h
  · rw [posture_close] at hattached
    cases hattached

/-- Nothing changes but whether the user is quitting, or the connection ends. -/
def Keeps (o o' : Outlook) : Prop :=
  o'.posture = none ∨ o'.location = o.location ∧ o'.told = o.told ∧
    ∃ p q, o.posture = some p ∧ o'.posture = some { p with quitting := q }

lemma Steady.keeps (h : Steady o o') : Keeps o o' := by
  cases hp : o'.posture with
  | none => exact .inl hp
  | some p =>
    have hsame : o' = o := h.eq (by rw [hp]; rfl)
    rw [hsame] at hp ⊢
    exact .inr ⟨rfl, rfl, p, p.quitting, hp, hp⟩

/-- What two acts keep both of them keep. -/
lemma Keeps.trans (h : Keeps o o') (h' : Keeps o' o'') : Keeps o o'' := by
  rcases h' with hnone | ⟨hlocation, htold, p, q, hp, hq⟩
  · exact .inl hnone
  · rcases h with hnone | ⟨hlocation', htold', p', q', hp', hq'⟩
    · rw [hnone] at hp
      cases hp
    · rw [hq'] at hp
      cases hp
      exact .inr ⟨hlocation.trans hlocation', htold.trans htold', p', q, hp', hq⟩

end Outlook

namespace Session

open Outlook

variable {s : Session}

/-! ### Changes of a session -/

lemma isAttached_iff_posture : s.isAttached ↔ s.outlook.posture.isSome := by
  rw [isAttached, outlook, Option.isSome_map]

/-- What the state says is what the posture is. -/
lemma state_eq_iff_posture (s : Session) (i : Interaction) :
    s.state = i.seen ↔ ∃ p, s.outlook.posture = some p ∧ p.interaction = i := by
  rw [state_eq_seen_iff, outlook]
  constructor
  · rintro ⟨c, hc, hi⟩
    exact ⟨c.posture, by rw [hc]; rfl, hi⟩
  · rintro ⟨p, hp, hi⟩
    obtain ⟨c, hc, rfl⟩ := Option.map_eq_some_iff.mp hp
    exact ⟨c, hc, hi⟩

/-- The request of the program for a line of input that is to be answered, and how it stood
before. -/
def inputRequest? (s : Session) : Option (RequestId × Interaction) :=
  s.connection.bind Connection.inputRequest

lemma inputRequest?_eq (s : Session) :
    s.inputRequest? = s.outlook.posture.bind Posture.inputRequest := by
  rw [inputRequest?, outlook]
  cases s.connection <;> rfl

lemma outlook_modifyConnection {f : Connection → Connection} {g : Posture → Posture}
    (h : ∀ c, (f c).posture = g c.posture) :
    (s.modifyConnection f).outlook = { s.outlook with posture := s.outlook.posture.map g } := by
  cases hc : s.connection with
  | none => simp [modifyConnection, outlook, hc]
  | some c => simp [modifyConnection, outlook, hc, h]

lemma outlook_modifyConnection_of_eq {f : Connection → Connection}
    (h : ∀ c, (f c).posture = c.posture) :
    (s.modifyConnection f).outlook = s.outlook := by
  rw [outlook_modifyConnection (g := id) h, Option.map_id_fun]
  rfl

/-- An event that tells a place is told, and no other matters. -/
lemma outlook_publish (s : Session) (e : Event) :
    (s.publish e).outlook
      = { s.outlook with told := if e.isPlace then some e else s.outlook.told } := by
  simp only [outlook, publish, EventQueue.lastPlace?_publish]

lemma outlook_deliver (s : Session) (awaited : Bool) (a : Answer) :
    (if awaited then s.deliver a else s).outlook = s.outlook := by
  cases awaited <;> rfl

lemma outlook_detach (s : Session) : s.detach.outlook = s.outlook.close := by
  rw [detach, close]
  split
  · next hc => simp [outlook, hc]
  · next c hc =>
    simp only [outlook_publish]
    have hlast : (if c.pending.any (·.2.awaited) then s.deliver
        (.error .disconnected) else s).outlook
          = s.outlook := outlook_deliver s _ _
    simp only [outlook, hc, Option.map_some] at hlast ⊢
    rw [Outlook.mk.injEq] at hlast ⊢
    exact ⟨rfl, hlast.2.1, rfl⟩

/-- A program whose stop is cleared runs. -/
lemma outlook_clearInteraction (s : Session) :
    s.clearInteraction.outlook = s.outlook.after .run := by
  rw [clearInteraction, outlook_publish,
    outlook_modifyConnection (g := ({ · with interaction := .running })) fun _ => rfl]
  rfl

/-! ### Sending -/

/-- What is written leaves the outlook, unless the connection ends. -/
lemma steady_send (s : Session) (r : Record) : Steady s.outlook (s.send r).1.outlook := by
  rcases send_eq s r with ⟨-, room, heq⟩ | ⟨e, heq⟩
  · rw [heq]
    left
    exact outlook_modifyConnection_of_eq fun _ => rfl
  · rw [heq, outlook_detach]
    exact Steady.close _

lemma outlook_register (s : Session) (m : Method) (awaited : Bool) :
    (s.register m awaited).outlook = s.outlook :=
  outlook_modifyConnection_of_eq fun _ => rfl

lemma steady_tell (s : Session) (m : Method) (args : List Json) :
    Steady s.outlook (s.tell m args).outlook := by
  rw [← outlook_register s m false]
  exact steady_send _ _

lemma steady_ask (s : Session) (m : Method) (args : List Json) :
    Steady s.outlook (s.ask m args).1.outlook := by
  have hsent := steady_send ({ s with reply := none }.register m true) (.ask s.nextId m args)
  rw [outlook_register] at hsent
  rw [ask]
  split
  · next s' hs' =>
    rw [hs'] at hsent
    exact hsent
  · next s' e hs' =>
    rw [hs'] at hsent
    exact hsent

lemma steady_respond (s : Session) (id : Option RequestId) (outcome : Except RemoteError Json) :
    Steady s.outlook (s.respond id outcome).outlook := by
  cases id with
  | some id => exact steady_send s _
  | none => exact Steady.refl _

/-! ### Receiving -/

/-- The method of a request that the agent may still answer. -/
def requested? (s : Session) (id : RequestId) : Option Method :=
  s.connection.bind fun c =>
    ((c.pending.lookup id).map Pending.method).or (c.abandoned.lookup id)

/-- The move that an answer makes. -/
def moveOfAnswer (s : Session) (id : RequestId) (outcome : Except RemoteError Json) : Move :=
  match s.requested? id with
  | some method => if method.resumes && (resultOf method outcome).isOk then .run else .stay
  | none        => .stay

/-- The move that news of a stop makes. It is not told if the session itself is to run over it or
has asked for it, or if it is not in a file. -/
def moveOfStop (s : Session) (args : List Json) (kwargs : Members) : Move :=
  let file := argText args 0
  let line := argLine args 1
  if FileName.isPseudo file then .stop none none
  else .stop (some { file, line, source := argText args 2 })
    (if s.connection.any fun c => c.startContinue || c.suppressNext then none
      else some (.markLine file line (contextOf args kwargs)))

/-- The move that a call makes. -/
def moveOfCall (s : Session) (id : Option RequestId) (method : String) (args : List Json)
    (kwargs : Members) : Move :=
  match Method.ofName? method, id with
  | some .interaction, _       => s.moveOfStop args kwargs
  | some .readLine,    some id => .block id
  | _,                 _       => .stay

/-- The move that a payload makes. -/
def move (s : Session) (payload : Bytes) : Move :=
  match Record.decode payload with
  | .ok (.response id outcome)              => s.moveOfAnswer id outcome
  | .ok (.notification method args kwargs)  => s.moveOfCall none method args kwargs
  | .ok (.request id method args kwargs)    => s.moveOfCall (some id) method args kwargs
  | .error _                                => .stay

/-- An answer lets the program run on, or it leaves the outlook. -/
lemma outlook_settle (s : Session) (m : Method) (outcome : Except RemoteError Json) :
    (s.settle m outcome).1.outlook
      = s.outlook.after (if m.resumes && (resultOf m outcome).isOk then .run else .stay) := by
  rw [settle]
  cases hr : resultOf m outcome with
  | error e =>
    dsimp only
    rw [Except.isOk, Except.toBool, Bool.and_false]
    rfl
  | ok v =>
    dsimp only
    rw [Except.isOk, Except.toBool, Bool.and_true]
    split_ifs
    · exact outlook_clearInteraction s
    · rfl

/-- An answer makes the move that it brings. -/
lemma outlook_receiveResponse (s : Session) (id : RequestId)
    (outcome : Except RemoteError Json) :
    (s.receiveResponse id outcome).outlook = s.outlook.after (s.moveOfAnswer id outcome) := by
  rw [receiveResponse, moveOfAnswer, requested?]
  split
  · next hc => rw [hc]; rfl
  · next c hc =>
    rw [hc, Option.bind_some]
    cases hp : c.pending.lookup id with
    | some p =>
      dsimp only
      rw [finish, Option.map_some, Option.some_or]
      dsimp only
      rw [outlook_deliver, outlook_settle, outlook_modifyConnection_of_eq]
      exact fun _ => rfl
    | none =>
      rw [Option.map_none, Option.none_or]
      cases ha : c.abandoned.lookup id with
      | some m =>
        dsimp only
        rw [finishLate, outlook_settle, outlook_modifyConnection_of_eq]
        exact fun _ => rfl
      | none => rfl

lemma steady_receiveMalformed (s : Session) (e : DecodeError) :
    Steady s.outlook (s.receiveMalformed e).outlook := by
  simp only [receiveMalformed]
  split
  · exact Steady.refl _
  · exact steady_send s _
  · next id _ =>
    split
    · exact Steady.refl _
    · split
      · exact Steady.refl _
      · next p _ =>
        left
        rw [outlook_deliver, abandon, outlook_modifyConnection_of_eq,
          outlook_modifyConnection_of_eq]
        · exact fun _ => rfl
        · exact fun _ => rfl

lemma steady_loaded (s : Session) : Steady s.outlook s.loaded.outlook :=
  loaded_of_tell (R := fun s s' => Steady s.outlook s'.outlook)
    (fun _ => Steady.refl _) Steady.trans
    (fun s m args _ => steady_tell s m args) s

lemma steady_released (s : Session) : Steady s.outlook s.released.outlook := by
  refine Steady.trans ?_ (steady_send _ (.notify .run))
  left
  split_ifs
  · exact outlook_modifyConnection_of_eq fun _ => rfl
  · rfl

lemma steady_receiveStartup (s : Session) (id : Option RequestId) :
    Steady s.outlook (s.receiveStartup id).outlook := by
  rw [receiveStartup_eq]
  exact (steady_loaded s).trans ((steady_respond _ id _).trans (steady_released _))

/-- A stop makes the move that it brings. -/
lemma steady_receiveInteraction (hattached : s.isAttached) (args : List Json)
    (kwargs : Members) :
    Steady (s.outlook.after (s.moveOfStop args kwargs))
      (s.receiveInteraction args kwargs).outlook := by
  obtain ⟨c, hc⟩ := Option.isSome_iff_exists.mp hattached
  simp only [receiveInteraction, moveOfStop, hc, Option.any_some]
  by_cases hstart : c.startContinue
  · rw [if_pos hstart, hstart, Bool.true_or, if_pos rfl]
    -- the stop is noted, and the request to run on leaves the outlook alone
    refine Steady.trans (.inl ?_) (steady_tell _ .resume [])
    by_cases hpseudo : FileName.isPseudo (argText args 0) <;>
      simp [outlook, after, hc, hpseudo, Connection.posture]
  · rw [if_neg hstart, Bool.eq_false_iff.mpr hstart, Bool.false_or]
    left
    by_cases hsuppress : c.suppressNext <;>
      by_cases hpseudo : FileName.isPseudo (argText args 0) <;>
      simp [outlook, after, hc, hpseudo, hsuppress, Connection.posture, publish,
        EventQueue.lastPlace?_publish, Event.isPlace]

/-- A request for a line blocks the program. -/
lemma outlook_receiveReadLine (s : Session) (id : RequestId) (args : List Json) :
    (s.receiveReadLine id args).outlook = s.outlook.after (.block id) := by
  rw [receiveReadLine, outlook_publish, outlook_modifyConnection (g := fun p =>
    { p with interaction := .blockedOnInput, inputRequest := some (id, p.interaction) }) fun _ =>
      rfl]
  rfl

/-- A call makes the move that it brings. -/
lemma steady_receiveCall (hattached : s.isAttached) (id : Option RequestId) (method : String)
    (args : List Json) (kwargs : Members) :
    Steady (s.outlook.after (s.moveOfCall id method args kwargs))
      (s.receiveCall id method args kwargs).outlook := by
  have hquiet : ∀ e : Event, e.isPlace = false → (s.publish e).outlook = s.outlook := by
    intro e he
    rw [outlook_publish, he]
    rfl
  simp only [receiveCall, moveOfCall]
  cases Method.ofName? method with
  | none => exact steady_respond s id _
  | some m =>
    cases m with
    | interaction =>
      exact (steady_receiveInteraction hattached args kwargs).trans (steady_respond _ id _)
    | readLine =>
      cases id with
      | none => exact Steady.refl _
      | some id => exact .inl (outlook_receiveReadLine s id args)
    | startup => exact steady_receiveStartup s id
    | write =>
      refine Steady.trans (.inl ?_) (steady_respond _ id _)
      exact hquiet (.write _) rfl
    | exception =>
      refine Steady.trans (.inl ?_) (steady_respond _ id _)
      exact hquiet (.exception _) rfl
    | _ => exact steady_respond s id _

/-- A payload changes the outlook by the move that it makes, and may end the connection. -/
lemma steady_receiveFrame (hattached : s.isAttached) (payload : Bytes) :
    Steady (s.outlook.after (s.move payload)) (s.receiveFrame payload).outlook := by
  obtain ⟨c, hc⟩ := Option.isSome_iff_exists.mp hattached
  rw [receiveFrame, hc, move]
  dsimp only
  cases Record.decode payload with
  | error e => exact steady_receiveMalformed s e
  | ok r =>
    cases r with
    | response id outcome => exact .inl (outlook_receiveResponse s id outcome)
    | notification method args kwargs =>
      exact steady_receiveCall hattached none method args kwargs
    | request id method args kwargs =>
      exact steady_receiveCall hattached (some id) method args kwargs

/-! ### Operations -/

/-- A line that is given takes the program back to how it stood. -/
lemma steady_provideInput (s : Session) (text : String) :
    Steady s.outlook.answer (s.provideInput text).1.outlook := by
  rw [provideInput]
  split
  · next hc =>
    left
    simp [outlook, answer, hc]
  · next c hc =>
    split
    · next hr =>
      left
      simp [outlook, answer, hc, Connection.posture, hr]
    · next id previous hr =>
      refine Steady.trans (.inl ?_) (steady_send _ _)
      simp [outlook, answer, hc, Connection.posture, hr]

lemma keeps_of_eq {s' : Session} (h : s'.outlook = s.outlook) : Keeps s.outlook s'.outlook :=
  (Steady.refl s.outlook).keeps |> fun hsame => h ▸ hsame

lemma keeps_quitting (s : Session) (q : Bool) :
    Keeps s.outlook (s.modifyConnection fun c => { c with quitting := q }).outlook := by
  rw [outlook_modifyConnection (g := ({ · with quitting := q })) fun _ => rfl]
  cases hp : s.outlook.posture with
  | none => exact .inl rfl
  | some p => exact .inr ⟨rfl, rfl, p, q, hp, rfl⟩

/-- Operations keep the outlook, unless they begin a connection or answer the program. -/
lemma stable_keeps : Stable fun s s' => Keeps s.outlook s'.outlook where
  refl s := (Steady.refl s.outlook).keeps
  trans := Keeps.trans
  ask s m args _ := (steady_ask s m args).keeps
  notify s m := (steady_send s _).keeps
  detach s := by
    rw [outlook_detach]
    exact (Steady.close s.outlook).keeps
  breakpoints _ _ := keeps_of_eq rfl
  suppress _ _ := keeps_of_eq (outlook_modifyConnection_of_eq fun _ => rfl)
  relent s := keeps_quitting s false

lemma outlook_endWait (s : Session) (id : RequestId) (m : Method) :
    (s.endWait id m).1.outlook = s.outlook := by
  simp only [endWait, takeReply]
  split
  · next h =>
    obtain ⟨rfl, -⟩ := Prod.mk.inj h
    rfl
  · next h =>
    obtain ⟨rfl, -⟩ := Prod.mk.inj h
    rw [giveUp]
    dsimp only
    split
    · rfl
    · rw [abandon, outlook_modifyConnection_of_eq, outlook_modifyConnection_of_eq]
      · rfl
      · exact fun _ => rfl
      · exact fun _ => rfl

end Session

namespace Engine

open Outlook

variable {e : Engine}

/-- What holds of the outlook goes on to hold when something happens, if the moves that come with
it keep it. -/
lemma outlook_step {I : Outlook → Prop} (hkeeps : ∀ {o o'}, I o → Keeps o o' → I o')
    (hconnect : ∀ (o : Outlook) epoch, I (o.connect epoch)) (hanswer : ∀ o, I o → I o.answer)
    (network : Network) {input : Input}
    (hmove : ∀ m ∈ e.meetings input, I m.1.outlook → I (m.1.outlook.after (m.1.move m.2)))
    (h : I e.session.outlook) : I (e.step network input).1.session.outlook := by
  have hsteady : ∀ {s s' : Session}, Keeps s.outlook s'.outlook → I s.outlook → I s'.outlook :=
    fun hk hs => hkeeps hs hk
  have hlasting : Session.Lasting fun s s' => I s.outlook → I s'.outlook := {
    refl := fun _ hs => hs
    trans := fun h h' hs => h' (h hs)
    ask := fun s m args hm => hsteady (Session.stable_keeps.ask s m args hm)
    notify := fun s m => hsteady (Session.stable_keeps.notify s m)
    detach := fun s => hsteady (Session.stable_keeps.detach s)
    breakpoints := fun s b => hsteady (Session.stable_keeps.breakpoints s b)
    suppress := fun s b => hsteady (Session.stable_keeps.suppress s b)
    relent := fun s => hsteady (Session.stable_keeps.relent s)
    quitting := fun s => hsteady (Session.keeps_quitting s true)
    connected := fun s remote _ => hconnect s.outlook _
    endWait := fun s id m hs => by
      rw [Session.outlook_endWait]
      exact hs
    room := fun s room =>
      hsteady (Session.keeps_of_eq (Session.outlook_modifyConnection_of_eq fun _ => rfl)) }
  refine step_lasting hlasting network ?_ ?_ ?_ h
  · rintro bytes rfl hs
    apply Session.receiveBytes_induct (P := fun s => I s.outlook) _ _ _ hs
    · intro s inbox
      exact hsteady (Session.keeps_of_eq (Session.outlook_modifyConnection_of_eq fun _ => rfl))
    · exact hlasting.detach
    · intro m hm hs
      have hmeets : m ∈ e.meetings (.bytes bytes) := hm
      have hattached := isAttached_of_mem_meetings hmeets
      exact hkeeps (hmove m hm hs) (Session.steady_receiveFrame hattached m.2).keeps
  · rintro text rfl hs
    exact hkeeps (hanswer _ hs) (Session.steady_provideInput _ text).keeps
  · intro _ _ _ _ s
    exact hsteady (Session.steady_ask s .resume []).keeps

end Engine

end RemoteDebugger
