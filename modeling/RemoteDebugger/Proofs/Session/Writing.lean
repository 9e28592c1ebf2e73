import RemoteDebugger.Proofs.Session.Retaining

/-!
# What comes to be written

The records that a session is to write on account of a payload, of an operation that begins and
of a wait that is over. If the agent has room for all of them, they are what is written, and
otherwise the connection ends.
-/

namespace RemoteDebugger

/-! ### Room -/

/-- The number of bytes that records take up on the wire. -/
def Record.sizes (rs : List Record) : Nat := (rs.flatMap fun r => Frame.encode r.encode).length

lemma Record.sizes_append (rs rs' : List Record) : sizes (rs ++ rs') = sizes rs + sizes rs' := by
  rw [sizes, List.flatMap_append, List.length_append]
  rfl

/-- The room of a connection once bytes were written to it. The connection does not stand if
there was too little room for them. -/
def spend (size : Nat) : Option (Option Nat) → Option (Option Nat)
  | some (some room) => if size ≤ room then some (some (room - size)) else none
  | room?            => room?

lemma spend_zero (room? : Option (Option Nat)) : spend 0 room? = room? := by
  match room? with
  | none => rfl
  | some none => rfl
  | some (some room) => rfl

/-- What is spent adds up. -/
lemma spend_spend (size size' : Nat) (room? : Option (Option Nat)) :
    spend size' (spend size room?) = spend (size + size') room? := by
  match room? with
  | none => rfl
  | some none => rfl
  | some (some room) =>
    by_cases hsize : size ≤ room
    · by_cases hboth : size + size' ≤ room
      · have hrest : size' ≤ room - size := by omega
        simp only [spend, hsize, hboth, hrest, if_true, Nat.sub_sub]
      · have hrest : ¬ size' ≤ room - size := by omega
        simp only [spend, hsize, hboth, hrest, if_true, if_false]
    · have hboth : ¬ size + size' ≤ room := by omega
      simp only [spend, hsize, hboth, if_false]

namespace Session

variable {s s' s'' : Session} {rs rs' : List Record}

def room? (s : Session) : Option (Option Nat) := s.connection.map Connection.room

/-- Whether the agent has room for records. -/
def takes (s : Session) (rs : List Record) : Bool := s.room?.join.all (Record.sizes rs ≤ ·)

/-- What can be written depends on the room alone. -/
lemma takes_of_room? (h : s'.room? = s.room?) (rs : List Record) : s'.takes rs = s.takes rs := by
  rw [takes, takes, h]

lemma isAttached_eq_room? (s : Session) : s.isAttached = s.room?.isSome := by
  rw [isAttached, room?, Option.isSome_map]

/-- A session is attached after records if it can take them. -/
lemma spend_room? (hattached : s.isAttached) (rs : List Record) :
    (spend (Record.sizes rs) s.room?).isSome = s.takes rs := by
  obtain ⟨c, hc⟩ := Option.isSome_iff_exists.mp hattached
  rw [takes, room?, hc, Option.map_some, Option.join_some]
  cases c.room with
  | none => rfl
  | some room =>
    by_cases hsize : Record.sizes rs ≤ room <;> simp [spend, hsize]

/-- From one session to the other, records were written, or else there was no room for all of
them and the connection ended. -/
structure Writes (rs : List Record) (s s' : Session) : Prop where
  room : s'.room? = spend (Record.sizes rs) s.room?
  sent : s'.isAttached → s'.sent = s.sent ++ rs

/-- What is written leaves a session attached if there is room for it. -/
lemma Writes.isAttached (h : Writes rs s s') (hattached : s.isAttached) :
    s'.isAttached = s.takes rs := by
  rw [isAttached_eq_room?, h.room, spend_room? hattached]

lemma Writes.isAttached_of (h : Writes rs s s') (hattached : s'.isAttached) : s.isAttached := by
  rw [isAttached_eq_room?] at hattached ⊢
  rw [h.room] at hattached
  cases hroom : s.room? with
  | none =>
    rw [hroom] at hattached
    cases hattached
  | some room => rfl

lemma Writes.trans (h : Writes rs s s') (h' : Writes rs' s' s'') : Writes (rs ++ rs') s s'' where
  room := by rw [h'.room, h.room, spend_spend, Record.sizes_append]
  sent hattached := by
    rw [h'.sent hattached, h.sent (h'.isAttached_of hattached), List.append_assoc]

lemma Writes.of_eq (hroom : s'.room? = s.room?) (hletters : s'.letters = s.letters) :
    Writes [] s s' where
  room := by
    rw [hroom]
    exact (spend_zero _).symm
  sent _ := by rw [List.append_nil, Session.sent, Session.sent, hletters]

lemma Writes.refl (s : Session) : Writes [] s s := Writes.of_eq rfl rfl

/-- Without a connection nothing is written, whatever there was to be written. -/
lemma writes_of_detached (hs : s.isAttached = false) (hs' : s'.isAttached = false) :
    Writes rs s s' where
  room := by
    rw [isAttached_eq_room?, Option.isSome_eq_false_iff, Option.isNone_iff_eq_none] at hs hs'
    rw [hs, hs']
    rfl
  sent hattached := by
    rw [hs'] at hattached
    cases hattached

lemma room?_modifyConnection {f : Connection → Connection} (h : ∀ c, (f c).room = c.room) :
    (s.modifyConnection f).room? = s.room? := by
  rw [room?, room?, modifyConnection]
  cases s.connection with
  | none => rfl
  | some c => exact congrArg some (h c)

lemma writes_modifyConnection {f : Connection → Connection} (h : ∀ c, (f c).room = c.room) :
    Writes [] s (s.modifyConnection f) := Writes.of_eq (room?_modifyConnection h) rfl

/-! ### Sending -/

/-- A record that is sent is written, if there is room for it. -/
lemma writes_send (s : Session) (r : Record) : Writes [r] s (s.send r).1 := by
  have hsizes : Record.sizes [r] = (Frame.encode r.encode).length := by
    rw [Record.sizes, List.flatMap_singleton]
  rw [send]
  split
  · next hc =>
    have hgone : s.isAttached = false := by rw [isAttached, hc]; rfl
    exact writes_of_detached hgone hgone
  · next c hc =>
    have hroom : s.room? = some c.room := by rw [room?, hc, Option.map_some]
    dsimp only
    split
    · next hnone =>
      refine ⟨?_, fun _ => ?_⟩
      · show s.room? = _
        rw [hroom, hnone]
        rfl
      · rw [sent, List.map_append]
        rfl
    -- there is room enough, or the connection ends
    · next room hsome =>
      split_ifs with hsize
      · refine ⟨?_, fun _ => ?_⟩
        · rw [hroom, hsome, spend, hsizes, if_pos hsize]
          rfl
        · rw [sent, List.map_append]
          rfl
      · refine ⟨?_, fun hattached => ?_⟩
        · rw [hroom, hsome, spend, hsizes, if_neg hsize, room?, connection_detach,
            Option.map_none]
        · rw [isAttached_detach] at hattached
          cases hattached

/-- From one session to the other, numbers were given out and records sent, and nothing else of
the user's changed. -/
def Spends (n : Nat) (s s' : Session) : Prop :=
  ∃ connection letters events reply,
    s' = { s with connection, letters, events, reply, nextId := s.nextId + n }

lemma Spends.nextId {n : Nat} (h : Spends n s s') : s'.nextId = s.nextId + n := by
  obtain ⟨_, _, _, _, rfl⟩ := h
  rfl

lemma Spends.config {n : Nat} (h : Spends n s s') : s'.config = s.config := by
  obtain ⟨_, _, _, _, rfl⟩ := h
  rfl

lemma Spends.trans {n n' : Nat} (h : Spends n s s') (h' : Spends n' s' s'') :
    Spends (n + n') s s'' := by
  obtain ⟨_, _, _, _, rfl⟩ := h
  obtain ⟨connection, letters, events, reply, rfl⟩ := h'
  refine ⟨connection, letters, events, reply, ?_⟩
  rw [← Nat.add_assoc]

lemma spends_detach (s : Session) : Spends 0 s s.detach := by
  rw [detach]
  split
  · exact ⟨_, _, _, _, rfl⟩
  · dsimp only
    split_ifs <;> exact ⟨_, _, _, _, rfl⟩

lemma spends_send (s : Session) (r : Record) : Spends 0 s (s.send r).1 := by
  rcases send_eq s r with ⟨-, room, heq⟩ | ⟨e, heq⟩
  · rw [heq]
    exact ⟨_, _, _, _, rfl⟩
  · rw [heq]
    exact spends_detach s

lemma spends_tell (s : Session) (m : Method) (args : List Json) :
    Spends 1 s (s.tell m args) := by
  have hregister : Spends 1 s (s.register m false) := ⟨_, _, _, _, rfl⟩
  exact hregister.trans (spends_send _ _)

/-- The breakpoints spend one number each. -/
lemma spends_foldl_tell (s : Session) (bs : List Breakpoint) :
    Spends bs.length s (bs.foldl (fun s b => s.tell .setBreakpoint b.setArgs) s) := by
  induction bs generalizing s with
  | nil => exact ⟨_, _, _, _, rfl⟩
  | cons b bs ih =>
    rw [List.length_cons, Nat.add_comm]
    exact (spends_tell s .setBreakpoint b.setArgs).trans (ih _)

lemma writes_register (s : Session) (m : Method) (awaited : Bool) :
    Writes [] s (s.register m awaited) := by
  refine Writes.of_eq ?_ rfl
  rw [register, room?_modifyConnection]
  · rfl
  · exact fun _ => rfl

lemma writes_tell (s : Session) (m : Method) (args : List Json) :
    Writes [.ask s.nextId m args] s (s.tell m args) :=
  (writes_register s m false).trans (writes_send _ _)

/-- A command that is waited for is written with the next number. -/
lemma writes_ask (s : Session) (m : Method) (args : List Json) :
    Writes [.ask s.nextId m args] s (s.ask m args).1 := by
  have hhush : Writes [] s { s with reply := none } := Writes.of_eq rfl rfl
  have hsent := (hhush.trans (writes_register _ m true)).trans
    (writes_send _ (.ask s.nextId m args))
  rw [ask]
  split
  · next s' hs' =>
    rw [hs'] at hsent
    exact hsent
  · next s' e hs' =>
    rw [hs'] at hsent
    exact hsent.trans (Writes.of_eq rfl rfl)

/-- The answer to a call, if it was a request. -/
def answering (id : Option RequestId) (outcome : Except RemoteError Json) : List Record :=
  (id.map fun n => Record.response n outcome).toList

/-- An answer is written if there is a request that asks for it. -/
lemma writes_respond (s : Session) (id : Option RequestId) (outcome : Except RemoteError Json) :
    Writes (answering id outcome) s (s.respond id outcome) := by
  cases id with
  | none => exact Writes.refl s
  | some id => exact writes_send s _

/-! ### Payloads -/

/-- The requests to a program that is about to start: its breakpoints and the parameters. -/
def loading (s : Session) : List Record :=
  (s.breakpoints.all.zipIdx s.nextId).map (fun b => .ask b.2 .setBreakpoint b.1.setArgs) ++
    [.ask (s.nextId + s.breakpoints.all.length) .setParams [s.config.params.toJson]]

/-- What is to be written on account of a call. -/
def outgoingOfCall (s : Session) (id : Option RequestId) (method : String) : List Record :=
  match Method.ofName? method with
  | none              => answering id (.error { message := "unknown method `" ++ method ++ "`" })
  | some .startup     => s.loading ++ answering id (.ok .null) ++ [.notify .run]
  | some .readLine    => []
  | some .interaction =>
    (if s.connection.any Connection.startContinue then [.ask s.nextId .resume []] else [])
      ++ answering id (.ok .null)
  | some .write       => answering id (.ok .null)
  | some .exception   => answering id (.ok .null)
  | some other        =>
    answering id (.error { message := "`" ++ other.name ++ "` is not served by frontend" })

/-- The text that a broken request is answered with. -/
def complaint (reason : Malformation) : RemoteError :=
  { message := "malformed request: " ++ reason.text }

/-- What is to be written on account of a payload. -/
def outgoing (s : Session) (payload : Bytes) : List Record :=
  match Record.decode payload with
  | .ok (.response _ _)            => []
  | .ok (.notification method _ _) => s.outgoingOfCall none method
  | .ok (.request id method _ _)   => s.outgoingOfCall (some id) method
  | .error e                       =>
    answering (Record.asker? (.error e)) (.error (complaint e.reason))

lemma room?_deliver (s : Session) (awaited : Bool) (a : Answer) :
    (if awaited then s.deliver a else s).room? = s.room? := by
  cases awaited <;> rfl

lemma room?_settle (s : Session) (m : Method) (outcome : Except RemoteError Json) :
    (s.settle m outcome).1.room? = s.room? := by
  rw [settle]
  split
  · dsimp only
    split_ifs
    · exact room?_modifyConnection fun _ => rfl
    · rfl
  · rfl

/-- An answer leaves the room. -/
lemma room?_receiveResponse (s : Session) (id : RequestId) (outcome : Except RemoteError Json) :
    (s.receiveResponse id outcome).room? = s.room? := by
  rw [receiveResponse]
  split
  · rfl
  · split
    · rw [finish]
      dsimp only
      rw [room?_deliver, room?_settle]
      exact room?_modifyConnection fun _ => rfl
    · rw [finishLate, room?_settle]
      exact room?_modifyConnection fun _ => rfl
    · rfl

lemma writes_receiveMalformed (s : Session) (e : DecodeError) :
    Writes (answering (Record.asker? (.error e)) (.error (complaint e.reason))) s
      (s.receiveMalformed e) := by
  simp only [receiveMalformed, Record.asker?]
  cases e.blame with
  | nobody => exact Writes.refl s
  | request id => exact writes_send s _
  | answerTo id =>
    dsimp only
    split
    · exact Writes.refl s
    · split
      · exact Writes.refl s
      · next p _ =>
        refine Writes.of_eq ?_ ?_
        · rw [room?_deliver, abandon, room?_modifyConnection, room?_modifyConnection]
          · exact fun _ => rfl
          · exact fun _ => rfl
        · split_ifs <;> rfl

/-- The breakpoints are written in order, with one number after the other. -/
lemma writes_foldl_tell (s : Session) (bs : List Breakpoint) :
    Writes ((bs.zipIdx s.nextId).map fun b => .ask b.2 .setBreakpoint b.1.setArgs) s
      (bs.foldl (fun s b => s.tell .setBreakpoint b.setArgs) s) := by
  induction bs generalizing s with
  | nil => exact Writes.refl s
  | cons b bs ih =>
    have hrest := ih (s.tell .setBreakpoint b.setArgs)
    rw [(spends_tell s .setBreakpoint b.setArgs).nextId] at hrest
    exact (writes_tell s .setBreakpoint b.setArgs).trans hrest

lemma writes_loaded (s : Session) : Writes s.loading s s.loaded := by
  have hspends := spends_foldl_tell s s.breakpoints.all
  have hparams :=
    writes_tell (s.breakpoints.all.foldl (fun s b => s.tell .setBreakpoint b.setArgs) s)
    .setParams [s.config.params.toJson]
  rw [hspends.nextId] at hparams
  have hloaded : s.loaded
      = (s.breakpoints.all.foldl (fun s b => s.tell .setBreakpoint b.setArgs) s).tell
        .setParams [s.config.params.toJson] := by
    rw [loaded, hspends.config]
  rw [hloaded]
  exact (writes_foldl_tell s s.breakpoints.all).trans hparams

lemma writes_released (s : Session) : Writes [.notify .run] s s.released := by
  have hmarked : Writes [] s (if s.config.runWithoutPausing
      then s.modifyConnection fun c => { c with startContinue := true } else s) := by
    split_ifs
    · exact writes_modifyConnection fun _ => rfl
    · exact Writes.refl s
  exact hmarked.trans (writes_send _ (.notify .run))

/-- A stop that is run over has the program asked to run on, and no other does. -/
lemma writes_receiveInteraction (s : Session) (args : List Json) (kwargs : Members) :
    Writes (if s.connection.any Connection.startContinue then [.ask s.nextId .resume []] else [])
      s (s.receiveInteraction args kwargs) := by
  rw [receiveInteraction]
  cases hc : s.connection with
  | none => exact Writes.refl s
  | some c =>
    have hroom : s.room? = some c.room := by rw [room?, hc, Option.map_some]
    rw [Option.any_some]
    dsimp only
    cases c.startContinue with
    | true =>
      have htell : ∀ t : Session, t.room? = s.room? → t.letters = s.letters →
          t.nextId = s.nextId →
          Writes [.ask s.nextId .resume []] s (t.tell .resume []) := by
        intro t htroom hletters hid
        rw [← hid]
        exact (Writes.of_eq htroom hletters).trans (writes_tell t .resume [])
      exact htell _ hroom.symm rfl rfl
    | false =>
      cases c.suppressNext with
      | true => exact Writes.of_eq hroom.symm rfl
      | false =>
        cases FileName.isPseudo (argText args 0) with
        | true => exact Writes.of_eq hroom.symm rfl
        | false => exact Writes.of_eq hroom.symm rfl

/-- A call is answered with what it calls for. -/
lemma writes_receiveCall (s : Session) (id : Option RequestId) (method : String)
    (args : List Json) (kwargs : Members) :
    Writes (s.outgoingOfCall id method) s (s.receiveCall id method args kwargs) := by
  simp only [receiveCall, outgoingOfCall]
  cases Method.ofName? method with
  | none => exact writes_respond s id _
  | some m =>
    cases m with
    | startup =>
      rw [List.append_assoc]
      exact (writes_loaded s).trans ((writes_respond _ id _).trans (writes_released _))
    | readLine =>
      cases id with
      | none => exact Writes.refl s
      | some id => exact Writes.of_eq (room?_modifyConnection fun _ => rfl) rfl
    | interaction =>
      exact (writes_receiveInteraction s args kwargs).trans (writes_respond _ id _)
    | write =>
      have hpublished : Writes [] s (s.publish (.write (argText args 0))) := Writes.of_eq rfl rfl
      exact hpublished.trans (writes_respond _ id _)
    | exception =>
      have hnoted : Writes [] s (s.receiveException args) := Writes.of_eq rfl rfl
      exact hnoted.trans (writes_respond _ id _)
    | _ => exact writes_respond s id _

/-- What is to be written on account of a payload is written, or else the connection ends. -/
lemma writes_receiveFrame (hattached : s.isAttached) (payload : Bytes) :
    Writes (s.outgoing payload) s (s.receiveFrame payload) := by
  obtain ⟨c, hc⟩ := Option.isSome_iff_exists.mp hattached
  rw [receiveFrame, hc, outgoing]
  dsimp only
  cases Record.decode payload with
  | error e => exact writes_receiveMalformed s e
  | ok r =>
    cases r with
    | response id outcome =>
      exact Writes.of_eq (room?_receiveResponse s id outcome)
        (letters_receiveResponse s id outcome)
    | notification method args kwargs => exact writes_receiveCall s none method args kwargs
    | request id method args kwargs => exact writes_receiveCall s (some id) method args kwargs

end Session

end RemoteDebugger
