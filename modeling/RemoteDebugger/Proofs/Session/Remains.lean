import RemoteDebugger.Proofs.Session.Chronicle
import RemoteDebugger.Proofs.Session.Startup

/-!
# What remains of a connection

Over a run the configuration stays, and a connection that was given up never comes back: those
that begin later are counted on. Where no command waits for an answer, none has been left behind
for it.
-/

namespace RemoteDebugger

open Books

/-! ### Answers that are left behind -/

namespace Books

variable {b b' : Books}

/-- What is heard while nothing waits delivers no reply. -/
lemma Idle.reply_hears (h : b.Idle) (hears : Hears b b') : b'.reply = b.reply := by
  induction hears with
  | refl => rfl
  | calm hc hcalm ih => exact ((h.hears hc).calm hcalm).2.trans ih
  | frame hc hframe ih => exact ((h.hears hc).onFrame hframe).2.trans ih
  | keep _ _ ih => exact ih

/-- What an operation does while nothing waits delivers no reply. -/
lemma Idle.reply_works (h : b.Idle) (hreply : b.reply = none) (hworks : Works b b') :
    b'.reply = none := by
  induction hworks with
  | refl => exact hreply
  | calm hw hcalm ih => exact ((h.works hw).calm hcalm).2.trans ih
  | hush _ _ => rfl
  | connect _ ih => exact ih

end Books

namespace Engine

variable {e : Engine}

/-- Only for a command that waits for an answer there can be one. -/
def LeavesNone (e : Engine) :
    Prop := (∃ n m goal, e.task = some (.answer n m goal)) ∨ e.session.reply = none

/-- An act that begins without a reply leaves none. -/
lemma leavesNone_after {b : Books} {r : Session × Progress} (hidle : b.Idle)
    (hreply : b.reply = none) (h : Leads b r) : LeavesNone (after r).1 := by
  cases h with
  | finished hworks => exact .inr (hidle.reply_works hreply hworks)
  | paused hworks => exact .inr (hidle.reply_works hreply hworks)
  | asked _ _ _ => exact .inl ⟨_, _, _, rfl⟩

/-- Where no command waits for an answer, no request is awaited. -/
lemma Sound.idle (h : e.Sound) (ht : ∀ n m goal, e.task ≠ some (.answer n m goal)) :
    e.session.books.Idle := by
  have hserves := h.serves
  match htask : e.task with
  | none =>
    rw [htask] at hserves
    exact hserves
  | some (.stop _ _ _) =>
    rw [htask] at hserves
    exact hserves
  | some (.answer n m goal) => exact absurd htask (ht n m goal)

lemma LeavesNone.idle (h : e.LeavesNone) (hsound : e.Sound)
    (ht : ∀ n m goal, e.task ≠ some (.answer n m goal)) :
    e.session.books.Idle ∧ e.session.books.reply = none :=
  ⟨hsound.idle ht, h.resolve_left fun ⟨n, m, goal, htask⟩ => ht n m goal htask⟩

/-- What is heard outside of a wait leaves no reply. -/
lemma LeavesNone.hears {s : Session} (h : e.LeavesNone) (hsound : e.Sound)
    (hears : Hears e.session.books s.books) : LeavesNone { e with session := s } := by
  by_cases ht : ∃ n m goal, e.task = some (.answer n m goal)
  · exact .inl ht
  · obtain ⟨hidle, hreply⟩ := h.idle hsound fun n m goal htask => ht ⟨n, m, goal, htask⟩
    exact .inr ((hidle.reply_hears hears).trans hreply)

/-- The answer that a command waited for is taken at the end of the wait. -/
lemma reply_endWait (s : Session) (n : RequestId) (m : Method) :
    (s.endWait n m).1.books.reply = none := by
  rw [(Session.endWait_eq s n m).2]
  split <;> rfl

/-- Everything that happens keeps this: outside of a wait nothing is delivered, and a wait takes
what was. -/
lemma LeavesNone.step (h : e.LeavesNone) (hsound : e.Sound) (network : Network) (input : Input) :
    LeavesNone (e.step network input).1 := by
  cases ht : e.task with
  | none =>
    obtain ⟨hidle, hreply⟩ := h.idle hsound (by simp [ht])
    cases input with
    | start operation =>
      rw [Engine.step, Engine.start, ht]
      exact leavesNone_after hidle hreply (Session.leads_start e.session network operation)
    | bytes bytes => exact h.hears hsound (Session.hears_receiveBytes e.session bytes)
    | endOfStream => exact h.hears hsound (Session.hears_detach e.session)
    | frameTimeout => exact h.hears hsound (Session.hears_expireFrame e.session)
    | wake =>
      rw [Engine.step, ht]
      exact h
    | room room => exact h.hears hsound (Session.hears_room e.session room)
  | some task =>
    by_cases hwake : input = .wake
    · subst hwake
      rw [Engine.step, ht]
      cases task with
      | stop pause pauses operation =>
        obtain ⟨hidle, hreply⟩ := h.idle hsound (by simp [ht])
        exact leavesNone_after hidle hreply (Session.leads_look e.session pauses operation)
      | answer n m goal =>
        exact leavesNone_after (hsound.endWait ht).2 (reply_endWait e.session n m)
          (Session.leads_proceed _ _ goal)
    · obtain ⟨hsame, hears⟩ := step_hears ht network hwake
      rw [hsame]
      exact h.hears hsound hears

lemma LeavesNone.run (h : e.LeavesNone) (hsound : e.Sound) (run : List (Network × Input)) :
    LeavesNone (e.run run).1 := by
  induction run generalizing e with
  | nil => exact h
  | cons i run ih => exact ih (h.step hsound i.1 i.2) (hsound.step i.1 i.2)

/-! ### The configuration -/

/-- The configuration stays the same over every run. -/
lemma config_run (e : Engine) (run : List (Network × Input)) :
    (e.run run).1.session.config = e.session.config := by
  induction run generalizing e with
  | nil => rfl
  | cons i run ih => exact (ih (e.step i.1 i.2).1).trans (undergoes_step e i.1 i.2).config

end Engine

/-! ### Connections by their number -/

namespace Session

variable {s s' s'' : Session} {n : Nat}

/-- From one session to the other, only what a payload may change has changed. -/
def Receives (s s' : Session) : Prop :=
  ∃ connection nextId location lastException events letters reply,
    s' = { s with connection, nextId, location, lastException, events, letters, reply }

lemma Receives.refl (s : Session) : Receives s s := ⟨_, _, _, _, _, _, _, rfl⟩

lemma Receives.trans (h : Receives s s') (h' : Receives s' s'') : Receives s s'' := by
  obtain ⟨_, _, _, _, _, _, _, rfl⟩ := h
  obtain ⟨_, _, _, _, _, _, _, rfl⟩ := h'
  exact ⟨_, _, _, _, _, _, _, rfl⟩

lemma Spends.receives {k : Nat} (h : Spends k s s') : Receives s s' := by
  obtain ⟨_, _, _, _, rfl⟩ := h
  exact ⟨_, _, _, _, _, _, _, rfl⟩

lemma receives_respond (s : Session) (id : Option RequestId)
    (outcome : Except RemoteError Json) :
    Receives s (s.respond id outcome) := by
  cases id with
  | none => exact Receives.refl s
  | some id => exact (spends_send s _).receives

lemma receives_settle (s : Session) (m : Method) (outcome : Except RemoteError Json) :
    Receives s (s.settle m outcome).1 := by
  rw [settle]
  split
  · split_ifs
    · exact ⟨_, _, _, _, _, _, _, rfl⟩
    · exact Receives.refl s
  · exact Receives.refl s

lemma receives_receiveResponse (s : Session) (id : RequestId)
    (outcome : Except RemoteError Json) :
    Receives s (s.receiveResponse id outcome) := by
  have hstruck : ∀ f, Receives s (s.modifyConnection f) := fun f => ⟨_, _, _, _, _, _, _, rfl⟩
  rw [receiveResponse]
  split
  · exact Receives.refl s
  · split
    · rw [finish]
      dsimp only
      split_ifs
      · exact ((hstruck fun c => { c with pending := without id c.pending }).trans
          (receives_settle _ _ outcome)).trans ⟨_, _, _, _, _, _, _, rfl⟩
      · exact (hstruck fun c => { c with pending := without id c.pending }).trans
          (receives_settle _ _ outcome)
    · exact (hstruck fun c => { c with abandoned := without id c.abandoned }).trans
        (receives_settle _ _ outcome)
    · exact Receives.refl s

lemma receives_receiveMalformed (s : Session) (e : DecodeError) :
    Receives s (s.receiveMalformed e) := by
  rw [receiveMalformed]
  split
  · exact Receives.refl s
  · exact (spends_send s _).receives
  · split
    · exact Receives.refl s
    · split
      · exact Receives.refl s
      · dsimp only
        split_ifs <;> exact ⟨_, _, _, _, _, _, _, rfl⟩

lemma receives_receiveInteraction (s : Session) (args : List Json) (kwargs : Members) :
    Receives s (s.receiveInteraction args kwargs) := by
  rw [receiveInteraction]
  split
  · exact Receives.refl s
  · next c _ =>
    have hstopped : ∀ (c : Connection) (location : Option Location),
        Receives s { s with connection := some c, location } :=
          fun _ _ => ⟨_, _, _, _, _, _, _, rfl⟩
    dsimp only
    split_ifs
    · exact (hstopped _ _).trans (spends_tell _ .resume []).receives
    · exact (hstopped _ _).trans (spends_tell _ .resume []).receives
    · exact hstopped _ _
    · exact hstopped _ _
    · exact hstopped _ _
    · exact (hstopped _ _).trans ⟨_, _, _, _, _, _, _, rfl⟩

/-- A call changes no more than what a session receives. -/
lemma receives_receiveCall (s : Session) (id : Option RequestId) (method : String)
    (args : List Json) (kwargs : Members) :
    Receives s (s.receiveCall id method args kwargs) := by
  have htold : ∀ e, Receives s (s.publish e) := fun _ => ⟨_, _, _, _, _, _, _, rfl⟩
  unfold receiveCall
  split
  · exact receives_respond s id _
  · exact (spends_receiveStartup s id).receives
  · cases id with
    | none => exact Receives.refl s
    | some id => exact ⟨_, _, _, _, _, _, _, rfl⟩
  · exact (receives_receiveInteraction s args kwargs).trans (receives_respond _ id _)
  · exact (htold _).trans (receives_respond _ id _)
  · have hraised : Receives s (s.receiveException args) := ⟨_, _, _, _, _, _, _, rfl⟩
    exact hraised.trans (receives_respond _ id _)
  · exact receives_respond s id _

/-- A payload changes no more than what a session receives. -/
lemma receives_receiveFrame (s : Session) (payload : Bytes) :
    Receives s (s.receiveFrame payload) := by
  rw [receiveFrame]
  split
  · exact Receives.refl s
  · split
    · next r _ =>
      cases r with
      | response id outcome => exact receives_receiveResponse s id outcome
      | notification method args kwargs => exact receives_receiveCall s none method args kwargs
      | request id method args kwargs =>
        exact receives_receiveCall s (some id) method args kwargs
    · exact receives_receiveMalformed s _

/-- The connection `n` was given up, and those that begin later are other ones. -/
structure Bygone (n : Nat) (s : Session) : Prop where
  counted : n ≤ s.epoch
  gone : s.connection.map Connection.epoch ≠ some n

/-- A connection is bygone once the session is detached. -/
lemma bygone_of_detached (h : s.connection = none) (hn : n ≤ s.epoch) : Bygone n s := by
  refine ⟨hn, ?_⟩
  rw [h]
  exact nofun

/-- A bygone connection stays so, if no connection begins. -/
lemma Bygone.mono (h : Bygone n s) (hepoch : s'.epoch = s.epoch)
    (hconnection : ∀ k, s'.connection.map Connection.epoch = some k →
      s.connection.map Connection.epoch = some k) : Bygone n s' :=
  ⟨hepoch ▸ h.counted, fun hn => h.gone (hconnection n hn)⟩

lemma Bygone.modifyConnection (h : Bygone n s) {f : Connection → Connection}
    (hf : ∀ c, (f c).epoch = c.epoch) : Bygone n (s.modifyConnection f) := by
  refine h.mono rfl fun k hk => ?_
  rw [Session.modifyConnection, Option.map_map] at hk
  rw [← hk]
  congr 1
  exact funext fun c => (hf c).symm

lemma Bygone.detach (h : Bygone n s) : Bygone n s.detach := by
  obtain ⟨_, _, _, _, heq⟩ := spends_detach s
  refine h.mono (heq ▸ rfl) fun k hk => ?_
  rw [connection_detach] at hk
  cases hk

lemma Bygone.send (h : Bygone n s) (r : Record) : Bygone n (s.send r).1 := by
  rcases send_eq s r with ⟨-, room, heq⟩ | ⟨e, heq⟩
  · rw [heq]
    have hwritten : Bygone n (s.withLetter r) := ⟨h.counted, h.gone⟩
    exact hwritten.modifyConnection fun _ => rfl
  · rw [heq]
    exact h.detach

lemma Bygone.hush (h : Bygone n s) : Bygone n { s with reply := none } := ⟨h.counted, h.gone⟩

lemma Bygone.ask (h : Bygone n s) (m : Method) (args : List Json) :
    Bygone n (s.ask m args).1 := by
  have hnext : Bygone n { s with reply := none, nextId := s.nextId + 1 } := ⟨h.counted, h.gone⟩
  have hregistered : Bygone n ({ s with reply := none }.register m true) :=
    hnext.modifyConnection fun _ => rfl
  have hsent := hregistered.send (.ask s.nextId m args)
  rw [Session.ask]
  split
  · next hs' =>
    rw [hs'] at hsent
    exact hsent
  · next hs' =>
    rw [hs'] at hsent
    exact hsent.hush

/-- No payload brings back a bygone connection. -/
lemma Bygone.receiveFrame (h : Bygone n s) (hattached : s.isAttached) (payload : Bytes) :
    Bygone n (s.receiveFrame payload) := by
  obtain ⟨_, _, _, _, _, _, _, heq⟩ := receives_receiveFrame s payload
  refine h.mono (heq ▸ rfl) fun k hk => ?_
  have hposture : ∀ s : Session, s.connection.map Connection.epoch
      = s.outlook.posture.map Posture.epoch := by
    intro s
    rw [outlook, Option.map_map]
    rfl
  have hmove : ∀ m, (s.outlook.after m).posture.map Posture.epoch
      = s.outlook.posture.map Posture.epoch := by
    intro m
    cases m <;> cases ho : s.outlook.posture <;> simp [Outlook.after, ho]
  rw [hposture] at hk ⊢
  rcases steady_receiveFrame hattached payload with hsteady | hsteady
  · rw [← hmove, ← hsteady]
    exact hk
  · rw [hsteady, Outlook.posture_close] at hk
    cases hk

lemma Bygone.endWait (h : Bygone n s) (id : RequestId) (m : Method) :
    Bygone n (s.endWait id m).1 := by
  rw [Session.endWait, takeReply]
  cases s.reply with
  | some answer => exact h.hush
  | none =>
    dsimp only
    rw [giveUp]
    dsimp only
    split
    · exact h.hush
    · have hstruck : Bygone n ({ s with reply := none }.modifyConnection fun c =>
          { c with pending := without id c.pending }) := h.hush.modifyConnection fun _ => rfl
      exact hstruck.modifyConnection fun _ => rfl

lemma Bygone.provideInput (h : Bygone n s) (text : String) :
    Bygone n (s.provideInput text).1 := by
  rw [Session.provideInput]
  cases hc : s.connection with
  | none => exact h
  | some c =>
    dsimp only
    cases c.inputRequest with
    | none => exact h
    | some request =>
      have hgiven : Bygone n
          { s with
            connection := some { c with inputRequest := none, interaction := request.2 } } := by
        refine h.mono rfl fun k hk => ?_
        rw [hc]
        exact hk
      exact hgiven.send _

/-- No operation brings back a bygone connection. -/
lemma lasting_bygone (n : Nat) : Lasting fun s s' => Bygone n s → Bygone n s' where
  refl _ h := h
  trans h h' hs := h' (h hs)
  ask s m args _ h := h.ask m args
  notify s m h := h.send (.notify m)
  detach s h := h.detach
  breakpoints s _ h := ⟨h.counted, h.gone⟩
  suppress s _ h := h.modifyConnection fun _ => rfl
  relent s h := h.modifyConnection fun _ => rfl
  quitting s h := h.modifyConnection fun _ => rfl
  connected s remote h := by
    refine ⟨Nat.le_succ_of_le h.counted, fun hn => ?_⟩
    have hnew : s.epoch + 1 = n := Option.some.inj hn
    have hcounted := h.counted
    rw [← hnew] at hcounted
    exact Nat.not_succ_le_self s.epoch hcounted
  endWait s id m h := h.endWait id m
  room s _ h := h.modifyConnection fun _ => rfl

end Session

namespace Engine

variable {e : Engine} {n : Nat}

open Session

lemma bygone_step (h : Bygone n e.session) (network : Network) (input : Input) :
    Bygone n (e.step network input).1.session := by
  refine step_lasting (lasting_bygone n) network ?_ ?_ ?_ h
  · rintro bytes - h
    refine receiveBytes_induct (fun s inbox h => h.modifyConnection fun _ => rfl)
      (fun s h => h.detach) ?_ h
    intro m hm h
    have hmet : m ∈ e.meetings (.bytes bytes) := hm
    exact h.receiveFrame (isAttached_of_mem_meetings hmet) m.2
  · exact fun text _ h => h.provideInput text
  · exact fun _ _ _ _ s h => h.ask .resume []

lemma bygone_run (h : Bygone n e.session) (run : List (Network × Input)) :
    Bygone n (e.run run).1.session := by
  induction run generalizing e with
  | nil => exact h
  | cons i run ih => exact ih (bygone_step h i.1 i.2)

end Engine

end RemoteDebugger
