import RemoteDebugger.Proofs.Session.Ending
import RemoteDebugger.Proofs.Session.Correlation
import RemoteDebugger.Proofs.Wire.Delivery

/-!
# The stream of an agent

Whatever bytes an agent sends, and however they are divided, its session handles the frames that
can be received from them, each once and in order, until a receive fails. Then the connection is
gone, and a command that waits knows it.
-/

namespace RemoteDebugger

/-! ### The beginning of a frame -/

namespace Books

variable {b b' : Books} {P : Bytes → Prop}

/-- Something holds of what there is of the next frame, if there is a connection. -/
def InboxIs (P : Bytes → Prop) (b : Books) : Prop := ∀ t, b.table = some t → P t.inbox

/-- The connection is gone, or what there is of the next frame is as it was. -/
def KeepsInbox (b b' : Books) : Prop :=
  b'.table = none ∨ b'.table.map Table.inbox = b.table.map Table.inbox

/-- Where the inbox is kept, what is known of it is known. -/
lemma KeepsInbox.inboxIs (h : KeepsInbox b b') (hb : b.InboxIs P) : b'.InboxIs P := by
  intro t' ht'
  rcases h with hnone | hsame
  · rw [hnone] at ht'
    cases ht'
  · rw [ht', Option.map_some, eq_comm] at hsame
    obtain ⟨t, ht, heq⟩ := Option.map_eq_some_iff.mp hsame
    rw [← heq]
    exact hb t ht

lemma keepsInbox_of_map {f : Table → Table} (h : b'.table = b.table.map f)
    (hf : ∀ t, (f t).inbox = t.inbox) :
    KeepsInbox b b' := by
  right
  rw [h, Option.map_map]
  exact congrArg (b.table.map ·) (funext hf)

lemma KeepsInbox.deliver (h : KeepsInbox b b') (awaited : Bool) (a : Answer) :
    KeepsInbox b (b'.deliver awaited a) := by
  cases awaited <;> exact h

lemma inboxIs_keep {inbox : Bytes} (h : P inbox) (b : Books) : (b.keep inbox).InboxIs P := by
  intro t ht
  obtain ⟨u, -, rfl⟩ := Option.map_eq_some_iff.mp ht
  exact h

lemma inboxIs_close (b : Books) : b.close.InboxIs P := by
  intro t ht
  rw [table_close] at ht
  cases ht

end Books

namespace Session

open Books

variable {s : Session} {P : Bytes → Prop}

/-- A payload leaves alone what there is of the next frame, unless the connection ends. -/
lemma OnFrame.keepsInbox {b b' : Books} {payload : Bytes} (h : OnFrame b payload b') :
    KeepsInbox b b' := by
  cases h with
  | answer _ =>
    simp only [Books.answer]
    split
    · apply KeepsInbox.deliver
      exact keepsInbox_of_map rfl fun _ => rfl
    · exact keepsInbox_of_map rfl fun _ => rfl
  | reject _ _ =>
    simp only [Books.reject]
    split
    · apply KeepsInbox.deliver
      exact keepsInbox_of_map rfl fun _ => rfl
    · exact .inr rfl
  | calm _ hcalm => exact hcalm.inbox

/-- The session that has taken up what there was of a frame. -/
def between (s : Session) : Session := s.modifyConnection ({ · with inbox := [] })

lemma books_between (s : Session) : s.between.books = s.books.keep [] :=
  books_modifyConnection fun _ => rfl

lemma between_of_connection {c : Connection} (hc : s.connection = some c) :
    s.between = { s with connection := some { c with inbox := [] } } := by
  rw [between, modifyConnection, hc, Option.map_some]

/-- Between two frames there is nothing of a next one. -/
lemma between_of_inboxIs (h : s.books.InboxIs (· = [])) : s.between = s := by
  cases hc : s.connection with
  | none => rw [between, modifyConnection, hc, Option.map_none, ← hc]
  | some c =>
    have hinbox : c.inbox = [] := h c.table (congrArg (Option.map _) hc)
    rw [between_of_connection hc, ← hinbox, ← hc]

lemma between_leave_some (s : Session) (inbox : Bytes) :
    (s.leave (some inbox)).between = s.between := by
  rw [leave, between, between, modifyConnection, modifyConnection, modifyConnection,
    Option.map_map]
  rfl

/-- Frames are handled between frames. -/
lemma between_foldl_receiveFrame (s : Session) (ps : List Bytes) :
    (ps.foldl receiveFrame s.between).between = ps.foldl receiveFrame s.between := by
  apply between_of_inboxIs
  refine foldl_receiveFrame_induct (P := fun s => s.books.InboxIs (· = [])) ?_ ?_
  · intro m hm
    exact (onFrame_receiveFrame (isAttached_of_mem_meetings hm) m.2).keepsInbox.inboxIs
  · rw [books_between]
    exact inboxIs_keep (P := (· = [])) rfl s.books

lemma inboxIs_modifyConnection {f : Connection → Connection} (hf : ∀ c, (f c).table = c.table)
    (h : s.books.InboxIs P) : (s.modifyConnection f).books.InboxIs P := by
  rw [books_modifyConnection_of_eq hf]
  exact h

lemma keepsInbox_ask (s : Session) (m : Method) (args : List Json) :
    KeepsInbox s.books (s.ask m args).1.books := by
  rcases ask_cases s m args with ⟨-, -, hbooks⟩ | ⟨-, hbooks⟩ <;> rw [hbooks]
  · exact keepsInbox_of_map rfl fun _ => rfl
  · exact .inl (table_close s.books)

/-- Only what the agent sends brings the beginning of a frame, and a connection begins without
one. -/
lemma lasting_inboxIs (hnil : P []) :
    Lasting fun s s' => s.books.InboxIs P → s'.books.InboxIs P where
  refl _ h := h
  trans h h' hs := h' (h hs)
  ask s m args _ := (keepsInbox_ask s m args).inboxIs
  notify s m := KeepsInbox.inboxIs (calm_send (r := .notify m) rfl).inbox
  detach s _ := by
    rw [books_detach]
    exact inboxIs_close s.books
  breakpoints _ _ hs := hs
  suppress _ _ := inboxIs_modifyConnection fun _ => rfl
  relent _ := inboxIs_modifyConnection fun _ => rfl
  quitting _ := inboxIs_modifyConnection fun _ => rfl
  connected s remote _ := by
    intro t ht
    cases ht
    exact hnil
  endWait s id m := by
    apply KeepsInbox.inboxIs
    rw [(endWait_eq s id m).2]
    split
    · exact keepsInbox_of_map rfl fun _ => rfl
    · exact .inr rfl
  room _ _ := inboxIs_modifyConnection fun _ => rfl

/-- What there is of the next frame after some bytes is less than the whole of it. -/
lemma inboxIs_receiveBytes {c : Connection} (hc : s.connection = some c) (bytes : Bytes) :
    (s.receiveBytes bytes).books.InboxIs (Frame.head Frame.defaultLimit · = .incomplete) := by
  rw [receiveBytes_eq hc]
  cases htail : (Frame.cut Frame.defaultLimit (c.inbox ++ bytes)).2 with
  | none =>
    rw [books_leave_none]
    exact inboxIs_close _
  | some inbox =>
    rw [books_leave_some]
    exact inboxIs_keep (Frame.head_of_cut htail) _

/-- As long as the agent has room for what is to be written, all payloads are handled. -/
lemma meetings_of_takes {ps : List Bytes} (hattached : s.isAttached)
    (h : ∀ m ∈ s.meetings ps, m.1.takes (m.1.outgoing m.2)) :
    (s.meetings ps).map Prod.snd = ps ∧ s.outlasts ps := by
  induction ps generalizing s with
  | nil => exact ⟨rfl, rfl⟩
  | cons p ps ih =>
    rw [meetings_cons hattached] at h ⊢
    obtain ⟨hfirst, hrest⟩ := List.forall_mem_cons.mp h
    have hnext : (s.receiveFrame p).isAttached := by
      rw [(writes_receiveFrame hattached p).isAttached hattached]
      exact hfirst
    obtain ⟨hall, houtlasts⟩ := ih hnext hrest
    refine ⟨?_, ?_⟩
    · rw [List.map_cons, hall]
    · rw [outlasts, hnext, houtlasts]
      rfl

end Session

namespace Engine

open Session

variable {e : Engine}

/-- The agent has room for all that is to be written on account of the payloads that come. -/
def Accepts (e : Engine) (input : Input) :
    Prop := ∀ m ∈ e.meetings input, m.1.takes (m.1.outgoing m.2)

instance (e : Engine) (input : Input) : Decidable (e.Accepts input) :=
  inferInstanceAs (Decidable (∀ m ∈ e.meetings input, m.1.takes (m.1.outgoing m.2)))

/-- What there is of the next frame is always less than the whole of it. -/
lemma inboxIs_run (config : SessionConfig) (run : List (Network × Input)) :
    (Engine.run { session := { config } } run).1.session.books.InboxIs
      (Frame.head Frame.defaultLimit · = .incomplete) := by
  have hnew : ({ session := { config } } : Engine).session.books.InboxIs
      (Frame.head Frame.defaultLimit · = .incomplete) := fun _ ht => nomatch ht
  generalize ({ session := { config } } : Engine) = e at hnew
  induction run generalizing e with
  | nil => exact hnew
  | cons i is ih =>
    apply ih
    have hlasting := lasting_inboxIs (P := (Frame.head Frame.defaultLimit · = .incomplete)) rfl
    refine step_lasting hlasting i.1 ?_ ?_ ?_ hnew
    · intro bytes _ h
      cases hc : e.session.connection with
      | none =>
        rw [receiveBytes, hc]
        exact h
      | some c => exact inboxIs_receiveBytes hc bytes
    · exact fun text _ => Books.KeepsInbox.inboxIs (calm_provideInput e.session text).inbox
    · exact fun _ _ _ _ s => (keepsInbox_ask s .resume []).inboxIs

/-- Without a connection, bytes are ignored. -/
lemma run_bytes_of_detached (h : e.session.connection = none) (network : Network)
    (chunks : List Bytes) :
    (e.run (chunks.map fun bytes => (network, .bytes bytes))).1 = e ∧
      e.heard (chunks.map fun bytes => (network, .bytes bytes)) = [] := by
  have hstep : ∀ bytes, (e.step network (.bytes bytes)).1 = e := by
    intro bytes
    show e.modify (·.receiveBytes bytes) = e
    rw [modify, receiveBytes, h]
  have hmeetings : ∀ bytes, e.meetings (.bytes bytes) = [] := by
    intro bytes
    show e.session.meetingsIn bytes = []
    rw [meetingsIn, h]
  induction chunks with
  | nil => exact ⟨rfl, rfl⟩
  | cons bytes chunks ih =>
    rw [List.map_cons, heard, hmeetings, hstep]
    show ((e.step network (.bytes bytes)).1.run _).1 = e ∧ _
    rw [hstep]
    exact ih

/-- Bytes are handled as the payloads that they are cut into, with what was there before them. -/
lemma modify_receiveBytes {c : Connection} (hc : e.session.connection = some c)
    (network : Network) (bytes : Bytes) : (e.step network (.bytes bytes)).1.session
      = ((Frame.cut Frame.defaultLimit (c.inbox ++ bytes)).1.foldl receiveFrame
          e.session.between).leave (Frame.cut Frame.defaultLimit (c.inbox ++ bytes)).2 := by
  rw [between_of_connection hc]
  exact receiveBytes_eq hc bytes

/-- The payloads that are met are those that the bytes are cut into. -/
lemma meetings_bytes {c : Connection} (hc : e.session.connection = some c) (bytes : Bytes) :
    e.meetings (.bytes bytes)
      = e.session.between.meetings (Frame.cut Frame.defaultLimit (c.inbox ++ bytes)).1 := by
  rw [between_of_connection hc, meetings, meetingsIn, hc]

/-- The first payload, if there is one, meets the session as it is between frames. -/
lemma meetings_eq_between (e : Engine) (input : Input) :
    ∃ ps, e.meetings input = e.session.between.meetings ps := by
  cases input with
  | bytes bytes =>
    cases hc : e.session.connection with
    | none =>
      refine ⟨[], ?_⟩
      show e.session.meetingsIn bytes = []
      rw [meetingsIn, hc]
    | some c => exact ⟨_, meetings_bytes hc bytes⟩
  | _ => exact ⟨[], rfl⟩

/-- Whole frames are met one after the other. -/
lemma meetings_frames (hinbox : e.inbox? = some []) {ps : List Bytes}
    (hps : ∀ p ∈ ps, p.length < 2 ^ 64 ∧ p.length ≤ Frame.defaultLimit) :
    e.meetings (.bytes (ps.flatMap Frame.encode)) = e.session.between.meetings ps := by
  obtain ⟨c, hc, hempty⟩ := Option.map_eq_some_iff.mp hinbox
  rw [meetings_bytes hc, hempty, List.nil_append, Frame.cut_flatMap_encode hps]

/-- However bytes are divided, the frames that they are cut into are handled one after the other,
as long as the agent has room for what is to be written. -/
lemma run_bytes {c : Connection} (hc : e.session.connection = some c)
    (hinbox : Frame.head Frame.defaultLimit c.inbox = .incomplete) (network : Network)
    {chunks : List Bytes}
    (h : Always Accepts e (chunks.map fun bytes => (network, .bytes bytes))) :
    (e.run (chunks.map fun bytes => (network, .bytes bytes))).1.session
        = ((Frame.cut Frame.defaultLimit (c.inbox ++ chunks.flatten)).1.foldl receiveFrame
            e.session.between).leave
              (Frame.cut Frame.defaultLimit (c.inbox ++ chunks.flatten)).2 ∧
      e.heard (chunks.map fun bytes => (network, .bytes bytes))
        = (Frame.cut Frame.defaultLimit (c.inbox ++ chunks.flatten)).1 := by
  induction chunks generalizing e c with
  | nil =>
    rw [List.flatten_nil, List.append_nil, Frame.cut_of_incomplete hinbox]
    refine ⟨?_, rfl⟩
    rw [between_of_connection hc]
    show e.session = { e.session with connection := some c }
    rw [← hc]
  | cons bytes chunks ih =>
    obtain ⟨haccepts, hrest⟩ := h
    have hstep := modify_receiveBytes hc network bytes
    rw [Accepts, meetings_bytes hc] at haccepts
    have hattached : e.session.between.isAttached := by
      rw [between_of_connection hc]
      rfl
    have hmet := (meetings_of_takes hattached haccepts).1
    have hstands : ((Frame.cut Frame.defaultLimit (c.inbox ++ bytes)).1.foldl receiveFrame
        e.session.between).isAttached := by
      rw [isAttached_foldl_receiveFrame hattached, List.all_eq_true]
      exact haccepts
    rw [List.map_cons, heard, meetings_bytes hc, hmet, List.flatten_cons, ← List.append_assoc,
      Frame.cut_append _ (c.inbox ++ bytes)]
    show ((e.step network (.bytes bytes)).1.run _).1.session = _ ∧ _
    -- a frame was broken and the rest is ignored, or the rest begins with what is left
    cases htail : (Frame.cut Frame.defaultLimit (c.inbox ++ bytes)).2 with
    | none =>
      rw [htail] at hstep
      have hgone : (e.step network (.bytes bytes)).1.session.connection = none := by
        rw [hstep]
        exact connection_of_detached (Bool.eq_false_iff.mp (isAttached_detach _))
      obtain ⟨hrun, hheard⟩ := run_bytes_of_detached hgone network chunks
      rw [hrun, hheard, List.append_nil]
      exact ⟨hstep, rfl⟩
    | some tail =>
      rw [htail] at hstep
      obtain ⟨c', hc'⟩ := Option.isSome_iff_exists.mp hstands
      have hnext : (e.step network (.bytes bytes)).1.session.connection
          = some { c' with inbox := tail } := by
        rw [hstep, leave, modifyConnection, hc', Option.map_some]
      have hbetween : (e.step network (.bytes bytes)).1.session.between
          = (Frame.cut Frame.defaultLimit (c.inbox ++ bytes)).1.foldl receiveFrame
            e.session.between := by
        rw [hstep, between_leave_some, between_foldl_receiveFrame]
      obtain ⟨hrun, hheard⟩ := ih hnext (Frame.head_of_cut htail) hrest
      rw [hrun, hheard, hbetween]
      dsimp only
      rw [List.foldl_append]
      exact ⟨rfl, rfl⟩

/-! ### The end of a stream -/

lemma run_append (e : Engine) (is js : List (Network × Input)) :
    (e.run (is ++ js)).1 = ((e.run is).1.run js).1 := by
  induction is generalizing e with
  | nil => rfl
  | cons i is ih => exact ih (e.step i.1 i.2).1

lemma heard_ended (e : Engine) (is : List (Network × Input)) (network : Network) :
    e.heard (is ++ [(network, .endOfStream)]) = e.heard is := by
  induction is generalizing e with
  | nil => rfl
  | cons i is ih => rw [List.cons_append, heard, heard, ih]

/-- Nothing is heard after the end of a stream. -/
lemma listen_ended (inbox? : Option Bytes) (is : List (Network × Input)) (network : Network) :
    listen inbox? (is ++ [(network, .endOfStream)]) = ((listen inbox? is).1, none) := by
  induction is generalizing inbox? with
  | nil => cases inbox? <;> rfl
  | cons i is ih =>
    cases inbox? with
    | none => rfl
    | some inbox => rw [List.cons_append, listen, listen, ih]

/-- What is left of a frame is gone as the session is detached. -/
lemma detach_leave (s : Session) (tail : Option Bytes) : (s.leave tail).detach = s.detach := by
  cases tail with
  | none =>
    -- a session without a connection has none to lose
    exact leave_of_detached
      (connection_of_detached (Bool.eq_false_iff.mp (isAttached_detach s))) none
  | some inbox =>
    cases hc : s.connection with
    | none => rw [leave_of_detached hc]
    | some c =>
      have hleft : (s.leave (some inbox)) = { s with connection := some { c with inbox } } := by
        rw [leave, modifyConnection, hc, Option.map_some]
      rw [hleft, detach, detach, hc]
      dsimp only
      cases c.pending.any (·.2.awaited) <;> rfl

/-- If the session stands over what is sent, its writes succeed. -/
lemma writesSucceed_of_accepts {network : Network} {chunks : List Bytes}
    (h : Always Accepts e (chunks.map fun bytes => (network, .bytes bytes))) :
    e.writesSucceed
      (chunks.map (fun bytes => (network, .bytes bytes)) ++ [(network, .endOfStream)]) := by
  induction chunks generalizing e with
  | nil => rfl
  | cons bytes chunks ih =>
    obtain ⟨haccepts, hrest⟩ := h
    refine Bool.and_eq_true_iff.mpr ⟨?_, ih hrest⟩
    rw [writeSucceeds]
    split
    · rfl
    · next c hc =>
      rw [Accepts, meetings_bytes hc, between_of_connection hc] at haccepts
      exact (meetings_of_takes rfl haccepts).2

/-- A stream that is accepted disturbs no wait. -/
lemma undisturbed_of_accepts {network : Network} {chunks : List Bytes}
    (h : Always Accepts e (chunks.map fun bytes => (network, .bytes bytes))) :
    e.Undisturbed (chunks.map (fun bytes => (network, .bytes bytes)) ++
      [(network, .endOfStream)]) where
  waits := by
    intro i hi
    rcases List.mem_append.mp hi with hi | hi
    · obtain ⟨bytes, -, rfl⟩ := List.mem_map.mp hi
      exact nofun
    · rw [List.mem_singleton.mp hi]
      exact nofun
  writes := writesSucceed_of_accepts h

/-- Whatever an attached session's agent sends before its stream ends, and however it is divided,
as long as it takes what is written to it: the session handles the payloads that are received
until a receive fails, each once and in order. Then the connection and its tables are gone, and a
command that waited has the answer that the first of the payloads gave it, or else is told that
the connection is gone. -/
theorem stream_handled (config : SessionConfig) (run : List (Network × Input)) (e : Engine)
    (he : (Engine.run { session := { config } } run).1 = e) (inbox : Bytes)
    (hattached : e.inbox? = some inbox) (network : Network) (chunks : List Bytes)
    (haccepts : Always Accepts e (chunks.map fun bytes => (network, .bytes bytes))) :
    let stream := chunks.map (fun bytes => (network, .bytes bytes)) ++ [(network, .endOfStream)]
    let after := (e.run stream).1
    ∃ ps f, Frame.receiveTimes Frame.defaultLimit (ps.length + 1) (inbox ++ chunks.flatten)
          = ps.map .ok ++ [.error f] ∧
      e.heard stream = ps ∧
      after.session = (ps.foldl receiveFrame e.session.between).detach ∧
      after.session.state = .detached ∧ after.session.pending = [] ∧
        after.session.abandoned = [] ∧
      ∀ n method goal, e.task = some (.answer n method goal) → after.task = e.task ∧
        after.session.reply
          = some ((e.session.reply.or (ps.findSome? (verdict? n method))).getD
            (.error .disconnected)) := by
  intro stream after
  obtain ⟨c, hc, rfl⟩ := Option.map_eq_some_iff.mp hattached
  have hinbox : Frame.head Frame.defaultLimit c.inbox = .incomplete := by
    apply inboxIs_run config run c.table
    rw [he, books, hc, Option.map_some]
  obtain ⟨hrun, hheard⟩ := run_bytes hc hinbox network haccepts
  obtain ⟨f, hreceived⟩ := Frame.receiveTimes_cut Frame.defaultLimit (c.inbox ++ chunks.flatten)
  have hsession : after.session
      = ((Frame.cut Frame.defaultLimit (c.inbox ++ chunks.flatten)).1.foldl
          receiveFrame e.session.between).detach := by
    show (e.run stream).1.session = _
    rw [run_append]
    show (e.run _).1.session.detach = _
    rw [hrun, detach_leave]
  have hgone : after.session.connection = none := by
    rw [hsession]
    exact connection_of_detached (Bool.eq_false_iff.mp (isAttached_detach _))
  refine ⟨_, f, hreceived, (heard_ended e _ network).trans hheard, hsession, ?_, ?_, ?_, ?_⟩
  · rw [state, hgone]
  · rw [pending, hgone]
    rfl
  · rw [abandoned, hgone]
    rfl
  · -- who waits hears the first payload that concerns it, or that the connection ended
    intro n method goal ht
    have hundisturbed := undisturbed_of_accepts haccepts
    have hreply := reply_run (he ▸ (sound_new config).run run) ht hundisturbed
    refine ⟨(run_task ht hundisturbed.waits).1.trans ht.symm, ?_⟩
    rw [hattached, listen_ended, listen_bytes hinbox, replyTo] at hreply
    refine hreply.trans ?_
    have hbooks : e.session.books.reply = e.session.reply := rfl
    cases e.session.reply <;>
      cases (Frame.cut Frame.defaultLimit (c.inbox ++ chunks.flatten)).1.findSome?
        (verdict? n method) <;> rfl

/-- A byte that is no record comes in two pieces, and after it what is no header. The step that
waits is told that the connection is gone. -/
theorem stream_handled_stepping :
    let stream := [[0, 0], [0, 1, 255, 128], [0, 0, 0, 7]].map
      (fun bytes => (Network.nowhere, Input.bytes bytes)) ++ [(Network.nowhere, .endOfStream)]
    stepping.heard stream = [[255]] ∧ (stepping.run stream).1.session.state = .detached ∧
      (stepping.run stream).1.session.reply = some (.error .disconnected) := by
  have haccepts : Always Accepts stepping
      ([[0, 0], [0, 1, 255, 128], [0, 0, 0, 7]].map fun bytes =>
        (Network.nowhere, .bytes bytes)) := by
    decide +kernel
  obtain ⟨ps, f, -, hheard, -, hstate, -, -, hreply⟩ :=
    stream_handled {} _ stepping rfl [] (by decide +kernel)
    Network.nowhere [[0, 0], [0, 1, 255, 128], [0, 0, 0, 7]] haccepts
  have hps : ps = [[255]] := by
    rw [← hheard]
    decide +kernel
  have hnone : stepping.session.reply = none := Option.isNone_iff_eq_none.mp (by decide +kernel)
  refine ⟨hheard.trans hps, hstate, ?_⟩
  rw [(hreply 1 .step .unit stepping_task).2, hps, hnone]
  rfl

end Engine

end RemoteDebugger
