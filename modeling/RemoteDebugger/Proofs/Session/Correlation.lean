import RemoteDebugger.Proofs.Session.Run

/-!
# Answers and the requests they belong to

Requests are written with increasing numbers over the whole of a run. What a wait for an answer
comes to is settled by the first frame that says something to the request that is waited for; any
other frames may come before or after it.
-/

namespace RemoteDebugger

open Books

namespace Session

/-- Whether the connection outlasts the frames, so that whatever was to be written on account of
them was. -/
def outlasts (s : Session) : List Bytes → Bool
  | []      => true
  | p :: ps => (s.receiveFrame p).isAttached && (s.receiveFrame p).outlasts ps

end Session

namespace Engine

/-! ### What is heard during a wait -/

/-- The frames that come with something that happens, and what is there of one more frame if the
connection still stands. -/
def hear (inbox : Bytes) : Input → List Bytes × Option Bytes
  | .bytes bytes                  => Frame.cut Frame.defaultLimit (inbox ++ bytes)
  | .endOfStream | .start .detach => ([], none)
  | .frameTimeout                 => ([], if inbox.isEmpty then some inbox else none)
  | _                             => ([], some inbox)

/-- The frames that come while things happen, as long as the connection stands, and what is there
of one more frame at the end. -/
def listen : Option Bytes → List (Network × Input) → List Bytes × Option Bytes
  | none,       _       => ([], none)
  | some inbox, []      => ([], some inbox)
  | some inbox, i :: is =>
    ((hear inbox i.2).1 ++ (listen (hear inbox i.2).2 is).1, (listen (hear inbox i.2).2 is).2)

/-- What is there of a frame when the wait begins. -/
def inbox? (e : Engine) : Option Bytes := e.session.connection.map Connection.inbox

/-- Bytes that come in several chunks are heard as the bytes that they are together. -/
lemma listen_bytes {inbox : Bytes} (h : Frame.head Frame.defaultLimit inbox = .incomplete)
    (network : Network) (chunks : List Bytes) :
    listen (some inbox) (chunks.map fun bytes => (network, .bytes bytes))
      = Frame.cut Frame.defaultLimit (inbox ++ chunks.flatten) := by
  induction chunks generalizing inbox with
  | nil =>
    rw [List.flatten_nil, List.append_nil, Frame.cut_of_incomplete h]
    rfl
  | cons bytes chunks ih =>
    rw [List.map_cons, listen, hear, List.flatten_cons, ← List.append_assoc,
      Frame.cut_append _ (inbox ++ bytes)]
    cases htail : (Frame.cut Frame.defaultLimit (inbox ++ bytes)).2 with
    | none => simp [listen]
    | some tail => rw [ih (Frame.head_of_cut htail)]

/-- The frames that the agent sends are heard, however their bytes are divided. -/
theorem listen_frames {ps : List Bytes} (hps : ∀ p ∈ ps, p.length ≤ Frame.defaultLimit)
    (network : Network) {chunks : List Bytes}
    (hchunks : chunks.flatten = ps.flatMap Frame.encode) :
    listen (some []) (chunks.map fun bytes => (network, .bytes bytes)) = (ps, some []) := by
  have hsize : ∀ p ∈ ps, p.length < 2 ^ 64 ∧ p.length ≤ Frame.defaultLimit :=
    fun p hp => ⟨Nat.lt_of_le_of_lt (hps p hp) (by decide), hps p hp⟩
  rw [listen_bytes rfl, hchunks, List.nil_append, Frame.cut_flatMap_encode hsize]

/-- Whether everything was written that was to be written on account of something that
happens. -/
def writeSucceeds (e : Engine) (network : Network) : Input → Bool
  | .bytes bytes     =>
    match e.session.connection with
    | none   => true
    | some c => Session.outlasts { e.session with connection := some { c with inbox := [] } }
        (Frame.cut Frame.defaultLimit (c.inbox ++ bytes)).1
  | .start .detach   => true
  | .start operation =>
    !e.session.isAttached || (e.step network (.start operation)).1.session.isAttached
  | _                => true

/-- Whether everything was written that was to be written while things happen. -/
def writesSucceed (e : Engine) : List (Network × Input) → Bool
  | []      => true
  | i :: is => e.writeSucceeds i.1 i.2 && (e.step i.1 i.2).1.writesSucceed is

/-- While these things happen the wait goes on, and no write fails. -/
structure Undisturbed (e : Engine) (meanwhile : List (Network × Input)) : Prop where
  waits : ∀ i ∈ meanwhile, i.2 ≠ .wake
  writes : e.writesSucceed meanwhile

variable {n : RequestId} {method : Method} {goal : Goal} {e : Engine}

lemma isAttached_of_waits {s : Session} (h : s.books.Waits n method) : s.isAttached := by
  obtain ⟨-, t, ht, -⟩ := h
  rw [Session.isAttached_iff, ht]
  rfl

/-- While the connection stands, a command goes on waiting. -/
lemma waits_of_isAttached {s : Session} (h : s.books.Waits n method ∨ s.books.Ended)
    (hattached : s.isAttached) : s.books.Waits n method := by
  rcases h with hwaits | hended
  · exact hwaits
  · rw [Session.isAttached_iff, hended.1] at hattached
    cases hattached

/-- The first frame that says something to the command that waits is its answer. -/
lemma foldl_receiveFrame_waits {s : Session} {ps : List Bytes} (h : s.books.Waits n method)
    (hs : s.books.Sound) (hwrites : s.outlasts ps) :
    match ps.findSome? (Session.verdict? n method) with
    | some a => (ps.foldl Session.receiveFrame s).books.Answered a
    | none   => (ps.foldl Session.receiveFrame s).books.Waits n method := by
  induction ps generalizing s with
  | nil => exact h
  | cons p ps ih =>
    obtain ⟨hattached, hwrites⟩ := Bool.and_eq_true_iff.mp hwrites
    have hframe := Session.onFrame_receiveFrame (isAttached_of_waits h) p
    rw [List.findSome?_cons, List.foldl_cons]
    cases hv : Session.verdict? n method p with
    | some a => exact (h.onFrame_some hs hv hframe).hears (Session.hears_foldl_receiveFrame _ ps)
    | none =>
      have hwaits := waits_of_isAttached (h.onFrame_none hv hframe) hattached
      exact ih hwaits (hs.onFrame hframe) hwrites

/-- What something that happens comes to for the command that waits: it is answered, or it goes
on waiting, or the connection is gone. -/
def Heeds (b : Books) (n : RequestId) (method : Method) (heard : List Bytes × Option Bytes) :
    Prop :=
  match heard.1.findSome? (Session.verdict? n method), heard.2 with
  | some a, _          => b.Answered a
  | none,   some inbox => b.Waits n method ∧ b.table.map Table.inbox = some inbox
  | none,   none       => b.Answered (.error .disconnected)

/-- The first of the payloads that concerns a wait decides it, and it goes on if none does. -/
lemma heeds_stream {s : Session} (h : s.books.Waits n method) (hs : s.books.Sound)
    {heard : List Bytes × Option Bytes} (hwrites : s.outlasts heard.1) :
    Heeds ((heard.1.foldl Session.receiveFrame s).leave heard.2).books n method heard := by
  obtain ⟨ps, tail⟩ := heard
  have hframes := foldl_receiveFrame_waits h hs hwrites
  simp only [Heeds]
  dsimp only at hframes ⊢
  -- one of the payloads decides it, or the frames are broken after them, or nothing was heard
  cases hv : ps.findSome? (Session.verdict? n method) with
  | some a =>
    rw [hv] at hframes
    exact hframes.hears (Session.hears_leave _ tail)
  | none =>
    rw [hv] at hframes
    cases tail with
    | none =>
      dsimp only
      rw [Session.books_leave_none]
      exact hframes.close.answered
    | some inbox =>
      obtain ⟨t, ht, -⟩ := hframes.2
      dsimp only
      rw [Session.books_leave_some]
      refine ⟨hframes.keep inbox, ?_⟩
      rw [keep, ht]
      rfl

/-- No operation but to detach brings anything that is heard. -/
lemma hear_start {operation : Operation} (h : operation ≠ .detach) (inbox : Bytes) :
    hear inbox (.start operation) = ([], some inbox) := by
  cases operation with
  | detach => exact absurd rfl h
  | _ => rfl

/-- The writes of an operation other than to detach succeed if the connection stands after it. -/
lemma writeSucceeds_start {operation : Operation} (h : operation ≠ .detach) (e : Engine)
    (network : Network) :
    e.writeSucceeds network (.start operation)
      = (!e.session.isAttached || (e.step network (.start operation)).1.session.isAttached) := by
  cases operation with
  | detach => exact absurd rfl h
  | _ => rfl

/-- A wait goes on over the operations that begin meanwhile, unless the user detaches. -/
lemma heeds_start (ht : e.task = some (.answer n method goal))
    (hwaits : e.session.books.Waits n method) {inbox : Bytes}
    (hinbox : e.session.books.table.map Table.inbox = some inbox) (network : Network)
    {operation : Operation} (hwrites : e.writeSucceeds network (.start operation)) :
    Heeds (e.step network (.start operation)).1.session.books n method
      (hear inbox (.start operation)) := by
  by_cases hdetach : operation = .detach
  · subst hdetach
    have hclose : (e.step network (.start .detach)).1.session.books = e.session.books.close := by
      rw [Engine.step, Engine.start, ht]
      exact Session.books_detach e.session
    rw [hclose]
    exact hwaits.close.answered
  · have hattached : (e.step network (.start operation)).1.session.isAttached := by
      rw [writeSucceeds_start hdetach, isAttached_of_waits hwaits] at hwrites
      exact hwrites
    rw [hear_start hdetach]
    have hcalm : Calm e.session.books (e.step network (.start operation)).1.session.books := by
      rw [Engine.step, Engine.start, ht]
      dsimp only
      split
      · exact .refl
      · next hexclusive =>
        dsimp only
        rw [after_session]
        exact Session.calm_start e.session network (by simpa using hexclusive)
    refine ⟨waits_of_isAttached (hwaits.calm hcalm) hattached, ?_⟩
    rcases hcalm.inbox with hnone | hsame
    · rw [Session.isAttached_iff, hnone] at hattached
      cases hattached
    · exact hsame.trans hinbox

/-- A wait is decided by the first frame that concerns it, or by the end of the connection, and
by nothing else that happens meanwhile. -/
lemma heeds_step (h : e.Sound) (ht : e.task = some (.answer n method goal))
    (hwaits : e.session.books.Waits n method) {inbox : Bytes} (hinbox : e.inbox? = some inbox)
    {network : Network} {input : Input} (hwake : input ≠ .wake)
    (hwrites : e.writeSucceeds network input) :
    Heeds (e.step network input).1.session.books n method (hear inbox input) := by
  obtain ⟨c, hc, rfl⟩ := Option.map_eq_some_iff.mp hinbox
  have htable : e.session.books.table.map Table.inbox = some c.inbox := by
    simp [Session.books, hc, Connection.table]
  cases input with
  | start operation => exact heeds_start ht hwaits htable network hwrites
  | bytes bytes =>
    show Heeds (e.session.receiveBytes bytes).books n method
      (Frame.cut Frame.defaultLimit (c.inbox ++ bytes))
    rw [Session.receiveBytes_eq hc]
    apply heeds_stream
    · rw [Session.books_emptyInbox hc]
      exact hwaits.keep []
    · rw [Session.books_emptyInbox hc]
      exact h.books.keep []
    · rw [writeSucceeds, hc] at hwrites
      exact hwrites
  | endOfStream =>
    show Heeds e.session.detach.books n method ([], none)
    rw [Session.books_detach]
    exact hwaits.close.answered
  | frameTimeout =>
    show Heeds e.session.expireFrame.books n method
      ([], if c.inbox.isEmpty then some c.inbox else none)
    rw [Session.expireFrame, Session.isMidFrame, hc]
    by_cases hempty : c.inbox.isEmpty
    · rw [if_pos hempty, if_neg (by simpa using hempty)]
      exact ⟨hwaits, htable⟩
    · rw [if_neg hempty, if_pos (by simpa using hempty), Session.books_detach]
      exact hwaits.close.answered
  | wake => exact absurd rfl hwake
  | room room =>
    have hsame : (e.session.modifyConnection fun c => { c with room }).books = e.session.books :=
      Session.books_modifyConnection_of_eq fun _ => rfl
    show Heeds (e.session.modifyConnection fun c => { c with room }).books n method
      ([], some c.inbox)
    rw [hsame]
    exact ⟨hwaits, htable⟩

/-! ### Whole waits -/

lemma step_task {task : Task} (ht : e.task = some task) (network : Network) {input : Input}
    (h : input ≠ .wake) : (e.step network input).1.task = some task := by
  rw [(step_hears ht network h).1]
  exact ht

/-- An answer that came stays, whatever else happens before the wait is over. -/
lemma run_answered {task : Task} {a : Answer} (ht : e.task = some task)
    (h : e.session.books.Answered a) {meanwhile : List (Network × Input)}
    (hwaits : ∀ i ∈ meanwhile, i.2 ≠ .wake) :
    (e.run meanwhile).1.session.books.Answered a := by
  induction meanwhile generalizing e with
  | nil => exact h
  | cons i is ih =>
    obtain ⟨hi, his⟩ := List.forall_mem_cons.mp hwaits
    exact ih (step_task ht i.1 hi) (h.hears (step_hears ht i.1 hi).2) his

/-- The operation under way stays the same, and so does the time it waits for. -/
lemma run_task {task : Task} (ht : e.task = some task) {meanwhile : List (Network × Input)}
    (hwaits : ∀ i ∈ meanwhile, i.2 ≠ .wake) :
    (e.run meanwhile).1.task = some task ∧
      (e.run meanwhile).1.session.books.patience = e.session.books.patience := by
  induction meanwhile generalizing e with
  | nil => exact ⟨ht, rfl⟩
  | cons i is ih =>
    obtain ⟨hi, his⟩ := List.forall_mem_cons.mp hwaits
    obtain ⟨hrun, hpatience⟩ := ih (step_task ht i.1 hi) his
    exact ⟨hrun, hpatience.trans (step_hears ht i.1 hi).2.patience⟩

/-- The reply to a command that waits: what the first frame says that says something to it, or
else that the connection ended, if it did. -/
def replyTo (n : RequestId) (method : Method) (heard : List Bytes × Option Bytes) :
    Option Answer :=
  (heard.1.findSome? (Session.verdict? n method)).or
    (if heard.2.isSome then none else some (.error .disconnected))

/-- What a wait comes to is what is heard of it until it ends. -/
lemma run_waits (h : e.Sound) (ht : e.task = some (.answer n method goal))
    (hwaits : e.session.books.Waits n method) {inbox : Bytes} (hinbox : e.inbox? = some inbox)
    {meanwhile : List (Network × Input)} (hquiet : ∀ i ∈ meanwhile, i.2 ≠ .wake)
    (hwrites : e.writesSucceed meanwhile) :
    (e.run meanwhile).1.session.books.reply
      = replyTo n method (listen (some inbox) meanwhile) := by
  induction meanwhile generalizing e inbox with
  | nil => exact hwaits.1
  | cons i is ih =>
    obtain ⟨hi, his⟩ := List.forall_mem_cons.mp hquiet
    obtain ⟨hwrite, hrest⟩ := Bool.and_eq_true_iff.mp hwrites
    have htask := step_task ht i.1 hi
    have hheeds := heeds_step h ht hwaits hinbox hi hwrite
    simp only [Heeds] at hheeds
    rw [replyTo, listen, List.findSome?_append]
    -- the input decides the wait, or it ends the connection, or the wait goes on
    cases hv : (hear inbox i.2).1.findSome? (Session.verdict? n method) with
    | some a =>
      rw [hv] at hheeds
      exact (run_answered htask hheeds his).1
    | none =>
      rw [hv] at hheeds
      cases htail : (hear inbox i.2).2 with
      | none =>
        rw [htail] at hheeds
        cases is <;> exact (run_answered htask hheeds his).1
      | some tail =>
        rw [htail] at hheeds
        have hinbox' : (e.step i.1 i.2).1.inbox? = some tail := by
          rw [← hheeds.2]
          simp [inbox?, Session.books, Connection.table, Function.comp_def]
        exact ih (h.step i.1 i.2) htask hheeds.1 hinbox' his hrest

/-- Whether a payload says something to the command that waits for the answer to the request
`n`. -/
def concerns (n : RequestId) (payload : Bytes) : Bool :=
  match Record.decode payload with
  | .ok (.response id _) => id == n
  | .ok _                => false
  | .error e             => e.blame == .answerTo n

/-- The reply that a wait had already stays, and else it is what is heard. -/
lemma reply_run (h : e.Sound) (ht : e.task = some (.answer n method goal))
    {meanwhile : List (Network × Input)} (hmeanwhile : e.Undisturbed meanwhile) :
    (e.run meanwhile).1.session.books.reply
      = e.session.reply.or (replyTo n method (listen e.inbox? meanwhile)) := by
  have hserves := h.serves
  rw [ht] at hserves
  rcases hserves with hwaits | ⟨a, hanswered⟩
  · obtain ⟨c, hc⟩ := Option.isSome_iff_exists.mp (isAttached_of_waits hwaits)
    have hinbox : e.inbox? = some c.inbox := by rw [inbox?, hc, Option.map_some]
    have hnone : e.session.reply = none := hwaits.1
    rw [run_waits h ht hwaits hinbox hmeanwhile.waits hmeanwhile.writes, hnone, hinbox,
      Option.none_or]
  · have hreply : e.session.reply = some a := hanswered.1
    rw [(run_answered ht hanswered hmeanwhile.waits).1, hreply, Option.some_or]

/-- A session whose program stopped and was told to step, and that waits for the answer. -/
def stepping : Engine :=
  (Engine.run { session := { config := {} } }
    [(fun _ _ => .ok (), .start (.attach {})),
      (fun _ _ => .ok (), .bytes (Frame.encode
        (Record.notification "interaction"
          [.string "a.py", Json.nat 1, .string "x"] []).encode)),
      (fun _ _ => .ok (), .start .step)]).1

lemma stepping_task : stepping.task = some (.answer 1 .step .unit) := by
  have h : (stepping.task.any fun
      | .answer n .step .unit => n == 1
      | .answer _ _ _         => false
      | .stop _ _ _           => false) = true := by decide +kernel
  obtain ⟨task, htask, h⟩ := (Option.any_eq_true _ _).mp h
  split at h
  · rw [htask, eq_of_beq h]
  · cases h
  · cases h

end Engine

end RemoteDebugger
