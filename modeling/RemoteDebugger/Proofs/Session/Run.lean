import RemoteDebugger.Proofs.Session.Waiting
import RemoteDebugger.Proofs.Wire.Frame
import RemoteDebugger.Session.Engine

/-!
# Requests over a run

Whatever happens to a session, its books are sound, and they agree with what the operation under
way waits for.
-/

namespace RemoteDebugger

open Books

/-! ### Frames of a stream -/

namespace Session

variable {s : Session}

/-- The session after the frames of a stream: what is there of one more is kept, and without more
of the stream the connection ends. -/
def leave (s : Session) : Option Bytes → Session
  | some inbox => s.modifyConnection fun c => { c with inbox }
  | none       => s.detach

lemma books_leave_some (s : Session) (inbox : Bytes) :
    (s.leave (some inbox)).books = s.books.keep inbox :=
  books_modifyConnection fun _ => rfl

lemma books_leave_none (s : Session) : (s.leave none).books = s.books.close := books_detach s

/-- Payloads of a connection that has ended are ignored. -/
lemma foldl_receiveFrame_of_detached (h : s.connection = none) (ps : List Bytes) :
    ps.foldl receiveFrame s = s := by
  induction ps with
  | nil => rfl
  | cons p ps ih =>
    have hsame : s.receiveFrame p = s := by rw [receiveFrame, h]
    rw [List.foldl_cons, hsame, ih]

lemma leave_of_detached (h : s.connection = none) (tail : Option Bytes) : s.leave tail = s := by
  cases tail with
  | none => simp [leave, detach, h]
  | some inbox =>
    rw [leave, modifyConnection, h, Option.map_none, ← h]

/-- A stream is handled frame by frame. -/
lemma serve_eq (s : Session) (stream : Bytes) :
    s.serve stream = ((Frame.cut Frame.defaultLimit stream).1.foldl receiveFrame s).leave
      (Frame.cut Frame.defaultLimit stream).2 := by
  cases hc : s.connection with
  | none => rw [foldl_receiveFrame_of_detached hc, leave_of_detached hc, serve, hc]
  | some c =>
    rw [serve, hc]
    dsimp only
    split
    · next payload rest hhead =>
      rw [serve_eq (s.receiveFrame payload) rest, Frame.cut_of_frame hhead]
      rfl
    · next hhead =>
      rw [Frame.cut_of_rejected hhead]
      rfl
    · next hhead =>
      rw [Frame.cut_of_incomplete hhead, List.foldl_nil, leave, modifyConnection, hc,
        Option.map_some]
termination_by stream.length
decreasing_by exact Frame.length_rest_lt_of_head ‹_›

/-- The stream of a connection goes on with the bytes that came before and those that come
now. -/
lemma receiveBytes_eq {c : Connection} (hc : s.connection = some c) (bytes : Bytes) :
    s.receiveBytes bytes
      = ((Frame.cut Frame.defaultLimit (c.inbox ++ bytes)).1.foldl receiveFrame
          { s with connection := some { c with inbox := [] } }).leave
        (Frame.cut Frame.defaultLimit (c.inbox ++ bytes)).2 := by
  rw [receiveBytes, hc]
  exact serve_eq _ _

/-- Payloads are heard one after another. -/
lemma hears_foldl_receiveFrame (s : Session) (ps : List Bytes) :
    Hears s.books (ps.foldl receiveFrame s).books := by
  induction ps generalizing s with
  | nil => exact .refl
  | cons p ps ih =>
    by_cases hattached : s.isAttached
    · exact (Hears.refl.frame (onFrame_receiveFrame hattached p)).trans (ih (s.receiveFrame p))
    · have hnone : s.connection = none := by simpa [isAttached] using hattached
      rw [foldl_receiveFrame_of_detached hnone]
      exact .refl

/-- The end of a chunk keeps the rest for the next one, or ends the connection. -/
lemma hears_leave (s : Session) (tail : Option Bytes) : Hears s.books (s.leave tail).books := by
  cases tail with
  | none =>
    rw [books_leave_none]
    exact Calm.refl.close.hears
  | some inbox =>
    rw [books_leave_some]
    exact Hears.refl.keep inbox

lemma books_emptyInbox {c : Connection} (hc : s.connection = some c) :
    { s with connection := some { c with inbox := [] } }.books = s.books.keep [] := by
  simp [books, sent, keep, hc, Connection.table]

/-- Bytes are heard as the payloads that they are cut into. -/
lemma hears_receiveBytes (s : Session) (bytes : Bytes) :
    Hears s.books (s.receiveBytes bytes).books := by
  cases hc : s.connection with
  | none =>
    rw [receiveBytes, hc]
    exact .refl
  | some c =>
    have hempty : Hears s.books { s with connection := some { c with inbox := [] } }.books := by
      rw [books_emptyInbox hc]
      exact Hears.refl.keep []
    rw [receiveBytes_eq hc]
    exact (hempty.trans (hears_foldl_receiveFrame _ _)).trans (hears_leave _ _)

lemma hears_detach (s : Session) : Hears s.books s.detach.books := by
  rw [books_detach]
  exact Calm.refl.close.hears

lemma hears_expireFrame (s : Session) : Hears s.books s.expireFrame.books := by
  simp only [expireFrame]
  split
  · exact hears_detach s
  · exact .refl

lemma hears_room (s : Session) (room : Option Nat) :
    Hears s.books (s.modifyConnection fun c => { c with room }).books := by
  rw [books_modifyConnection_of_eq]
  · exact .refl
  · exact fun _ => rfl

end Session

/-! ### Invariant of a run -/

namespace Engine

/-- The books agree with what the operation under way waits for. -/
def Serves (b : Books) : Option Task → Prop
  | some (.answer n method _) => b.Waits n method ∨ ∃ a, b.Answered a
  | _                         => b.Idle

/-- The books are sound and agree with what the operation under way waits for. -/
structure Sound (e : Engine) : Prop where
  books : e.session.books.Sound
  serves : Serves e.session.books e.task

variable {e : Engine}

lemma after_session (r : Session × Progress) : (after r).1.session = r.1 := by
  obtain ⟨s, progress⟩ := r
  cases progress <;> rfl

lemma after_task {r : Session × Progress} {task : Task} (h : r.2 = .waiting task) :
    (after r).1.task = some task := by
  obtain ⟨s, progress⟩ := r
  cases h
  rfl

lemma after_of_finished {r : Session × Progress} {answer : Answer} (h : r.2 = .finished answer) :
    after r = ({ session := r.1 }, some answer) := by
  obtain ⟨s, progress⟩ := r
  cases h
  rfl

/-- An operation begins, or leaves alone the one under way, or must wait. -/
lemma step_start_cases (e : Engine) (network : Network) (operation : Operation) :
    e.task = none ∧
        (e.step network (.start operation)).1 = (after (e.session.start network operation)).1 ∨
      operation.isExclusive = false ∧ (e.step network (.start operation)).1
        = { session := (e.session.start network operation).1, task := e.task } ∨
      operation.isExclusive ∧ (e.step network (.start operation)).1 = e := by
  simp only [step, Engine.start]
  split
  · next ht => exact .inl ⟨ht, rfl⟩
  · next task ht =>
    split_ifs with hexclusive
    · exact .inr (.inr ⟨hexclusive, rfl⟩)
    · right
      left
      refine ⟨by simpa using hexclusive, ?_⟩
      rw [after_session, ht]

lemma sound_new (config : SessionConfig) : Sound { session := { config } } where
  books := ⟨List.Pairwise.nil, (fun _ h => nomatch h), (fun _ h => nomatch h)⟩
  serves := idle_of_table_eq_none rfl

/-- What an operation that no command waits for comes to. -/
lemma sound_after {b : Books} {r : Session × Progress} (hb : b.Sound) (hidle : b.Idle)
    (h : Leads b r) : Sound (after r).1 := by
  cases h with
  | finished hworks => exact ⟨hb.works hworks, hidle.works hworks⟩
  | paused hworks => exact ⟨hb.works hworks, hidle.works hworks⟩
  | @asked s b' method goal hworks hattached hs =>
    have hidle' : b'.Idle := hidle.works hworks
    obtain ⟨t, ht⟩ := Option.isSome_iff_exists.mp hattached
    refine ⟨?_, .inl
      ⟨?_, { t with pending := t.pending ++ [(b'.nextId, ⟨method, true⟩)] }, ?_, ?_⟩⟩
    · show s.books.Sound
      rw [hs]
      exact (hb.works hworks).hush.issue method true
    · show s.books.reply = none
      rw [hs]
      rfl
    · show s.books.table = _
      rw [hs, issue, hush, ht]
      rfl
    · rw [waiters_append, hidle' t ht]
      rfl

/-- What is heard keeps an engine sound. -/
lemma Sound.hears {s : Session} (h : e.Sound) (hears : Hears e.session.books s.books) :
    Sound { e with session := s } := by
  refine ⟨h.books.hears hears, ?_⟩
  show Serves s.books e.task
  have hserves := h.serves
  match e.task, hserves with
  | some (.answer n method _), .inl hwaits => exact hwaits.hears h.books hears
  | some (.answer n method _), .inr ⟨a, hanswered⟩ => exact .inr ⟨a, hanswered.hears hears⟩
  | some (.stop _ _ _), hidle => exact Idle.hears hidle hears
  | none, hidle => exact Idle.hears hidle hears

/-- While an operation is under way, what happens other than the end of its wait leaves it under
way, and it hears what comes. -/
lemma step_hears {task : Task} (ht : e.task = some task) (network : Network) {input : Input}
    (h : input ≠ .wake) :
    (e.step network input).1
        = { e with session := (e.step network input).1.session } ∧
      Hears e.session.books (e.step network input).1.session.books := by
  cases input with
  | start operation =>
    show (e.start network operation).1
        = { e with session := (e.start network operation).1.session } ∧
      Hears e.session.books (e.start network operation).1.session.books
    simp only [Engine.start]
    rw [ht]
    dsimp only
    split
    · refine ⟨?_, .refl⟩
      rw [← ht]
    · next hexclusive =>
      refine ⟨rfl, ?_⟩
      dsimp only
      rw [after_session]
      exact (Session.calm_start e.session network (by simpa using hexclusive)).hears
  | bytes bytes => exact ⟨rfl, Session.hears_receiveBytes e.session bytes⟩
  | endOfStream => exact ⟨rfl, Session.hears_detach e.session⟩
  | frameTimeout => exact ⟨rfl, Session.hears_expireFrame e.session⟩
  | wake => exact absurd rfl h
  | room room => exact ⟨rfl, Session.hears_room e.session room⟩

/-- Once a wait is over, no command waits. -/
lemma Sound.endWait {n : RequestId} {method : Method} {goal : Goal} (h : e.Sound)
    (ht : e.task = some (.answer n method goal)) :
    (e.session.endWait n method).1.books.Sound ∧ (e.session.endWait n method).1.books.Idle := by
  obtain ⟨-, hbooks⟩ := Session.endWait_eq e.session n method
  have hserves := h.serves
  rw [ht] at hserves
  rw [hbooks]
  rcases hserves with hwaits | ⟨a, hanswered⟩
  · have hpending := hwaits.pending? h.books
    have hhush : e.session.books.hush.pending? n = some { method, awaited := true } := hpending
    rw [hwaits.1, hpending]
    exact ⟨h.books.hush.giveUp hhush method, hwaits.idle_map fun t => filter_without n t.pending⟩
  · rw [hanswered.1]
    exact ⟨h.books.hush, hanswered.2⟩

/-- Everything that happens keeps the invariant. -/
lemma Sound.step (h : e.Sound) (network : Network) (input : Input) :
    Sound (e.step network input).1 := by
  cases ht : e.task with
  | none =>
    have hidle := h.serves
    rw [ht] at hidle
    cases input with
    | start operation =>
      rw [Engine.step, Engine.start, ht]
      exact sound_after h.books hidle (Session.leads_start e.session network operation)
    | bytes bytes => exact h.hears (Session.hears_receiveBytes e.session bytes)
    | endOfStream => exact h.hears (Session.hears_detach e.session)
    | frameTimeout => exact h.hears (Session.hears_expireFrame e.session)
    | wake =>
      rw [Engine.step, ht]
      exact h
    | room room => exact h.hears (Session.hears_room e.session room)
  -- while an operation is under way, only the end of its wait goes beyond what is heard
  | some task =>
    by_cases hwake : input = .wake
    · subst hwake
      rw [Engine.step, ht]
      cases task with
      | stop pause pauses operation =>
        have hidle := h.serves
        rw [ht] at hidle
        exact sound_after h.books hidle (Session.leads_look e.session pauses operation)
      | answer n method goal =>
        obtain ⟨hbooks, hidle⟩ := h.endWait ht
        exact sound_after hbooks hidle (Session.leads_proceed _ _ goal)
    · obtain ⟨hsame, hears⟩ := step_hears ht network hwake
      rw [hsame]
      exact h.hears hears

/-- An engine is sound over every run. -/
lemma Sound.run (h : e.Sound) (run : List (Network × Input)) : Sound (e.run run).1 := by
  induction run generalizing e with
  | nil => exact h
  | cons i run ih => exact ih (h.step i.1 i.2)

end Engine

/-! ### Requests in order -/

namespace Session

def pending (s : Session) : List (RequestId × Pending) :=
  (s.connection.map Connection.pending).getD []

def abandoned (s : Session) : List (RequestId × Method) :=
  (s.connection.map Connection.abandoned).getD []

/-- Every request has a number that was given out, no request is both pending and given up on,
not too many are remembered, and at most one is waited for. -/
structure Orderly (s : Session) : Prop where
  pending_lt : ∀ p ∈ s.pending, p.1 < s.nextId
  pending_once : (s.pending.map Prod.fst).Nodup
  abandoned_lt : ∀ a ∈ s.abandoned, a.1 < s.nextId
  disjoint : ∀ p ∈ s.pending, ∀ a ∈ s.abandoned, p.1 ≠ a.1
  abandoned_length : s.abandoned.length ≤ 64
  awaited_length : (s.pending.filter fun p => p.2.awaited).length ≤ 1

end Session

namespace Engine

variable {e : Engine}

/-- At most one request is waited for, and only while a command is under way. -/
lemma Sound.waiters_length (h : e.Sound) {t : Table} (ht : e.session.books.table = some t) :
    t.waiters.length ≤ 1 := by
  have hidle : ∀ {b : Books}, b.Idle → b.table = some t → t.waiters.length ≤ 1 := by
    intro b hb hbt
    rw [hb t hbt]
    exact Nat.zero_le 1
  have hserves := h.serves
  cases htask : e.task with
  | none =>
    rw [htask] at hserves
    exact hidle hserves ht
  | some task =>
    rw [htask] at hserves
    cases task with
    | stop _ _ _ => exact hidle hserves ht
    | answer n method goal =>
      rcases hserves with ⟨-, u, hu, hwaiters⟩ | ⟨a, hanswered⟩
      · rw [ht] at hu
        cases hu
        rw [hwaiters]
        exact Nat.le_refl 1
      · exact hidle hanswered.2 ht

/-- A session of a sound engine is orderly. -/
lemma Sound.orderly (h : e.Sound) : e.session.Orderly := by
  cases hc : e.session.connection with
  | none => constructor <;> simp [Session.pending, Session.abandoned, hc]
  | some c =>
    have ht : e.session.books.table = some c.table := by simp [Session.books, hc]
    have hpending : e.session.pending = c.table.pending := by
      rw [Session.pending, hc]
      rfl
    have habandoned : e.session.abandoned = c.table.abandoned := by
      rw [Session.abandoned, hc]
      rfl
    have htable : c.table.Sound e.session.nextId := h.books.table c.table ht
    constructor
    · rw [hpending]
      exact htable.pending_lt
    · rw [hpending]
      exact htable.pending_nodup
    · rw [habandoned]
      exact htable.abandoned_lt
    · rw [hpending, habandoned]
      exact htable.disjoint
    · rw [habandoned]
      exact htable.abandoned_length
    · rw [hpending]
      exact h.waiters_length ht

/-- After every run the requests are in order, and when no operation is under way no request is
waited for. -/
theorem run_orderly (config : SessionConfig) (run : List (Network × Input)) :
    (Engine.run { session := { config } } run).1.session.Orderly ∧
      ((Engine.run { session := { config } } run).1.task = none →
        ∀ p ∈ (Engine.run { session := { config } } run).1.session.pending,
          p.2.awaited = false) := by
  have hsound := (sound_new config).run run
  refine ⟨hsound.orderly, fun htask p hp => ?_⟩
  have hidle := hsound.serves
  rw [htask] at hidle
  rw [Session.pending] at hp
  cases hc : (Engine.run { session := { config } } run).1.session.connection with
  | none =>
    rw [hc] at hp
    cases hp
  | some c =>
    rw [hc] at hp
    have hwaiters : c.table.waiters = [] := hidle c.table (by simp [Session.books, hc])
    have hnot := List.filter_eq_nil_iff.mp hwaiters p hp
    simpa using hnot

end Engine

end RemoteDebugger
