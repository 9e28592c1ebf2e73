import Mathlib.Data.List.TakeWhile
import RemoteDebugger.Proofs.Session.Chronicle
import RemoteDebugger.Proofs.Session.Startup

/-!
# Journals

A journal tells over a run what a session would have to remember to know by itself how it stands:
the connections that began, the payloads that were handled, and the requests that were given up
on. What is true of a session and its journal goes on to be true if every act and every payload
keeps it.
-/

namespace RemoteDebugger

/-- Something that a journal tells. -/
inductive Incident where
  /-- A connection began. -/
  | attached
  /-- A payload was handled. -/
  | handled (payload : Bytes)
  /-- A request was given up on. -/
  | givenUp (id : RequestId) (method : Method)
deriving DecidableEq

/-- The last of a list is what it is split at, or it comes after that. -/
lemma concat_eq_append_cons {α : Type} {as before after : List α} {a b : α} :
    as ++ [a] = before ++ b :: after ↔
      before = as ∧ b = a ∧ after = [] ∨ ∃ after', after = after' ++ [a] ∧
        as = before ++ b :: after' := by
  constructor
  · intro h
    rcases List.eq_nil_or_concat after with rfl | ⟨after', c, rfl⟩
    · obtain ⟨rfl, hlast⟩ := List.append_inj' h rfl
      exact .inl ⟨rfl, (List.singleton_inj.mp hlast).symm, rfl⟩
    · rw [List.concat_eq_append, ← List.cons_append, ← List.append_assoc] at h
      obtain ⟨has, hlast⟩ := List.append_inj' h rfl
      cases hlast
      exact .inr ⟨after', List.concat_eq_append, has⟩
  · rintro (⟨rfl, rfl, rfl⟩ | ⟨after', rfl, rfl⟩)
    · rfl
    · rw [List.append_assoc, List.cons_append]

/-- What a journal tells of the connection that began last. -/
def current (js : List Incident) : List Incident :=
  (js.reverse.takeWhile (· ≠ .attached)).reverse

/-- A journal begins anew as the session is attached. -/
lemma current_concat (js : List Incident) (i : Incident) :
    current (js ++ [i]) = if i = .attached then [] else current js ++ [i] := by
  rw [current, List.reverse_append, List.reverse_singleton, List.singleton_append,
    List.takeWhile_cons]
  by_cases hi : i = .attached <;> simp [hi, current]

/-- What does not attach the session goes on with its journal. -/
lemma current_append {ks : List Incident} (h : .attached ∉ ks) (js : List Incident) :
    current (js ++ ks) = current js ++ ks := by
  induction ks using List.reverseRecOn with
  | nil => rw [List.append_nil, List.append_nil]
  | append_singleton ks i ih =>
    rw [List.mem_append, List.mem_singleton, not_or] at h
    rw [← List.append_assoc, current_concat, if_neg (Ne.symm h.2), ih h.1, List.append_assoc]

lemma current_suffix (js : List Incident) : current js <:+ js := by
  rw [current, ← List.reverse_prefix, List.reverse_reverse]
  exact List.takeWhile_prefix _

namespace Session

variable {s : Session}

/-- The request that is given up on because of its broken answer, if a payload is one. -/
def spoilt (s : Session) (payload : Bytes) : List Incident :=
  match Record.decode payload with
  | .ok _    => []
  | .error e =>
    match e.blame with
    | .answerTo id => ((s.books.pending? id).map fun p => .givenUp id p.method).toList
    | _            => []

/-- What is told of a payload. -/
def incidents (s : Session) (payload : Bytes) :
    List Incident := .handled payload :: s.spoilt payload

/-- What is told of payloads that are met one after the other. -/
def incidentsIn (meetings : List (Session × Bytes)) : List Incident :=
  meetings.flatMap fun m => m.1.incidents m.2

/-- The request that is given up on when a wait is over, if no answer to it has come. -/
def forsaken (s : Session) (id : RequestId) (method : Method) : List Incident :=
  if s.reply.isNone then [.givenUp id method] else []

/-- Whether an operation begins a connection. -/
def connects (s : Session) (network : Network) : Operation → Bool
  | .attach target         => (s.attach network target).2.isOk
  | .attachRetrying target => (s.attachRetrying network target).2.isOk
  | _                      => false

end Session

namespace Engine

open Session

/-- What is told when something happens. -/
def incidents (e : Engine) (network : Network) : Input → List Incident
  | .start operation =>
    if e.begins operation && e.session.connects network operation then [.attached] else []
  | .wake            =>
    match e.task with
    | some (.answer id method _) => e.session.forsaken id method
    | _                          => []
  | .bytes bytes     => incidentsIn (e.meetings (.bytes bytes))
  | .endOfStream | .frameTimeout | .room _ => []

def journal (e : Engine) : List (Network × Input) → List Incident
  | []      => []
  | i :: is => e.incidents i.1 i.2 ++ (e.step i.1 i.2).1.journal is

end Engine

/-! ### What a journal and a session agree on -/

open Session

/-- Something is true of a session and its journal, and whatever happens keeps it. -/
structure Tracks (I : List Incident → Session → Prop) : Prop where
  ask : ∀ {js s} m args, I js s → I js (s.ask m args).1
  notify : ∀ {js s} m, I js s → I js (s.send (.notify m)).1
  detach : ∀ {js s}, I js s → I js s.detach
  breakpoints : ∀ {js s} breakpoints, I js s → I js { s with breakpoints }
  modify : ∀ {js s f}, (∀ c, ∃ suppressNext quitting room inbox,
    f c = { c with suppressNext, quitting, room, inbox }) → I js s → I js (s.modifyConnection f)
  input : ∀ {js s} text, I js s → I js (s.provideInput text).1
  connected : ∀ {js s} remote, s.isAttached = false → I js s →
    I (js ++ [.attached]) (s.connected remote)
  endWait : ∀ {js s id m}, s.books.Sound →
    (s.reply = none → s.books.pending? id = some { method := m, awaited := true }) →
    I js s → I (js ++ s.forsaken id m) (s.endWait id m).1
  frame : ∀ {js s} payload, s.isAttached → s.books.Sound → I js s →
    I (js ++ s.incidents payload) (s.receiveFrame payload)

namespace Tracks

variable {I : List Incident → Session → Prop} {js : List Incident} {s : Session}

/-- What is tracked lasts over the acts that no incident comes with. -/
lemma stable (h : Tracks I) (js : List Incident) : Stable fun s s' => I js s → I js s' where
  refl _ hs := hs
  trans h h' hs := h' (h hs)
  ask _ m args _ := h.ask m args
  notify _ m := h.notify m
  detach _ := h.detach
  breakpoints _ := h.breakpoints
  suppress _ b := h.modify fun c => ⟨b, c.quitting, c.room, c.inbox, rfl⟩
  relent _ := h.modify fun c => ⟨c.suppressNext, false, c.room, c.inbox, rfl⟩

lemma keepInbox (h : Tracks I) (inbox : Bytes) (hs : I js s) :
    I js (s.modifyConnection ({ · with inbox })) :=
  h.modify (fun c => ⟨c.suppressNext, c.quitting, c.room, inbox, rfl⟩) hs

/-- An attempt to attach is an incident if it succeeds. -/
lemma attach (h : Tracks I) {r : Session × Answer} (hr : s.Attaches r) (hs : I js s) :
    I (js ++ if r.2.isOk then [.attached] else []) r.1 := by
  rcases hr with ⟨hfails, heq⟩ | ⟨hok, hdetached, remote, heq⟩
  · rw [hfails, if_neg Bool.false_ne_true, List.append_nil, heq]
    exact hs
  · rw [hok, if_pos rfl, heq]
    exact h.connected remote hdetached hs

/-- An operation begins with an incident only if it connects. -/
lemma start (h : Tracks I) (network : Network) (operation : Operation) (hs : I js s) :
    I (js ++ if s.connects network operation then [.attached] else [])
      (s.start network operation).1 := by
  have hquitting : I js s → I js (s.modifyConnection ({ · with quitting := true })) :=
    h.modify fun c => ⟨c.suppressNext, true, c.room, c.inbox, rfl⟩
  have hconnectsNot : ∀ {s'}, I js s' → I (js ++ []) s' := by
    intro s' hs'
    rw [List.append_nil]
    exact hs'
  cases operation with
  | attach target => exact h.attach (attaches_attach s network target) hs
  | attachRetrying target => exact h.attach (attaches_attachRetrying s network target) hs
  | quit => exact hconnectsNot ((h.stable js).firm.quit s hquitting hs)
  | input text => exact hconnectsNot (h.input text hs)
  | _ => exact hconnectsNot ((h.stable js).start s network rfl hs)

/-- What is tracked is true after the payloads, with their incidents. -/
lemma foldl_receiveFrame (h : Tracks I) (hsound : s.books.Sound) (hs : I js s)
    (ps : List Bytes) :
    I (js ++ incidentsIn (s.meetings ps)) (ps.foldl receiveFrame s) := by
  induction ps generalizing js s with
  | nil =>
    rw [meetings, incidentsIn, List.flatMap_nil, List.append_nil]
    exact hs
  | cons p ps ih =>
    cases hattached : s.isAttached with
    | true =>
      have hrest := ih (hsound.onFrame (onFrame_receiveFrame hattached p))
        (h.frame p hattached hsound hs)
      rw [meetings_cons hattached, incidentsIn, List.flatMap_cons, ← List.append_assoc]
      exact hrest
    | false =>
      rw [meetings_of_detached hattached, incidentsIn, List.flatMap_nil, List.append_nil,
        foldl_receiveFrame_of_detached (connection_of_detached (Bool.eq_false_iff.mp hattached))]
      exact hs

/-- What is true of a session that meets payloads is true, with what was told until then, of the
one that meets any of them. -/
lemma of_meetings_eq (h : Tracks I) (hsound : s.books.Sound) (hs : I js s) {ps : List Bytes}
    {before after : List (Session × Bytes)} {m : Session × Bytes}
    (hmet : s.meetings ps = before ++ m :: after) :
    I (js ++ incidentsIn before) m.1 := by
  induction before generalizing js s ps with
  | nil =>
    cases ps with
    | nil => cases hmet
    | cons p ps =>
      rw [meetings] at hmet
      split_ifs at hmet with hattached
      · cases hmet
        rw [incidentsIn, List.flatMap_nil, List.append_nil]
        exact hs
      · cases hmet
  | cons first before ih =>
    cases ps with
    | nil => cases hmet
    | cons p ps =>
      rw [meetings] at hmet
      split_ifs at hmet with hattached
      · obtain ⟨rfl, hrest⟩ := List.cons.inj hmet
        have hlater :=
          ih (hsound.onFrame (onFrame_receiveFrame hattached p))
            (h.frame p hattached hsound hs) hrest
        rw [incidentsIn, List.flatMap_cons, ← List.append_assoc]
        exact hlater
      · cases hmet

end Tracks

namespace Engine

variable {e : Engine} {I : List Incident → Session → Prop} {js : List Incident}

/-- A command that waits for an answer has none yet and is awaited, or has it. -/
lemma Sound.pending?_of_task (h : e.Sound) {id : RequestId} {m : Method} {goal : Goal}
    (ht : e.task = some (.answer id m goal)) (hreply : e.session.reply = none) :
    e.session.books.pending? id = some { method := m, awaited := true } := by
  have hserves := h.serves
  rw [ht] at hserves
  rcases hserves with hwaits | ⟨a, hanswered⟩
  · exact hwaits.pending? h.books
  · have hnone : e.session.books.reply = none := hreply
    rw [hanswered.1] at hnone
    cases hnone

lemma Sound.between (h : e.Sound) : e.session.between.books.Sound := by
  rw [books_between]
  exact h.books.keep []

/-- What is tracked is true after bytes, with the incidents of their frames. -/
lemma tracks_receiveBytes (h : Tracks I) (hsound : e.Sound) (bytes : Bytes)
    (hs : I js e.session) :
    I (js ++ incidentsIn (e.meetings (.bytes bytes))) (e.session.receiveBytes bytes) := by
  cases hc : e.session.connection with
  | none =>
    have hnone : e.meetings (.bytes bytes) = [] := by
      show e.session.meetingsIn bytes = []
      rw [meetingsIn, hc]
    rw [hnone, incidentsIn, List.flatMap_nil, List.append_nil, receiveBytes, hc]
    exact hs
  | some c =>
    rw [receiveBytes_eq hc, meetings_bytes hc, ← between_of_connection hc]
    have hall := h.foldl_receiveFrame hsound.between (h.keepInbox [] hs)
      (Frame.cut Frame.defaultLimit (c.inbox ++ bytes)).1
    cases (Frame.cut Frame.defaultLimit (c.inbox ++ bytes)).2 with
    | none => exact h.detach hall
    | some inbox => exact h.keepInbox inbox hall

/-- What is true of a session and its journal is true after whatever happens. -/
lemma tracks_step (h : Tracks I) (hsound : e.Sound) (network : Network) (input : Input)
    (hs : I js e.session) :
    I (js ++ e.incidents network input) (e.step network input).1.session := by
  cases input with
  | start operation =>
    rw [incidents]
    cases hbegins : e.begins operation with
    | true =>
      rw [step_of_begins hbegins, Bool.true_and]
      exact h.start network operation hs
    | false =>
      rw [step_of_not_begins hbegins, Bool.false_and, if_neg Bool.false_ne_true, List.append_nil]
      exact hs
  | bytes bytes => exact tracks_receiveBytes h hsound bytes hs
  | endOfStream =>
    rw [incidents, List.append_nil]
    exact h.detach hs
  | frameTimeout =>
    rw [incidents, List.append_nil]
    show I js e.session.expireFrame
    rw [expireFrame]
    split_ifs
    · exact h.detach hs
    · exact hs
  | wake =>
    rw [incidents, step]
    cases ht : e.task with
    | none =>
      rw [List.append_nil]
      exact hs
    | some task =>
      dsimp only
      rw [after_session]
      cases task with
      | stop pause pauses operation =>
        rw [List.append_nil]
        exact (h.stable js).firm.look e.session pauses operation hs
      | answer id m goal =>
        -- what is given up on is told first, and what follows asks at most for a resumption
        have hover := h.endWait hsound.books (hsound.pending?_of_task ht) hs
        exact (h.stable _).firm.proceed _ _ (fun _ => h.ask .resume []) hover
  | room room =>
    rw [incidents, List.append_nil]
    refine h.modify ?_ hs
    exact fun c => ⟨c.suppressNext, c.quitting, room, c.inbox, rfl⟩

/-- What is tracked is true after every run, with its journal. -/
lemma tracks_run (h : Tracks I) (hsound : e.Sound) (run : List (Network × Input))
    (hs : I js e.session) :
    I (js ++ e.journal run) (e.run run).1.session := by
  induction run generalizing e js with
  | nil =>
    rw [journal, List.append_nil]
    exact hs
  | cons i run ih =>
    rw [journal, ← List.append_assoc]
    exact ih (hsound.step i.1 i.2) (tracks_step h hsound i.1 i.2 hs)

/-- What is true of a session and its journal is true of the session that meets a payload. -/
lemma tracks_meeting (h : Tracks I) (hsound : e.Sound) {input : Input}
    {before after : List (Session × Bytes)} {m : Session × Bytes}
    (hmet : e.meetings input = before ++ m :: after) (hs : I js e.session) :
    I (js ++ incidentsIn before) m.1 := by
  obtain ⟨ps, hps⟩ := meetings_eq_between e input
  rw [hps] at hmet
  exact h.of_meetings_eq hsound.between (h.keepInbox [] hs) hmet

end Engine

end RemoteDebugger
