import Mathlib.Data.List.Induction
import RemoteDebugger.Proofs.Session.Occurrences

/-!
# Chronicles

What came to happen over a run, in order: what the payloads of the agent bring about, the
operations that begin or end a connection or give a line of input, and whatever else ends a
connection. A session stands as its chronicle says.
-/

namespace RemoteDebugger

namespace Session

variable {s s' s'' : Session}

/-! ### Operations -/

/-- An act to which nothing comes is no occurrence. -/
lemma firm_quiet : Firm Quiet where
  refl := Quiet.refl
  trans := Quiet.trans
  ask s m args _ := quiet_ask s m args
  notify s m := quiet_send s (.notify m)
  detach := quiet_detach
  suppress s _ := by
    refine quiet_modifyConnection ?_
    exact fun _ => ⟨rfl, rfl⟩
  relent s := by
    refine quiet_modifyConnection ?_
    exact fun _ => ⟨rfl, rfl⟩

/-- What comes to happen when an operation begins, until the connection ends. -/
def beginning (s : Session) (network : Network) : Operation → List Occurrence
  | .attach target         => if (s.attach network target).2.isOk then [.attached] else []
  | .attachRetrying target => if (s.attachRetrying network target).2.isOk
      then [.attached] else []
  | .input _               => if s.inputRequest?.isSome then [.given] else []
  | _                      => []

/-- What an operation brings about as it begins is not that the connection ends. -/
lemma closed_notMem_beginning (s : Session) (network : Network) (operation : Operation) :
    .closed ∉ s.beginning network operation := by
  cases operation with
  | attach target => simp only [beginning]; split_ifs <;> simp
  | attachRetrying target => simp only [beginning]; split_ifs <;> simp
  | input text => simp only [beginning]; split_ifs <;> simp
  | _ => exact List.not_mem_nil

/-- An attempt to attach comes to an attachment if it succeeds, and else to nothing. -/
lemma Attaches.undergoes {r : Session × Answer} (h : s.Attaches r) :
    Undergoes ((if r.2.isOk then [.attached] else []) ++ closing s r.1) s r.1 := by
  rcases h with ⟨hfails, heq⟩ | ⟨hok, hdetached, remote, heq⟩
  · rw [hfails, if_neg Bool.false_ne_true, heq]
    exact (Quiet.refl s).undergoes
  · have hadmits : s.state == .detached := by
      rw [isAttached_eq_state, bne_eq_false_iff_eq] at hdetached
      exact beq_iff_eq.mpr hdetached
    rw [closing_of_detached hdetached, if_pos hok, List.append_nil, heq]
    exact undergoes_single hadmits rfl (List.append_nil _).symm rfl rfl

/-- A line is given if the program waits for one. -/
lemma passes_provideInput (s : Session) (text : String) :
    Passes (if s.inputRequest?.isSome then [.given] else []) s (s.provideInput text).1 := by
  rw [provideInput, inputRequest?]
  cases hc : s.connection with
  | none => exact Quiet.refl s
  | some c =>
    rw [Option.bind_some]
    dsimp only
    cases hr : c.inputRequest with
    | none => exact Quiet.refl s
    | some q =>
      have hgiven : Undergoes [.given] s
          { s with connection := some { c with inputRequest := none, interaction := q.2 } } := by
        refine undergoes_single ?_ ?_ (List.append_nil _).symm rfl rfl
        · show (s.inputRequest?.map _).isSome
          rw [inputRequest?, hc, Option.bind_some, hr]
          rfl
        · simp [status, inputRequest?, hc, hr, Status.after, state_of_connection]
      exact (hgiven.passes (congrArg Option.isSome hc).symm).quiet (quiet_send _ _)

/-- Once the registry has taken note of an operation, nothing comes to happen but what it begins
with, and perhaps the end of the connection. -/
lemma undergoes_start (s : Session) (network : Network) (operation : Operation) :
    Undergoes (s.beginning network operation ++ closing s (s.start network operation).1)
      { s with breakpoints := s.breakpoints.note s.config.directory operation }
      (s.start network operation).1 := by
  cases operation with
  | attach target => exact (attaches_attach s network target).undergoes
  | attachRetrying target => exact (attaches_attachRetrying s network target).undergoes
  | quit =>
    have hquitting : Quiet s (s.modifyConnection ({ · with quitting := true })) := by
      refine quiet_modifyConnection ?_
      exact fun _ => ⟨rfl, rfl⟩
    exact (firm_quiet.quit s hquitting).undergoes
  | input text => exact (passes_provideInput s text).undergoes
  | _ => exact (firm_quiet.start s network rfl).undergoes

lemma quiet_endWait (s : Session) (id : RequestId) (m : Method) :
    Quiet s (s.endWait id m).1 := by
  have hhush : Quiet s { s with reply := none } := Quiet.of_eq rfl rfl rfl rfl
  simp only [endWait, takeReply]
  split
  · next h =>
    obtain ⟨rfl, -⟩ := Prod.mk.inj h
    exact hhush
  · next h =>
    obtain ⟨rfl, -⟩ := Prod.mk.inj h
    rw [giveUp]
    dsimp only
    split
    · exact hhush
    · refine hhush.trans (Quiet.trans (quiet_modifyConnection ?_) (quiet_modifyConnection ?_))
      · exact fun _ => ⟨rfl, rfl⟩
      · exact fun _ => ⟨rfl, rfl⟩

lemma quiet_wake (s : Session) (task : Task) : Quiet s (s.wake task).1 := by
  cases task with
  | stop pause pauses operation => exact firm_quiet.look s pauses operation
  | answer id m goal =>
    refine (quiet_endWait s id m).trans (firm_quiet.proceed _ _ ?_)
    exact fun _ => quiet_ask _ _ _

/-! ### Bytes -/

/-- What comes to happen on account of payloads. -/
def occurrencesIn (meetings : List (Session × Bytes)) : List Occurrence :=
  meetings.flatMap fun m => m.1.occurrences m.2

lemma closed_notMem_occurrencesIn (meetings : List (Session × Bytes)) :
    .closed ∉ occurrencesIn meetings := by
  rw [occurrencesIn, List.mem_flatMap]
  rintro ⟨m, -, hm⟩
  rcases List.mem_cons.mp hm with h | h
  · cases h
  · obtain ⟨e, -, he⟩ := Option.map_eq_some_iff.mp (Option.mem_toList.mp h)
    cases he

/-- Payloads come to their occurrences, one after another. -/
lemma passes_foldl_receiveFrame (s : Session) (ps : List Bytes) :
    Passes (occurrencesIn (s.meetings ps)) s (ps.foldl receiveFrame s) := by
  induction ps generalizing s with
  | nil => exact Quiet.refl s
  | cons p ps ih =>
    cases hattached : s.isAttached with
    | true =>
      rw [meetings_cons hattached, occurrencesIn, List.flatMap_cons]
      refine (passes_receiveFrame hattached p).trans (ih _) ?_
      intro hgone
      rw [meetings_of_detached hgone]
      rfl
    | false =>
      rw [meetings_of_detached hattached,
        foldl_receiveFrame_of_detached (connection_of_detached (Bool.eq_false_iff.mp hattached))]
      exact Quiet.refl s

lemma quiet_leave (s : Session) (tail : Option Bytes) : Quiet s (s.leave tail) := by
  cases tail with
  | none => exact quiet_detach s
  | some inbox =>
    refine quiet_modifyConnection ?_
    exact fun _ => ⟨rfl, rfl⟩

/-- Bytes come to the occurrences of their frames. -/
lemma passes_receiveBytes (s : Session) (bytes : Bytes) :
    Passes (occurrencesIn (s.meetingsIn bytes)) s (s.receiveBytes bytes) := by
  cases hc : s.connection with
  | none =>
    rw [receiveBytes, meetingsIn, hc]
    exact Quiet.refl s
  | some c =>
    have hempty : Quiet s { s with connection := some { c with inbox := [] } } := by
      refine Quiet.of_eq ?_ rfl rfl rfl
      simp [status, inputRequest?, hc, state]
    rw [receiveBytes_eq hc, meetingsIn, hc]
    exact (hempty.passes (passes_foldl_receiveFrame _ _) rfl).quiet (quiet_leave _ _)

end Session

/-! ### Runs -/

namespace Engine

open Session

variable {e : Engine}

/-- What comes to happen until the connection ends. -/
def happenings (e : Engine) (network : Network) : Input → List Occurrence
  | .start operation => if e.begins operation then e.session.beginning network operation else []
  | .bytes bytes     => occurrencesIn (e.session.meetingsIn bytes)
  | .endOfStream | .frameTimeout | .wake | .room _ => []

/-- Whether a connection ends. -/
def closes (e : Engine) (input : Input) : Bool := e.session.isAttached && e.severs input

def occurrences (e : Engine) (network : Network) (input : Input) : List Occurrence :=
  e.happenings network input ++ if e.closes input then [.closed] else []

def chronicle (e : Engine) : List (Network × Input) → List Occurrence
  | []      => []
  | i :: is => e.occurrences i.1 i.2 ++ (e.step i.1 i.2).1.chronicle is

/-- The operation that begins, if one does. -/
def begun? (e : Engine) : Input → Option Operation
  | .start operation => if e.begins operation then some operation else none
  | .bytes _ | .endOfStream | .frameTimeout | .wake | .room _ => none

/-- The registry once it has taken note of the operation that begins, if one does. -/
def noted (e : Engine) (input : Input) : Registry :=
  (e.begun? input).toList.foldl (Registry.note e.session.config.directory) e.session.breakpoints

lemma closed_notMem_happenings (e : Engine) (network : Network) (input : Input) :
    .closed ∉ e.happenings network input := by
  cases input with
  | start operation =>
    rw [happenings]
    split_ifs
    · exact Session.closed_notMem_beginning e.session network operation
    · exact List.not_mem_nil
  | bytes bytes => exact Session.closed_notMem_occurrencesIn _
  | _ => exact List.not_mem_nil

/-- A connection ends when it is gone afterwards. -/
lemma closes_eq (e : Engine) (network : Network) (input : Input) :
    e.closes input = (e.session.isAttached && !(e.step network input).1.session.isAttached) := by
  rw [closes]
  cases hattached : e.session.isAttached with
  | true => rw [isAttached_step hattached, Bool.not_not]
  | false => rfl

/-- A step ends the connection if its input closes the session. -/
lemma closing_step (e : Engine) (network : Network) (input : Input) :
    closing e.session (e.step network input).1.session
      = if e.closes input then [.closed] else [] := by
  rw [closing, ← closes_eq]

/-- Once the registry has taken note, nothing comes to happen to the session but the
occurrences. -/
lemma undergoes_step (e : Engine) (network : Network) (input : Input) :
    Undergoes (e.occurrences network input) { e.session with breakpoints := e.noted input }
      (e.step network input).1.session := by
  rw [occurrences, ← closing_step e network input]
  cases input with
  | start operation =>
    rw [happenings, noted, begun?]
    cases hbegins : e.begins operation with
    | true =>
      rw [if_pos rfl, if_pos rfl, step_of_begins hbegins]
      exact undergoes_start e.session network operation
    | false =>
      rw [if_neg Bool.false_ne_true, if_neg Bool.false_ne_true, step_of_not_begins hbegins]
      exact (Quiet.refl e.session).undergoes
  | bytes bytes => exact (passes_receiveBytes e.session bytes).undergoes
  | endOfStream => exact (quiet_detach e.session).undergoes
  | frameTimeout =>
    have hexpired : Quiet e.session e.session.expireFrame := by
      rw [expireFrame]
      split_ifs
      · exact quiet_detach e.session
      · exact Quiet.refl e.session
    exact hexpired.undergoes
  | wake =>
    have hwoken : Quiet e.session (e.step network .wake).1.session := by
      rw [step]
      split
      · exact Quiet.refl e.session
      · rw [after_session]
        exact quiet_wake e.session _
    exact hwoken.undergoes
  | room room =>
    have hroom : Quiet e.session (e.session.modifyConnection ({ · with room })) := by
      refine quiet_modifyConnection ?_
      exact fun _ => ⟨rfl, rfl⟩
    exact hroom.undergoes

end Engine

/-! ### The latest news -/

end RemoteDebugger
