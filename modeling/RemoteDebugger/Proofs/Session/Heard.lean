import RemoteDebugger.Proofs.Record.Decoding
import RemoteDebugger.Proofs.Session.Letters
import RemoteDebugger.Proofs.Session.Run

/-!
# What a session hears

The frames that reach a session over a run, each together with the session that it meets, and
what a frame asks for.
-/

namespace RemoteDebugger

/-! ### Requests of the agent -/

namespace Record

/-- The number of a payload that asks for an answer, which is an object with a method and a
number. -/
def asking? (payload : Bytes) : Option RequestId :=
  match (Utf8.decode? payload).bind Json.parse? with
  | some (.object ms) =>
    if (ms.lookup "method").isSome then (ms.lookup "id").bind Json.toNat? else none
  | _                 => none

/-- Whether a payload asks for a line of input. -/
def isReadLine (payload : Bytes) : Bool :=
  match decode payload with
  | .ok (.request _ method _ _) => Method.ofName? method == some .readLine
  | _                           => false

/-- The number that is to be answered at once on account of a payload. A line of input is given
later. -/
def due (payload : Bytes) : List RequestId :=
  if isReadLine payload then [] else (asking? payload).toList

/-- The number of the request that was read, whether it is broken or not. -/
def asker? : Except DecodeError Record → Option RequestId
  | .ok r    => r.requestId?
  | .error e => match e.blame with
    | .request id => some id
    | _           => none

/-- A call asks for an answer to its id, whether it is broken or not. -/
lemma asker?_decodeCall (id : Option RequestId) (ms : Members) (method : Json) :
    asker? (decodeCall id ms method) = id := by
  have hblame : ∀ reason, asker? (decodeCall.blame id reason) = id := by
    intro reason
    cases id <;> rfl
  rw [decodeCall.eq_def]
  split
  · split
    · exact hblame _
    · exact hblame _
    · cases id <;> rfl
  · exact hblame _

/-- An answer asks for none. -/
lemma asker?_decodeResponse (id : Option RequestId) (ms : Members) :
    asker? (decodeResponse id ms) = none := by
  simp only [decodeResponse]
  split
  · rfl
  · split <;> rfl

/-- A payload asks for an answer if it is a request, or a broken one with a number. -/
lemma asking?_eq (payload : Bytes) : asking? payload = asker? (decode payload) := by
  rw [asking?, decode]
  cases (Utf8.decode? payload).bind Json.parse? with
  | none => rfl
  | some v =>
    cases v with
    | object ms =>
      dsimp only [ofJson]
      rw [ofMembers]
      cases hid : decodeId (ms.lookup "id") with
      | error e =>
        obtain ⟨hblame, hnone⟩ := blame_of_decodeId hid
        dsimp only
        rw [hnone, asker?, hblame, ite_self]
      | ok id =>
        dsimp only
        rw [decodeId_eq hid]
        cases ms.lookup "method" with
        | none => exact (asker?_decodeResponse id ms).symm
        | some method => exact (asker?_decodeCall id ms method).symm
    | _ => rfl

end Record

/-! ### Frames and the sessions that they meet -/

namespace Session

variable {s : Session}

/-- The payloads that a session handles one after the other, as long as it is attached, each with
the session that it meets. -/
def meetings (s : Session) : List Bytes → List (Session × Bytes)
  | []      => []
  | p :: ps => if s.isAttached then (s, p) :: (s.receiveFrame p).meetings ps else []

/-- The same for bytes that the agent sends. -/
def meetingsIn (s : Session) (bytes : Bytes) : List (Session × Bytes) :=
  match s.connection with
  | none   => []
  | some c => { s with connection := some { c with inbox := [] } }.meetings
      (Frame.cut Frame.defaultLimit (c.inbox ++ bytes)).1

lemma meetings_of_detached (h : s.isAttached = false) (ps : List Bytes) :
    s.meetings ps = [] := by
  cases ps with
  | nil => rfl
  | cons p ps => rw [meetings, h]; rfl

lemma meetings_cons (h : s.isAttached) (p : Bytes) (ps : List Bytes) :
    s.meetings (p :: ps) = (s, p) :: (s.receiveFrame p).meetings ps := by
  rw [meetings, if_pos h]

lemma isAttached_of_mem_meetings {ps : List Bytes} {m : Session × Bytes}
    (hm : m ∈ s.meetings ps) :
    m.1.isAttached := by
  induction ps generalizing s with
  | nil => cases hm
  | cons p ps ih =>
    rw [meetings] at hm
    split_ifs at hm with hattached
    · rcases List.mem_cons.mp hm with rfl | hm
      · exact hattached
      · exact ih hm
    · cases hm

lemma connection_of_detached (h : ¬ s.isAttached) : s.connection = none := by
  simpa [isAttached] using h

/-- What every payload that is met keeps is kept by all of them. -/
lemma foldl_receiveFrame_induct {P : Session → Prop} {ps : List Bytes}
    (hframe : ∀ m ∈ s.meetings ps, P m.1 → P (m.1.receiveFrame m.2)) (h : P s) :
    P (ps.foldl receiveFrame s) := by
  induction ps generalizing s with
  | nil => exact h
  | cons p ps ih =>
    by_cases hattached : s.isAttached
    · rw [meetings_cons hattached] at hframe
      obtain ⟨hfirst, hrest⟩ := List.forall_mem_cons.mp hframe
      exact ih hrest (hfirst h)
    · rw [foldl_receiveFrame_of_detached (connection_of_detached hattached)]
      exact h

/-- What every payload that is met keeps, and the end of the connection, and what is there of a
frame, is kept by bytes. -/
lemma receiveBytes_induct {P : Session → Prop} {bytes : Bytes}
    (hinbox : ∀ s inbox, P s → P (s.modifyConnection ({ · with inbox })))
    (hdetach : ∀ s, P s → P s.detach)
    (hframe : ∀ m ∈ s.meetingsIn bytes, P m.1 → P (m.1.receiveFrame m.2)) (h : P s) :
    P (s.receiveBytes bytes) := by
  cases hc : s.connection with
  | none =>
    rw [receiveBytes, hc]
    exact h
  | some c =>
    rw [meetingsIn, hc] at hframe
    have hempty : { s with connection := some { c with inbox := [] } }
        = s.modifyConnection ({ · with inbox := [] }) := by
      rw [modifyConnection, hc, Option.map_some]
    have hstart : P { s with connection := some { c with inbox := [] } } := by
      rw [hempty]
      exact hinbox s [] h
    have hframes := foldl_receiveFrame_induct hframe hstart
    rw [receiveBytes_eq hc]
    cases (Frame.cut Frame.defaultLimit (c.inbox ++ bytes)).2 with
    | none => exact hdetach _ hframes
    | some inbox => exact hinbox _ inbox hframes

end Session

namespace Engine

variable {e : Engine}

/-- The payloads that come with something that happens, each with the session that it meets. -/
def meetings (e : Engine) : Input → List (Session × Bytes)
  | .bytes bytes => e.session.meetingsIn bytes
  | _            => []

lemma isAttached_of_mem_meetings {input : Input} {m : Session × Bytes}
    (hm : m ∈ e.meetings input) :
    m.1.isAttached := by
  cases input with
  | bytes bytes =>
    have hm' : m ∈ e.session.meetingsIn bytes := hm
    rw [Session.meetingsIn] at hm'
    split at hm'
    · cases hm'
    · exact Session.isAttached_of_mem_meetings hm'
  | _ => cases hm

/-- The payloads that reach the session over a run. -/
def heard (e : Engine) : List (Network × Input) → List Bytes
  | []      => []
  | i :: is => (e.meetings i.2).map Prod.snd ++ (e.step i.1 i.2).1.heard is

/-- Something holds of everything that happens in a run, together with the engine to which it
happens. -/
def Always (P : Engine → Input → Prop) (e : Engine) : List (Network × Input) → Prop
  | []      => True
  | i :: is => P e i.2 ∧ (e.step i.1 i.2).1.Always P is

instance Always.decidable {P : Engine → Input → Prop} [∀ e input, Decidable (P e input)] :
    (e : Engine) → (run : List (Network × Input)) → Decidable (e.Always P run)
  | _, []      => .isTrue trivial
  | e, i :: is =>
    match (inferInstance : Decidable (P e i.2)), decidable (e.step i.1 i.2).1 is with
    | .isTrue h,  .isTrue h'  => .isTrue ⟨h, h'⟩
    | .isFalse h, _           => .isFalse fun hrun => h hrun.1
    | _,          .isFalse h' => .isFalse fun hrun => h' hrun.2

/-- What is kept whenever something happens as it always does in a run is kept by the run. -/
lemma run_induct {P : Engine → Input → Prop} {I : Engine → Prop}
    (hstep : ∀ e network input, I e → P e input → I (e.step network input).1)
    {run : List (Network × Input)} (h : I e) (hrun : e.Always P run) : I (e.run run).1 := by
  induction run generalizing e with
  | nil => exact h
  | cons i is ih =>
    obtain ⟨hfirst, hrest⟩ := hrun
    exact ih (hstep e i.1 i.2 h hfirst) hrest

end Engine

end RemoteDebugger
