import RemoteDebugger.Proofs.Session.Answering
import RemoteDebugger.Proofs.Session.Writing

/-!
# Lines that programs are given

The only texts that a session answers the agent with are the lines of input that it is given for
the program: each of them answers the request that is noted, if there is one and room for the
answer. Whatever else happens, no text is answered.
-/

namespace RemoteDebugger

/-- The line that a record gives the program, and the request that it answers with it. -/
def Record.given? : Record → Option (RequestId × String)
  | .response id (.ok (.string text)) => some (id, text)
  | _                                 => none

namespace Session

variable {s s' : Session}

/-- The lines that programs were given, with the requests that they answer. -/
def given (s : Session) : List (RequestId × String) := s.sent.filterMap Record.given?

/-- What a line comes to if it is given to the session: an answer to the request that is noted,
if there is one, and room for it. -/
def gives (s : Session) (text : String) : List (RequestId × String) :=
  match s.inputRequest? with
  | some (id, _) => if s.takes [.response id (.ok (.string text))] then [(id, text)] else []
  | none         => []

/-! ### Letters that give nothing -/

/-- From one session to the other, no line was given to the program. -/
def Withholds (s s' : Session) : Prop := Wrote (fun l => l.record.given? = none) s s'

/-- What is given after an act is what the act writes to be given. -/
lemma given_of_letters {ls : List Letter} (h : s'.letters = s.letters ++ ls) :
    s'.given = s.given ++ ls.filterMap fun l => l.record.given? := by
  rw [given, given, sent, sent, h, List.map_append, List.filterMap_append,
    List.filterMap_map (l := ls)]
  rfl

lemma Withholds.given (h : Withholds s s') : s'.given = s.given := by
  obtain ⟨ls, hls, hnone⟩ := h
  rw [given_of_letters hls, List.filterMap_eq_nil_iff.mpr hnone, List.append_nil]

lemma Withholds.trans {s'' : Session} (h : Withholds s s') (h' : Withholds s' s'') :
    Withholds s s'' :=
  Wrote.trans h h'

lemma Withholds.of_eq (h : s'.letters = s.letters) : Withholds s s' := Wrote.of_eq h

/-- Calls are no answers. -/
lemma given?_of_isDue {l : Letter} (h : l.isDue) : l.record.given? = none := by
  obtain ⟨record, state⟩ := l
  cases record with
  | response id outcome => cases h
  | _ => rfl

lemma Called.withholds (h : Called s s') : Withholds s s' := h.mono fun _ => given?_of_isDue

lemma withholds_post (s : Session) (id : RequestId) {outcome : Except RemoteError Json}
    (h : ∀ text, outcome ≠ .ok (.string text)) :
    Withholds s (s.post (.response id outcome)) := by
  refine wrote_send ?_
  show Record.given? (.response id outcome) = none
  rw [Record.given?.eq_def]
  split
  · next heq =>
    obtain ⟨-, rfl⟩ := Record.response.inj heq
    exact absurd rfl (h _)
  · rfl

/-- An answer that is no text gives no line to the program. -/
lemma withholds_respond (s : Session) (id : Option RequestId) {outcome : Except RemoteError Json}
    (h : ∀ text, outcome ≠ .ok (.string text)) : Withholds s (s.respond id outcome) := by
  cases id with
  | some id => exact withholds_post s id h
  | none => exact Wrote.refl s

/-! ### What the agent sends -/

/-- No call of the agent gives a line to the program. -/
lemma withholds_receiveCall (s : Session) (id : Option RequestId) (method : String)
    (args : List Json) (kwargs : Members) :
    Withholds s (s.receiveCall id method args kwargs) := by
  have hnull : ∀ text, (.ok .null : Except RemoteError Json) ≠ .ok (.string text) := by
    rintro text ⟨⟩
  have herror : ∀ (e : RemoteError) (text : String),
      .error e ≠ (.ok (.string text) : Except RemoteError Json) := by
    rintro e text ⟨⟩
  simp only [receiveCall]
  split
  · exact withholds_respond s id (herror _)
  · rw [receiveStartup_eq]
    exact (called_loaded s).withholds.trans
      ((withholds_respond s.loaded id hnull).trans (called_released _).withholds)
  · split
    · exact Withholds.of_eq rfl
    · exact Wrote.refl s
  · exact (called_receiveInteraction s args kwargs).withholds.trans
      (withholds_respond _ id hnull)
  · exact (called_publish s _).withholds.trans (withholds_respond _ id hnull)
  · exact (called_receiveException s args).withholds.trans (withholds_respond _ id hnull)
  · exact withholds_respond s id (herror _)

lemma withholds_receiveMalformed (s : Session) (e : DecodeError) :
    Withholds s (s.receiveMalformed e) := by
  simp only [receiveMalformed]
  split
  · exact Wrote.refl s
  · exact withholds_post s _ nofun
  · split
    · exact Wrote.refl s
    · split
      · exact Wrote.refl s
      · split_ifs <;> exact Withholds.of_eq rfl

/-- No payload gives a line to the program. -/
lemma withholds_receiveFrame (s : Session) (payload : Bytes) :
    Withholds s (s.receiveFrame payload) := by
  rw [receiveFrame]
  split
  · exact Wrote.refl s
  · split
    · next r _ =>
      cases r with
      | response id outcome => exact Withholds.of_eq (letters_receiveResponse s id outcome)
      | notification method args kwargs => exact withholds_receiveCall s none method args kwargs
      | request id method args kwargs =>
        exact withholds_receiveCall s (some id) method args kwargs
    · exact withholds_receiveMalformed s _

/-! ### Lines of input -/

/-- What is sent over a connection is written if there is room for it. -/
lemma given_send (hattached : s.isAttached) (r : Record) :
    (s.send r).1.given = s.given ++ if s.takes [r] then r.given?.toList else [] := by
  have hwrites := writes_send s r
  have hstands := hwrites.isAttached hattached
  rcases send_eq s r with ⟨-, room, heq⟩ | ⟨e, heq⟩
  · have htakes : s.takes [r] := by
      rw [heq, isAttached_modifyConnection] at hstands
      exact hstands.symm.trans hattached
    rw [htakes] at hstands
    rw [htakes, if_pos rfl, given, hwrites.sent hstands, List.filterMap_append, given]
    cases hr : r.given? <;> simp [hr]
  · rw [heq, isAttached_detach] at hstands
    rw [← hstands, if_neg Bool.false_ne_true, List.append_nil, heq, given, given, sent, sent,
      letters_detach]

/-- The program is given a line if it waits for one and the answer can be written. -/
lemma given_provideInput (s : Session) (text : String) :
    (s.provideInput text).1.given = s.given ++ s.gives text := by
  rw [provideInput, gives, inputRequest?]
  cases hc : s.connection with
  | none => exact (List.append_nil _).symm
  | some c =>
    rw [Option.bind_some]
    dsimp only
    cases hr : c.inputRequest with
    | none => exact (List.append_nil _).symm
    | some request =>
      obtain ⟨id, previous⟩ := request
      have hroom :
          ({ s with connection := some { c with inputRequest := none, interaction := previous } }
            : Session).room? = s.room? := by
        rw [room?, room?, hc, Option.map_some, Option.map_some]
      refine (given_send rfl (.response id (.ok (.string text)))).trans ?_
      rw [takes_of_room? hroom]
      rfl

end Session

namespace Engine

/-- What something that happens gives to the program. -/
def gives (e : Engine) : Input → List (RequestId × String)
  | .start (.input text) => e.session.gives text
  | _                    => []

/-- Nothing but a line of input gives a line to the program. -/
lemma given_step (e : Engine) (network : Network) (input : Input) :
    (e.step network input).1.session.given = e.session.given ++ e.gives input := by
  by_cases hinput : ∃ text, input = .start (.input text)
  · obtain ⟨text, rfl⟩ := hinput
    rw [step_input]
    exact Session.given_provideInput e.session text
  · have hnone : e.gives input = [] := by
      rw [gives.eq_def]
      split
      · next text => exact absurd ⟨text, rfl⟩ hinput
      · rfl
    rw [hnone, List.append_nil]
    apply Session.Withholds.given
    apply wrote_step e network
    · exact fun l hdue => Session.given?_of_isDue hdue
    · exact fun _ _ => rfl
    · exact fun bytes _ =>
        Session.wrote_receiveBytes Session.withholds_receiveFrame e.session bytes
    · exact fun text heq => absurd ⟨text, heq⟩ hinput

end Engine

end RemoteDebugger
