import RemoteDebugger.Proofs.Session.Acts

/-!
# What a session writes

All letters of a session are written by `send`, which notes the state of that moment. Whatever a
session does is followed here to the letters that it adds: calls that are due at that moment, and
answers to the agent.
-/

namespace RemoteDebugger

/-! ### Letters -/

/-- The request of the other side that a record answers. -/
def Record.answered? : Record → Option RequestId
  | .response id _ => some id
  | _              => none

/-- Whether a record asks for something that makes sense only while the program stands still. -/
def Record.needsStop : Record → Bool
  | .request _ method _ _ => (Method.ofName? method).any Method.needsStop
  | _                     => false

/-- Whether the program stood still when the letter was written, if that is needed. -/
def Letter.isTimely (l : Letter) : Bool := !l.record.needsStop || l.state == .interacting

/-- Whether the letter is a call, and timely. -/
def Letter.isDue (l : Letter) : Bool := l.record.isCall && l.isTimely

lemma Letter.isTimely_of_isDue {l : Letter} (h : l.isDue) : l.isTimely :=
  (Bool.and_eq_true_iff.mp h).2

/-- What is due answers nothing. -/
lemma Letter.answered?_of_isDue {l : Letter} (h : l.isDue) : l.record.answered? = none := by
  obtain ⟨record, state⟩ := l
  cases record with
  | response id outcome => cases h
  | _ => rfl

lemma Method.ofName?_name (m : Method) : Method.ofName? m.name = some m := by
  cases m <;> decide

/-- A request is due if the program stands still, or need not. -/
lemma Letter.isDue_ask {id : RequestId} {m : Method} {args : List Json} {st : SessionState}
    (h : m.needsStop → st = .interacting) : Letter.isDue ⟨.ask id m args, st⟩ := by
  have hneeds : (Record.ask id m args).needsStop = m.needsStop := by
    simp only [Record.ask, Record.needsStop, Method.ofName?_name, Option.any_some]
  simp only [isDue, isTimely, hneeds]
  cases hm : m.needsStop with
  | false => rfl
  | true => rw [h hm]; rfl

lemma Letter.isTimely_response (id : RequestId) (outcome : Except RemoteError Json)
    (st : SessionState) : Letter.isTimely ⟨.response id outcome, st⟩ := rfl

namespace Session

variable {s s' s'' : Session} {P Q : Letter → Prop}

/-- From one session to the other, some letters were written, all of a kind. -/
def Wrote (P : Letter → Prop) (s s' : Session) : Prop :=
  ∃ ls, s'.letters = s.letters ++ ls ∧ ∀ l ∈ ls, P l

lemma Wrote.of_eq (h : s'.letters = s.letters) : Wrote P s s' :=
  ⟨[], by rw [h, List.append_nil], fun _ hl => nomatch hl⟩

lemma Wrote.refl (s : Session) : Wrote P s s := Wrote.of_eq rfl

/-- What was written in one act and the next was written in both. -/
lemma Wrote.trans (h : Wrote P s s') (h' : Wrote P s' s'') : Wrote P s s'' := by
  obtain ⟨ls, hls, hP⟩ := h
  obtain ⟨ls', hls', hP'⟩ := h'
  refine ⟨ls ++ ls', by rw [hls', hls, List.append_assoc], ?_⟩
  intro l hl
  rcases List.mem_append.mp hl with hl | hl
  · exact hP l hl
  · exact hP' l hl

lemma Wrote.mono (h : Wrote P s s') (hPQ : ∀ l, P l → Q l) : Wrote Q s s' := by
  obtain ⟨ls, hls, hP⟩ := h
  exact ⟨ls, hls, fun l hl => hPQ l (hP l hl)⟩

/-- What holds of all letters before and of those written since holds of all. -/
lemma Wrote.forall (h : Wrote P s s') (hs : ∀ l ∈ s.letters, P l) : ∀ l ∈ s'.letters, P l := by
  obtain ⟨ls, hls, hP⟩ := h
  intro l hl
  rw [hls] at hl
  rcases List.mem_append.mp hl with hl | hl
  · exact hs l hl
  · exact hP l hl

/-- What was written stays. -/
lemma Wrote.mem (h : Wrote P s s') {l : Letter} (hl : l ∈ s.letters) : l ∈ s'.letters := by
  obtain ⟨ls, hls, -⟩ := h
  rw [hls]
  exact List.mem_append_left ls hl

/-- The requests of the agent that were answered, one by one. -/
def answered (s : Session) : List RequestId := s.sent.filterMap Record.answered?

lemma answered_of_letters {ls : List Letter} (h : s'.letters = s.letters ++ ls) :
    s'.answered = s.answered ++ ls.filterMap fun l => l.record.answered? := by
  rw [answered, answered, sent, sent, h, List.map_append, List.filterMap_append,
    List.filterMap_map (l := ls)]
  rfl

/-- Calls answer nothing. -/
lemma Wrote.answered (h : Wrote (fun l => l.isDue) s s') : s'.answered = s.answered := by
  obtain ⟨ls, hls, hdue⟩ := h
  have hnone : ls.filterMap (fun l => l.record.answered?) = [] :=
    List.filterMap_eq_nil_iff.mpr fun l hl => Letter.answered?_of_isDue (hdue l hl)
  rw [answered_of_letters hls, hnone, List.append_nil]

/-! ### Sending -/

/-- The session that has written a record. -/
def withLetter (s : Session) (r : Record) : Session :=
  { s with letters := s.letters ++ [{ record := r, state := s.state }] }

lemma answered_withLetter (s : Session) (r : Record) :
    (s.withLetter r).answered = s.answered ++ r.answered?.toList := by
  have hletters : (s.withLetter r).letters = s.letters ++ [{ record := r, state := s.state }] :=
    rfl
  rw [answered_of_letters hletters]
  cases hr : r.answered? <;> simp [hr]

/-- A record is written and uses up room, or else the connection ends. -/
lemma send_eq (s : Session) (r : Record) :
    (s.isAttached ∧ ∃ room,
        s.send r = ((s.withLetter r).modifyConnection ({ · with room }), .ok ())) ∨
      ∃ e, s.send r = (s.detach, .error e) := by
  unfold send
  split
  · next hc =>
    right
    exact ⟨_, by rw [detach, hc]⟩
  · next c hc =>
    have hattached : s.isAttached := by rw [isAttached, hc]; rfl
    dsimp only
    split
    · next hroom =>
      left
      refine ⟨hattached, none, ?_⟩
      rw [modifyConnection, withLetter, hc, Option.map_some, ← hroom]
    · next room hroom =>
      split
      · left
        refine ⟨hattached, some (room - (Frame.encode r.encode).length), ?_⟩
        rw [modifyConnection, withLetter, hc, Option.map_some]
      · right
        exact ⟨_, rfl⟩

@[simp] lemma letters_detach (s : Session) : s.detach.letters = s.letters := by
  rw [detach]
  split
  · rfl
  · dsimp only
    split <;> rfl

lemma isAttached_detach (s : Session) : s.detach.isAttached = false := by
  rw [detach]
  split
  · next hc => rw [isAttached, hc]; rfl
  · rfl

lemma isAttached_modifyConnection (s : Session) (f : Connection → Connection) :
    (s.modifyConnection f).isAttached = s.isAttached := by
  rw [isAttached, isAttached, modifyConnection, Option.isSome_map]

lemma isAttached_of_send {r : Record} (h : (s.send r).1.isAttached) : s.isAttached := by
  rcases send_eq s r with ⟨hattached, -, -⟩ | ⟨e, heq⟩
  · exact hattached
  · rw [heq, isAttached_detach] at h
    cases h

/-- What is sent is one letter, unless the connection ends. -/
lemma wrote_send {r : Record} (h : P { record := r, state := s.state }) :
    Wrote P s (s.send r).1 := by
  rcases send_eq s r with ⟨-, room, heq⟩ | ⟨e, heq⟩
  · rw [heq]
    exact ⟨_, rfl, fun l hl => List.mem_singleton.mp hl ▸ h⟩
  · rw [heq]
    exact Wrote.of_eq (letters_detach s)

lemma state_register (s : Session) (m : Method) (awaited : Bool) :
    (s.register m awaited).state = s.state := by
  cases hc : s.connection <;> simp [register, modifyConnection, state, hc]

lemma wrote_tell {m : Method} {args : List Json}
    (h : P { record := .ask s.nextId m args, state := s.state }) :
    Wrote P s (s.tell m args) := by
  have hsent : Wrote P (s.register m false) (s.tell m args) :=
    wrote_send (by rw [state_register]; exact h)
  exact (Wrote.of_eq rfl).trans hsent

/-- A command that is waited for is one letter. -/
lemma wrote_ask {m : Method} {args : List Json}
    (h : P { record := .ask s.nextId m args, state := s.state }) :
    Wrote P s (s.ask m args).1 := by
  have hsent : Wrote P s
      (({ s with reply := none }.register m true).send (.ask s.nextId m args)).1 := by
    refine (Wrote.of_eq rfl).trans (wrote_send ?_)
    rw [state_register]
    exact h
  rw [ask]
  split
  · next s' hs' =>
    rw [hs'] at hsent
    exact hsent
  · next s' e hs' =>
    rw [hs'] at hsent
    exact hsent.trans (Wrote.of_eq rfl)

/-! ### Timely letters and calls -/

/-- From one session to the other, every letter was timely. -/
def WroteTimely (s s' : Session) : Prop := Wrote (fun l => l.isTimely) s s'

lemma WroteTimely.trans (h : WroteTimely s s') (h' : WroteTimely s' s'') : WroteTimely s s'' :=
  Wrote.trans h h'

/-- From one session to the other, nothing but calls was written, each of them when it was
due. -/
def Called (s s' : Session) : Prop := Wrote (fun l => l.isDue) s s'

lemma Called.of_eq (h : s'.letters = s.letters) : Called s s' := Wrote.of_eq h

lemma Called.refl (s : Session) : Called s s := Wrote.refl s

lemma Called.trans (h : Called s s') (h' : Called s' s'') : Called s s'' := Wrote.trans h h'

lemma Called.timely (h : Called s s') : WroteTimely s s' :=
  h.mono fun _ hl => Letter.isTimely_of_isDue hl

lemma called_tell {m : Method} {args : List Json} (h : m.needsStop → s.state = .interacting) :
    Called s (s.tell m args) := wrote_tell (Letter.isDue_ask h)

lemma called_ask {m : Method} {args : List Json} (h : m.needsStop → s.state = .interacting) :
    Called s (s.ask m args).1 := wrote_ask (Letter.isDue_ask h)

lemma called_notify (s : Session) (m : Method) :
    Called s (s.send (.notify m)).1 := wrote_send rfl

/-! ### Receiving -/

@[simp] lemma letters_settle (s : Session) (m : Method) (outcome : Except RemoteError Json) :
    (s.settle m outcome).1.letters = s.letters := by
  rw [settle]
  split
  · dsimp only
    split_ifs <;> rfl
  · rfl

/-- An answer is not answered. -/
lemma letters_receiveResponse (s : Session) (id : RequestId)
    (outcome : Except RemoteError Json) :
    (s.receiveResponse id outcome).letters = s.letters := by
  have hdeliver : ∀ (awaited : Bool) (t : Session) (a : Answer),
      (if awaited then t.deliver a else t).letters = t.letters := by
    intro awaited t a
    split_ifs <;> rfl
  rw [receiveResponse]
  split
  · rfl
  · split
    · rw [finish]
      dsimp only
      rw [hdeliver, letters_settle]
      rfl
    · rw [finishLate, letters_settle]
      rfl
    · rfl

/-- The session whose agent was told the breakpoints and the parameters. -/
def loaded (s : Session) : Session :=
  let s := s.breakpoints.all.foldl (fun s b => s.tell .setBreakpoint b.setArgs) s
  s.tell .setParams [s.config.params.toJson]

/-- The session whose program has leave to run. -/
def released (s : Session) : Session :=
  (if s.config.runWithoutPausing
    then s.modifyConnection fun c => { c with startContinue := true } else s).post (.notify .run)

/-- A startup is heard, answered, and then the program is let go. -/
lemma receiveStartup_eq (s : Session) (id : Option RequestId) :
    s.receiveStartup id = (s.loaded.respond id (.ok .null)).released := rfl

/-- What holds of every request whose answer nobody waits for holds of loading. -/
lemma loaded_of_tell {R : Session → Session → Prop} (hrefl : ∀ s, R s s)
    (htrans : ∀ {s s' s''}, R s s' → R s' s'' → R s s'')
    (htell : ∀ s m args, Method.needsStop m = false → R s (s.tell m args)) (s : Session) :
    R s s.loaded := by
  have hfold : ∀ (bs : List Breakpoint) (s : Session),
      R s (bs.foldl (fun s b => s.tell .setBreakpoint b.setArgs) s) := by
    intro bs
    induction bs with
    | nil => exact hrefl
    | cons b bs ih =>
      intro s
      exact htrans (htell s .setBreakpoint b.setArgs rfl) (ih _)
  exact htrans (hfold _ s) (htell _ .setParams _ rfl)

lemma called_loaded (s : Session) : Called s s.loaded := by
  apply loaded_of_tell Called.refl Called.trans
  intro s m args hm
  apply called_tell
  intro h
  rw [hm] at h
  cases h

lemma called_released (s : Session) : Called s s.released := by
  refine Called.trans ?_ (called_notify _ .run)
  split_ifs <;> exact Called.of_eq rfl

/-- The implicit request to run on is written once the stop is noted. -/
lemma called_receiveInteraction (s : Session) (args : List Json) (kwargs : Members) :
    Called s (s.receiveInteraction args kwargs) := by
  rw [receiveInteraction]
  split
  · exact Called.refl s
  · dsimp only
    split
    · exact (Called.of_eq rfl).trans (called_tell fun _ => rfl)
    · split
      · exact Called.of_eq rfl
      · split_ifs <;> exact Called.of_eq rfl

/-! ### Operations -/

/-- Nothing is written as a wait ends. -/
lemma letters_endWait (s : Session) (id : RequestId) (m : Method) :
    (s.endWait id m).1.letters = s.letters := by
  simp only [endWait, takeReply]
  split
  · next h =>
    obtain ⟨rfl, -⟩ := Prod.mk.inj h
    rfl
  · next h =>
    obtain ⟨rfl, -⟩ := Prod.mk.inj h
    rw [giveUp]
    dsimp only
    split <;> rfl

/-- Whatever happens but for what the agent sends and lines of input, nothing but calls are
written, each of them when it is due. -/
lemma lasting_called : Lasting Called where
  refl := Called.refl
  trans := Called.trans
  ask _ _ _ := called_ask
  notify := called_notify
  detach s := Called.of_eq (letters_detach s)
  breakpoints _ _ := Called.of_eq rfl
  suppress _ _ := Called.of_eq rfl
  relent _ := Called.of_eq rfl
  quitting _ := Called.of_eq rfl
  connected _ _ := Called.of_eq rfl
  endWait s id m := Called.of_eq (letters_endWait s id m)
  room _ _ := Called.of_eq rfl

end Session

end RemoteDebugger
