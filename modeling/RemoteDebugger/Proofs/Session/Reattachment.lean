import RemoteDebugger.Proofs.Session.Remains
import RemoteDebugger.Proofs.Session.Repetition

/-!
# Connections after others

Two sessions that gave up their connections and begin new ones go on alike, whatever each of them
has behind it: they answer the same, stand the same, tell the same and write the same, but for
the numbers of the requests.
-/

namespace RemoteDebugger

namespace Session

variable {p : Past} {inbox : Bytes} {s s' : Session}

/-! ### Bytes after a past -/

/-- What was read of payloads, without answers to requests with numbers before `d`. -/
def readSince (d : Nat) (payloads : List Bytes) : List (Except DecodeError Record) :=
  (payloads.map Record.decode).filter (!isLate d ·)

lemma Repeats.between (h : Repeats p inbox s s') : Repeats p inbox s.between s'.between :=
  h.modify (fun _ => rfl) fun _ => rfl

/-- Payloads do the same after a past, with those among them that are too late. -/
lemma Repeats.foldl (h : Repeats p inbox s s') {payloads : List Bytes}
    {readings : List (Except DecodeError Record)}
    (hread : readSince p.numbers payloads = readings.map (readLater p.numbers)) :
    Repeats p inbox (readings.foldl Session.take s) (payloads.foldl receiveFrame s') := by
  induction payloads generalizing s s' readings with
  | nil =>
    obtain rfl : readings = [] := List.map_eq_nil_iff.mp hread.symm
    exact h
  | cons payload payloads ih =>
    rw [readSince, List.map_cons] at hread
    rw [List.foldl_cons, receiveFrame_eq]
    cases hlate : isLate p.numbers (Record.decode payload) with
    | true =>
      rw [List.filter_cons_of_neg (by rw [hlate]; exact Bool.false_ne_true)] at hread
      rw [h.take_of_isLate hlate]
      exact ih h hread
    | false =>
      rw [List.filter_cons_of_pos (by rw [hlate]; rfl)] at hread
      obtain ⟨reading, readings, rfl, hfirst, hrest⟩ := List.map_eq_cons_iff.mp hread.symm
      rw [← hfirst]
      exact ih (h.take reading) hrest.symm

/-- What is there of the next frame matters no more than by being there. -/
lemma Repeats.leave (h : Repeats p inbox s s') {tail tail' : Option Bytes}
    (htail : tail'.map List.isEmpty = tail.map List.isEmpty) :
    ∃ inbox', Repeats p inbox' (s.leave tail) (s'.leave tail') := by
  cases tail with
  | none =>
    obtain rfl : tail' = none := Option.map_eq_none_iff.mp htail
    exact ⟨inbox, h.detach⟩
  | some t =>
    obtain ⟨t', rfl, ht⟩ := Option.map_eq_some_iff.mp htail
    have hkept : ∀ inbox', inbox' ≠ [] → (t' = if t.isEmpty then [] else inbox') →
        Repeats p inbox' (s.leave (some t)) (s'.leave (some t')) := by
      intro inbox' hinbox' hsame
      refine ⟨?_, hinbox', fun c hc => ?_⟩
      · rw [h.eq, Session.leave, Session.leave, modifyConnection, modifyConnection, later, later,
          Option.map_map, Option.map_map]
        congr 2
        funext c
        rw [Function.comp_apply, Function.comp_apply, Connection.later, Connection.later, hsame]
      · obtain ⟨c₀, hc₀, rfl⟩ := Option.map_eq_some_iff.mp hc
        exact h.room c₀ hc₀
    cases hempty : t.isEmpty with
    | true =>
      rw [hempty] at ht
      refine ⟨inbox, hkept inbox h.inbox ?_⟩
      rw [hempty, if_pos rfl]
      exact List.isEmpty_iff.mp ht
    | false =>
      rw [hempty] at ht
      refine ⟨t', hkept t' (List.isEmpty_eq_false_iff.mp ht) ?_⟩
      rw [hempty, if_neg Bool.false_ne_true]

/-- A frame that does not come to its end repeats itself. -/
lemma Repeats.expireFrame (h : Repeats p inbox s s') :
    Repeats p inbox s.expireFrame s'.expireFrame := by
  have hmid : s'.isMidFrame = s.isMidFrame := by
    rw [isMidFrame, isMidFrame, h.connection]
    cases s.connection with
    | none => rfl
    | some c =>
      show (!(if c.inbox.isEmpty then [] else inbox).isEmpty) = !c.inbox.isEmpty
      cases c.inbox.isEmpty
      · rw [if_neg Bool.false_ne_true, List.isEmpty_eq_false_iff.mpr h.inbox]
      · rfl
  rw [Session.expireFrame, Session.expireFrame, hmid]
  split_ifs
  · exact h.detach
  · exact h

lemma Repeats.roomFor (h : Repeats p inbox s s') {room : Option Nat}
    (hroom : room = none ∨ room = some 0) :
    Repeats p inbox (s.modifyConnection ({ · with room }))
      (s'.modifyConnection ({ · with room })) := by
  refine ⟨?_, h.inbox, fun c hc => ?_⟩
  · rw [h.eq, modifyConnection, modifyConnection, later, later, Option.map_map, Option.map_map]
    rfl
  · obtain ⟨c₀, -, rfl⟩ := Option.map_eq_some_iff.mp hc
    exact hroom

/-! ### The beginning of a connection -/

/-- What an operation that attaches comes to without a connection depends on the configuration
alone. -/
lemma start_of_detached (config : SessionConfig) (network : Network) (target : Target)
    {operation : Operation} (hoperation : operation ∈ [.attach target, .attachRetrying target]) :
    ∃ r : Except SessionError Unit, ∀ s : Session, s.config = config → s.connection = none →
      s.start network operation
        = (if r.isOk then s.connected target.isRemote else s, .finished (unitAnswer r)) := by
  have hdetached : ∀ s : Session, s.connection = none → ¬ s.isAttached := by
    intro s hs
    rw [isAttached, hs]
    exact Bool.false_ne_true
  have hattempt : ∀ s : Session, s.config = config → ∀ r,
      s.attempt r = ({ config } : Session).attempt r := by
    rintro s rfl r
    unfold attempt
    rfl
  simp only [List.mem_cons, List.not_mem_nil, or_false] at hoperation
  rcases hoperation with rfl | rfl
  · refine ⟨({ config } : Session).attempt (network target 0), fun s hconfig hs => ?_⟩
    rw [start, attach, if_neg (hdetached s hs), hattempt s hconfig]
    cases ({ config } : Session).attempt (network target 0) <;> rfl
  · refine ⟨(config.attachRetry.retry SessionError.isUnreached fun k =>
        ({ config } : Session).attempt (network target k)).outcome.mapError fun e =>
          if e.isUnreached then .exhausted config.attachRetry.attempts e else e,
      fun s hconfig hs => ?_⟩
    have htries : (fun k => s.attempt (network target k)) = fun k =>
        ({ config } : Session).attempt (network target k) := funext fun k => hattempt s hconfig _
    rw [start, attachRetrying, if_neg (hdetached s hs), htries, hconfig]
    dsimp only
    cases (config.attachRetry.retry SessionError.isUnreached fun k =>
      ({ config } : Session).attempt (network target k)).outcome <;> rfl

/-- What a session without a connection has behind it. -/
def past (s : Session) : Past where
  numbers     := s.nextId
  connections := s.epoch
  letters     := s.letters
  events      := s.events.queued

/-- A session on its first connection, with no more than a configuration and breakpoints. -/
def first (config : SessionConfig) (breakpoints : Registry) (remote : Bool) : Session :=
  ({ config, breakpoints, nextId := 0 } : Session).connected remote

/-- On a new connection, nothing is left of what was before but numbers, letters and events.
Nothing is there of a frame yet, so that any bytes can stand for what is. -/
lemma repeats_connected (hreply : s.reply = none) (remote : Bool) :
    Repeats s.past [0] (first s.config s.breakpoints remote) (s.connected remote) := by
  refine ⟨?_, List.cons_ne_nil _ _, fun c hc => ?_⟩
  · rw [connected, first, connected, later, past, hreply]
    simp [Connection.later, renumber]
  · cases hc
    exact .inl rfl

end Session

namespace Engine

open Session

variable {p p₁ p₂ : Past} {e e' e₁ e₂ : Engine}

/-! ### Engines with a past -/

/-- From what one engine does, the other one differs by nothing but its past. -/
structure Repeats (p : Past) (e e' : Engine) : Prop where
  session : ∃ inbox, Session.Repeats p inbox e.session e'.session
  task : e'.task = e.task.map (Task.later p)

/-- From what comes to happen to one engine, the other differs by nothing but the past. -/
structure Replies (p : Past) (r r' : Engine × Option Answer) : Prop where
  engine : Repeats p r.1 r'.1
  answer : r'.2 = r.2.map (laterResult p.numbers)

/-- Engines repeat each other through what happens to both sessions alike. -/
lemma Repeats.modify (h : Repeats p e e') {f f' : Session → Session}
    (hf : ∀ inbox, Session.Repeats p inbox e.session e'.session →
      ∃ inbox', Session.Repeats p inbox' (f e.session) (f' e'.session)) :
    Replies p (e.modify f, none) (e'.modify f', none) := by
  obtain ⟨inbox, hsession⟩ := h.session
  exact ⟨⟨hf inbox hsession, h.task⟩, rfl⟩

lemma replies_after {inbox : Bytes} {r r' : Session × Progress} (h : Follows p inbox r r') :
    Replies p (after r) (after r') := by
  obtain ⟨s, progress⟩ := r
  obtain ⟨s', progress'⟩ := r'
  obtain rfl : progress' = progress.later p := h.progress
  cases progress with
  | finished answer => exact ⟨⟨⟨inbox, h.session⟩, rfl⟩, rfl⟩
  | waiting task => exact ⟨⟨⟨inbox, h.session⟩, rfl⟩, rfl⟩

/-- An operation begins alike in both engines. -/
lemma Repeats.start (h : Repeats p e e') (network : Network) (operation : Operation) :
    Replies p (e.step network (.start operation)) (e'.step network (.start operation)) := by
  obtain ⟨inbox, hsession⟩ := h.session
  have hstarted := replies_after (hsession.start network operation)
  show Replies p (e.start network operation) (e'.start network operation)
  rw [Engine.start, Engine.start, h.task]
  cases ht : e.task with
  | none => exact hstarted
  | some task =>
    rw [Option.map_some]
    dsimp only
    split_ifs
    · exact ⟨h, rfl⟩
    · exact ⟨⟨hstarted.engine.session, rfl⟩, hstarted.answer⟩

lemma Repeats.wake (h : Repeats p e e') (network : Network) :
    Replies p (e.step network .wake) (e'.step network .wake) := by
  obtain ⟨inbox, hsession⟩ := h.session
  rw [Engine.step, Engine.step, h.task]
  cases e.task with
  | none => exact ⟨h, rfl⟩
  | some task => exact replies_after (hsession.wake task)

/-! ### What happens alike -/

/-- The payloads that are handled when bytes come, and what is there of the next frame. -/
def arrivals (e : Engine) (bytes : Bytes) : List Bytes × Option Bytes :=
  match e.inbox? with
  | none       => ([], none)
  | some inbox => Frame.cut Frame.defaultLimit (inbox ++ bytes)

/-- Bytes are handled as the payloads that they are cut into. -/
lemma step_bytes (e : Engine) (network : Network) (bytes : Bytes) :
    e.step network (.bytes bytes)
      = (e.modify fun s =>
        ((e.arrivals bytes).1.foldl receiveFrame s.between).leave (e.arrivals bytes).2,
        none) := by
  refine Prod.ext ?_ rfl
  show e.modify (·.receiveBytes bytes) = _
  rw [modify, modify, arrivals, inbox?]
  congr 1
  cases hc : e.session.connection with
  | none =>
    rw [Option.map_none, List.foldl_nil, Session.between, modifyConnection, hc,
      Option.map_none, ← hc, leave_of_detached hc, receiveBytes, hc]
  | some c => exact modify_receiveBytes hc network bytes

/-- Agents say the same to two engines: the same frames come whole, but that answers are to
requests that have later numbers, and that answers may come to requests before `d₁` and `d₂`. -/
structure SayAlike (d₁ d₂ : Nat) (e₁ e₂ : Engine) (bytes₁ bytes₂ : Bytes) : Prop where
  payloads : ∃ readings : List (Except DecodeError Record),
    readSince d₁ (e₁.arrivals bytes₁).1 = readings.map (readLater d₁) ∧
      readSince d₂ (e₂.arrivals bytes₂).1 = readings.map (readLater d₂)
  tails : (e₁.arrivals bytes₁).2.map List.isEmpty = (e₂.arrivals bytes₂).2.map List.isEmpty

/-- The same happens to two engines. Agents take all that is written to them, or nothing more:
any other limit would tell long numbers from short ones. -/
inductive Alike (d₁ d₂ : Nat) (e₁ e₂ : Engine) : Input → Input → Prop
  | start (operation : Operation) : Alike d₁ d₂ e₁ e₂ (.start operation) (.start operation)
  | bytes {bytes₁ bytes₂ : Bytes} (h : SayAlike d₁ d₂ e₁ e₂ bytes₁ bytes₂) :
      Alike d₁ d₂ e₁ e₂ (.bytes bytes₁) (.bytes bytes₂)
  | endOfStream : Alike d₁ d₂ e₁ e₂ .endOfStream .endOfStream
  | frameTimeout : Alike d₁ d₂ e₁ e₂ .frameTimeout .frameTimeout
  | wake : Alike d₁ d₂ e₁ e₂ .wake .wake
  | room {room : Option Nat} (h : room = none ∨ room = some 0) :
      Alike d₁ d₂ e₁ e₂ (.room room) (.room room)

/-- The same happens to two engines over a run. -/
inductive RunAlike (d₁ d₂ : Nat) :
    Engine → Engine → List (Network × Input) → List (Network × Input) → Prop
  | nil {e₁ e₂ : Engine} : RunAlike d₁ d₂ e₁ e₂ [] []
  | cons {e₁ e₂ : Engine} {network : Network} {i₁ i₂ : Input} {is₁ is₂ : List (Network × Input)}
      (h : Alike d₁ d₂ e₁ e₂ i₁ i₂)
      (hs : RunAlike d₁ d₂ (e₁.step network i₁).1 (e₂.step network i₂).1 is₁ is₂) :
      RunAlike d₁ d₂ e₁ e₂ ((network, i₁) :: is₁) ((network, i₂) :: is₂)

/-- When the same happens to two engines that differ by their pasts, they go on to differ by no
more. -/
lemma Alike.step {i₁ i₂ : Input} (h : Alike p₁.numbers p₂.numbers e₁ e₂ i₁ i₂)
    (h₁ : Repeats p₁ e e₁) (h₂ : Repeats p₂ e e₂) (network : Network) :
    ∃ r, Replies p₁ r (e₁.step network i₁) ∧ Replies p₂ r (e₂.step network i₂) := by
  cases h with
  | start operation => exact ⟨_, h₁.start network operation, h₂.start network operation⟩
  | @bytes bytes₁ bytes₂ h =>
    obtain ⟨readings, hread₁, hread₂⟩ := h.payloads
    rw [step_bytes, step_bytes]
    -- what there is of a frame for the common engine is what there is of one for the first
    refine ⟨(e.modify fun s =>
        (readings.foldl Session.take s.between).leave (e₁.arrivals bytes₁).2, none),
      h₁.modify fun inbox hs => ?_, h₂.modify fun inbox hs => ?_⟩
    · exact (hs.between.foldl hread₁).leave rfl
    · exact (hs.between.foldl hread₂).leave h.tails.symm
  | endOfStream =>
    exact ⟨_, h₁.modify fun inbox hs => ⟨inbox, hs.detach⟩, h₂.modify fun inbox hs =>
      ⟨inbox, hs.detach⟩⟩
  | frameTimeout =>
    exact ⟨_, h₁.modify fun inbox hs => ⟨inbox, hs.expireFrame⟩,
      h₂.modify fun inbox hs => ⟨inbox, hs.expireFrame⟩⟩
  | wake => exact ⟨_, h₁.wake network, h₂.wake network⟩
  | room hroom =>
    exact ⟨e.step network (.room _), h₁.modify fun inbox hs => ⟨inbox, hs.roomFor hroom⟩,
      h₂.modify fun inbox hs => ⟨inbox, hs.roomFor hroom⟩⟩

/-- From what comes of a run for one engine, the other differs by nothing but the past. -/
structure Retells (p : Past) (r r' : Engine × List Answer) : Prop where
  engine : Repeats p r.1 r'.1
  answers : r'.2 = r.2.map (laterResult p.numbers)

/-- When the same happens over two runs, the same is told over both. -/
lemma RunAlike.run {is₁ is₂ : List (Network × Input)}
    (h : RunAlike p₁.numbers p₂.numbers e₁ e₂ is₁ is₂) (h₁ : Repeats p₁ e e₁)
    (h₂ : Repeats p₂ e e₂) :
    ∃ r, Retells p₁ r (e₁.run is₁) ∧ Retells p₂ r (e₂.run is₂) := by
  induction h generalizing e with
  | nil => exact ⟨(e, []), ⟨h₁, rfl⟩, ⟨h₂, rfl⟩⟩
  | @cons e₁ e₂ network i₁ i₂ is₁ is₂ hfirst _ ih =>
    obtain ⟨first, hfirst₁, hfirst₂⟩ := hfirst.step h₁ h₂ network
    obtain ⟨rest, hrest₁, hrest₂⟩ := ih hfirst₁.engine hfirst₂.engine
    have hanswers : ∀ (d : Nat) (a : Option Answer) (as : List Answer),
        (a.map (laterResult d)).toList ++ as.map (laterResult d)
          = (a.toList ++ as).map (laterResult d) := by
      intro d a as
      cases a <;> rfl
    refine ⟨(rest.1, first.2.toList ++ rest.2), ⟨hrest₁.engine, ?_⟩, ⟨hrest₂.engine, ?_⟩⟩
    · rw [run]
      dsimp only
      rw [hfirst₁.answer, hrest₁.answers, hanswers]
    · rw [run]
      dsimp only
      rw [hfirst₂.answer, hrest₂.answers, hanswers]

/-! ### What shows of a past -/

lemma Repeats.status (h : Repeats p e e') : e'.session.status = e.session.status := by
  obtain ⟨inbox, hs⟩ := h.session
  have hrequest : e'.session.inputRequest? = e.session.inputRequest? := by
    rw [inputRequest?, inputRequest?, hs.connection]
    cases e.session.connection <;> rfl
  have hlocation : e'.session.location = e.session.location := hs.eq ▸ rfl
  have hexception : e'.session.lastException = e.session.lastException := hs.eq ▸ rfl
  rw [Session.status, Session.status, hs.state, hrequest, hlocation, hexception]

lemma Repeats.breakpoints (h : Repeats p e e') :
    e'.session.breakpoints = e.session.breakpoints := by
  obtain ⟨inbox, hs⟩ := h.session
  exact hs.eq ▸ rfl

/-- The events of a later engine are those before and those of the other. -/
lemma Repeats.events (h : Repeats p e e') :
    e'.session.events.queued = p.events ++ e.session.events.queued := by
  obtain ⟨inbox, hs⟩ := h.session
  exact hs.eq ▸ rfl

/-- The records of a later engine are those before and those of the other, with later numbers. -/
lemma Repeats.sent (h : Repeats p e e') : e'.session.sent
    = p.letters.map Letter.record ++ e.session.sent.map (Record.callLater p.numbers) := by
  obtain ⟨inbox, hs⟩ := h.session
  rw [hs.eq, Session.sent, Session.sent, later, List.map_append, List.map_map, List.map_map]
  rfl

/-- What came of a run since `e`, but for the numbers from `d` on: the answers, the events that
user interfaces are to be told, and the records that were written. -/
structure Yields (d : Nat) (e : Engine) (answers : List Answer) (events : List Event)
    (records : List Record) (r : Engine × List Answer) : Prop where
  answers : r.2 = answers.map (laterResult d)
  events : r.1.session.events.queued = e.session.events.queued ++ events
  sent : r.1.session.sent = e.session.sent ++ records.map (Record.callLater d)

lemma Retells.yields {e₀ : Engine} {r r' : Engine × List Answer}
    (h : Retells e₀.session.past r r') :
    Yields e₀.session.nextId e₀ r.2 r.1.session.events.queued r.1.session.sent r' :=
  ⟨h.answers, h.engine.events, h.engine.sent⟩

/-! ### New connections -/

/-- An engine on a new connection. -/
def attached (e : Engine) (remote : Bool) : Engine := { session := e.session.connected remote }

/-- A session that was attached anew repeats the first one. -/
lemma repeats_attached (hreply : e.session.reply = none) (remote : Bool) :
    Repeats e.session.past { session := first e.session.config e.session.breakpoints remote }
      (e.attached remote) :=
  ⟨⟨[0], repeats_connected hreply remote⟩, rfl⟩

/-- An attempt to attach comes to the same for all engines with a configuration. -/
lemma step_attach (config : SessionConfig) (network : Network) (target : Target)
    {operation : Operation} (hoperation : operation ∈ [.attach target, .attachRetrying target]) :
    ∃ answer, ∀ e :
    Engine, e.session.config = config → e.session.connection = none → e.task = none →
      (e.step network (.start operation)).2 = some answer ∧
        (answer = .ok .null → (e.step network (.start operation)).1
          = e.attached target.isRemote) := by
  obtain ⟨r, hr⟩ := start_of_detached config network target hoperation
  refine ⟨unitAnswer r, fun e hconfig hnone ht => ?_⟩
  have hstep : e.step network (.start operation)
      = ({ session := if r.isOk then e.session.connected target.isRemote else e.session },
        some (unitAnswer r)) := by
    rw [Engine.step, Engine.start, ht]
    dsimp only
    rw [hr e.session hconfig hnone]
    rfl
  rw [hstep]
  refine ⟨rfl, fun hok => ?_⟩
  cases r with
  | ok _ => rfl
  | error e => cases hok

lemma connection_of_state (h : e.session.state = .detached) : e.session.connection = none := by
  refine connection_of_detached ?_
  rw [isAttached_eq_state, h]
  exact Bool.false_ne_true

/-- A run ends without an answer that is left behind, if no operation is under way. -/
lemma reply_of_task (config : SessionConfig) {run : List (Network × Input)}
    (he : (Engine.run { session := { config } } run).1 = e) (ht : e.task = none) :
    e.session.reply = none := by
  have hleaves : e.LeavesNone := by
    rw [← he]
    exact LeavesNone.run (.inr rfl) (sound_new config) run
  exact (hleaves.idle (he ▸ (sound_new config).run run) (by simp [ht])).2

/-- A session without a connection and an operation has nothing of its connections left, and none
of them can be ended again. Two such sessions with the same breakpoints come to attach alike, and
on their new connections nothing tells them apart: as long as the same happens to both, but for
the numbers of the answers and for answers that are too late, they answer the same, stand the
same, tell the same and write the same, but for the numbers of the requests. -/
theorem reattached_afresh (config : SessionConfig) (run₁ run₂ : List (Network × Input))
    (e₁ e₂ : Engine) (he₁ : (Engine.run { session := { config } } run₁).1 = e₁)
    (he₂ : (Engine.run { session := { config } } run₂).1 = e₂)
    (hdetached₁ : e₁.session.state = .detached) (hdetached₂ : e₂.session.state = .detached)
    (htask₁ : e₁.task = none) (htask₂ : e₂.task = none)
    (hbreakpoints : e₁.session.breakpoints = e₂.session.breakpoints) :
    (e₁.session.connection = none ∧ e₁.session.pending = [] ∧ e₁.session.abandoned = [] ∧
        e₁.session.inputRequest? = none ∧
        ∀ n ≤ e₁.session.epoch, ∀ run, (e₁.run run).1.session.drop n = (e₁.run run).1.session) ∧
      ∀ network target, ∀ operation ∈ [Operation.attach target, .attachRetrying target],
        let d₁ := e₁.session.nextId
        let d₂ := e₂.session.nextId
        let a₁ := e₁.step network (.start operation)
        let a₂ := e₂.step network (.start operation)
        a₁.2 = a₂.2 ∧ (a₁.2 = some (.ok .null) →
          a₁.1.session.connection
            = some { epoch := e₁.session.epoch + 1, remote := target.isRemote } ∧
          a₁.1.session.location = none ∧ a₁.1.session.lastException = none ∧
          ∀ is₁ is₂, RunAlike d₁ d₂ a₁.1 a₂.1 is₁ is₂ →
            (a₁.1.run is₁).1.session.status = (a₂.1.run is₂).1.session.status ∧
            (a₁.1.run is₁).1.session.breakpoints = (a₂.1.run is₂).1.session.breakpoints ∧
            ∃ answers events records, Yields d₁ e₁ answers events records (a₁.1.run is₁) ∧
              Yields d₂ e₂ answers events records (a₂.1.run is₂)) := by
  have hnone₁ := connection_of_state hdetached₁
  have hnone₂ := connection_of_state hdetached₂
  have hconfig₁ : e₁.session.config = config := he₁ ▸ config_run _ run₁
  have hconfig₂ : e₂.session.config = config := he₂ ▸ config_run _ run₂
  refine ⟨⟨hnone₁, ?_, ?_, ?_, fun n hn run => ?_⟩,
    fun network target operation hoperation => ?_⟩
  · rw [pending, hnone₁]
    rfl
  · rw [abandoned, hnone₁]
    rfl
  · rw [inputRequest?, hnone₁]
    rfl
  · -- no attempt to quit a former connection drops the new one
    rw [drop, if_neg (bygone_run (bygone_of_detached hnone₁ hn) run).gone]
  · obtain ⟨answer, hanswer⟩ := step_attach config network target hoperation
    obtain ⟨hanswer₁, hattached₁⟩ := hanswer e₁ hconfig₁ hnone₁ htask₁
    obtain ⟨hanswer₂, hattached₂⟩ := hanswer e₂ hconfig₂ hnone₂ htask₂
    intro d₁ d₂ a₁ a₂
    refine ⟨hanswer₁.trans hanswer₂.symm, fun hok => ?_⟩
    have hsucceeds : answer = .ok .null := Option.some.inj (hanswer₁.symm.trans hok)
    have ha₁ : a₁.1 = e₁.attached target.isRemote := hattached₁ hsucceeds
    have ha₂ : a₂.1 = e₂.attached target.isRemote := hattached₂ hsucceeds
    have hrepeats₁ := repeats_attached (reply_of_task config he₁ htask₁) target.isRemote
    have hrepeats₂ := repeats_attached (reply_of_task config he₂ htask₂) target.isRemote
    rw [hconfig₁, hbreakpoints] at hrepeats₁
    rw [hconfig₂] at hrepeats₂
    rw [ha₁, ha₂]
    refine ⟨rfl, rfl, rfl, fun is₁ is₂ halike => ?_⟩
    have hpasts : RunAlike e₁.session.past.numbers e₂.session.past.numbers _ _ is₁ is₂ := halike
    obtain ⟨r, hr₁, hr₂⟩ := hpasts.run hrepeats₁ hrepeats₂
    exact ⟨hr₁.engine.status.trans hr₂.engine.status.symm,
      hr₁.engine.breakpoints.trans hr₂.engine.breakpoints.symm, _, _, _, hr₁.yields, hr₂.yields⟩

def stopping :
    Record := .notification "interaction" [.string "/a.py", Json.nat 1, .string "x"] []

/-- The program is at a stop, has an exception and steps, and the user detaches. -/
def visited : List (Network × Input) :=
  [(fun _ _ => .ok (), .start (.attach {})),
    (Network.nowhere, .bytes (Frame.encode stopping.encode)),
    (Network.nowhere,
      .bytes (Frame.encode (Record.notification "exception" [.string "E"] []).encode)),
    (Network.nowhere, .start .step), (Network.nowhere, .start .detach), (Network.nowhere, .wake)]

/-- The program stops, and gives the value of an expression by an answer to the request `n`,
after other bytes. -/
def evaluated (before : Bytes) (n : RequestId) : List (Network × Input) :=
  [(Network.nowhere, .bytes (Frame.encode stopping.encode)),
    (Network.nowhere, .start (.eval "x")),
    (Network.nowhere,
      .bytes (before ++ Frame.encode (Record.response n (.ok (.string "y"))).encode)),
    (Network.nowhere, .wake)]

/-- The answer to the step comes too late, and the value of the expression is told as on a first
connection. -/
theorem reattached_afresh_visited :
    let late := Frame.encode (Record.response 1 (.ok .null)).encode
    let e := (Engine.run { session := { config := {} } } visited).1
    let f₁ := (({} : Engine).step (fun _ _ => .ok ()) (.start (.attach {}))).1.run
      (evaluated [] 1)
    let f₂ := (e.step (fun _ _ => .ok ()) (.start (.attach {}))).1.run (evaluated late 2)
    e.session.location.isSome ∧ e.session.lastException = some "E" ∧
      e.session.sent = [.ask 1 .step []] ∧
      f₁.1.session.status = f₂.1.session.status ∧ ∃ answers events records,
        Yields 1 {} answers events records f₁ ∧
          Yields e.session.nextId e answers events records f₂ := by
  intro late e f₁ f₂
  obtain ⟨hstate, htask, hbreakpoints, hknown⟩ : e.session.state = .detached ∧ e.task.isNone ∧
      ({} : Session).breakpoints = e.session.breakpoints ∧ e.session.location.isSome ∧
        e.session.lastException = some "E" ∧ e.session.sent = [.ask 1 .step []] := by
    decide +kernel
  obtain ⟨-, hattach⟩ := reattached_afresh {} [] visited {} e rfl rfl rfl hstate rfl
    (Option.isNone_iff_eq_none.mp htask) hbreakpoints
  obtain ⟨-, hattached⟩ := hattach (fun _ _ => .ok ()) {} (.attach {}) List.mem_cons_self
  obtain ⟨-, -, -, hlater⟩ := hattached rfl
  have halike : RunAlike 1 e.session.nextId
      (({} : Engine).step (fun _ _ => .ok ()) (.start (.attach {}))).1
      (e.step (fun _ _ => .ok ()) (.start (.attach {}))).1
      (evaluated [] 1) (evaluated late 2) := by
    refine .cons (.bytes ⟨⟨[.ok stopping], ?_⟩, ?_⟩) (.cons (.start _)
      (.cons (.bytes ⟨⟨[.ok (.response 0 (.ok (.string "y")))], ?_⟩, ?_⟩)
        (.cons .wake .nil))) <;>
        decide +kernel
  obtain ⟨hstatus, -, hyields⟩ := hlater (evaluated [] 1) (evaluated late 2) halike
  exact ⟨hknown.1, hknown.2.1, hknown.2.2, hstatus, hyields⟩

end Engine

end RemoteDebugger
