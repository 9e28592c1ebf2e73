import RemoteDebugger.Rehearsal.Script
import RemoteDebugger.Session.Engine

/-!
# The stage

How a session and a scripted agent act on each other. Every call of the session takes the next
one of the agent's replies, whose actions are carried out one after the other. Only when nothing
is left to be done does time pass: the wait of the operation under way is over. A frame that has
begun is not waited for any longer than an answer is, counted from its last bytes, so the stage
keeps how long ago they came.

A stage may be played by anything that has an engine in it, such as an engine alone or a console.
-/

namespace RemoteDebugger.Rehearsal

/-- What a stage is played with: where its engine is, and how it goes on when something
happens. -/
structure Player (σ : Type) where
  engine : σ → Engine
  happen : σ → Input → σ × Option Answer

/-- An engine alone. -/
def Player.engineAlone (network : Network) : Player Engine where
  engine e   := e
  happen e i := e.step network i

/-- A stage of a rehearsal. -/
structure Stage (σ : Type) where
  actor   : σ
  /-- How many records of the session the agent has taken note of. -/
  noted   : Nat
  /-- The actions to come, with the numbers of the requests that they react to. -/
  todo    : List (Option RequestId × Action) := []
  /-- The replies to the calls to come. -/
  replies : List (List Action) := []
  /-- What the user learned meanwhile. -/
  asides  : List Aside := []
  /-- The answer of the operation under way. -/
  answer  : Option Answer := none
  /-- The request whose answer was awaited when the last bytes of the agent came. -/
  heardIn : Option RequestId := none
  /-- The nanoseconds of pauses since then. -/
  paused  : Nat := 0

namespace Stage

variable {σ : Type} (P : Player σ)

def session (s : Stage σ) : Session := (P.engine s.actor).session

/-- Something happens, and its answer is kept by `keep`. -/
def happen (keep : Stage σ → Option Answer → Stage σ) (i : Input) (s : Stage σ) : Stage σ :=
  let (actor, answer) := P.happen s.actor i
  keep { s with actor } answer

/-- The answer of the operation under way is kept. -/
def keepAnswer (s : Stage σ) (a : Option Answer) : Stage σ := { s with answer := s.answer.or a }

/-- The answer to something that the user did meanwhile is kept. -/
def keepAside (s : Stage σ) (a : Option Answer) : Stage σ :=
  { s with asides := s.asides ++ a.toList.map .answer }

/-- No answer is kept. -/
def keepNone (s : Stage σ) (_ : Option Answer) : Stage σ := s

/-! ### The passing of time -/

/-- A frame that has begun is not waited for any longer. -/
def expire (s : Stage σ) : Stage σ := s.happen P keepNone .frameTimeout

/-- The nanoseconds of the pause that a task makes before it looks at the program again. -/
def pauseOf : Task → Nat
  | .answer _ _ _   => 0
  | .stop pause _ _ => pause.nanoseconds

/-- Whether a frame that has begun is given up on before a task goes on. The limit is the same
for a frame and for an answer, so the frame is given up on first unless its last bytes came after
the request. -/
def isOverdue (s : Stage σ) (t : Task) : Bool :=
  match t with
  | .answer id _ _ => !(s.session P).isReady t && s.heardIn != some id
  | .stop _ _ _    => (s.session P).config.responseTimeout.nanoseconds ≤ s.paused + pauseOf t

/-- Time passes for the operation under way. -/
def pass (s : Stage σ) (t : Task) : Stage σ :=
  let s := if s.isOverdue P t then s.expire P else s
  { s with paused := s.paused + pauseOf t }.happen P keepAnswer .wake

/-- Time passes at most `n` times while the agent takes no notice. -/
def passFor : Nat → Stage σ → Stage σ
  | 0,     s => s
  | n + 1, s =>
    match (P.engine s.actor).task with
    | none   => s
    | some t => passFor n (s.pass P t)

/-- The stage once the operation under way is over, although the agent does nothing. -/
def stall (s : Stage σ) : Stage σ := passFor P (P.engine s.actor).waits s

/-- The user waits until the session is done with all that came. A frame that has begun keeps it
busy until the frame is given up on. -/
def await (s : Stage σ) : Stage σ := if (s.session P).isMidFrame then (s.stall P).expire P else s

/-! ### Actions and replies -/

/-- The stage on which a row of actions is to be carried out first. -/
def plan (s : Stage σ) (actions : List Action) : Stage σ :=
  { s with todo := s.todo ++ actions.map (none, ·) }

/-- A call takes the next reply. -/
def reply (s : Stage σ) (r : Record) : Stage σ :=
  match s.replies with
  | []                 => s
  | actions :: replies => { s with todo := s.todo ++ actions.map (r.id?, ·), replies }

/-- The agent takes note of what the session wrote. -/
def note (s : Stage σ) : Stage σ :=
  let sent := (s.session P).sent
  ((sent.drop s.noted).filter Record.isCall).foldl reply { s with noted := sent.length }

/-- The request whose answer a task waits for. -/
def awaited? : Task → Option RequestId
  | .answer id _ _ => some id
  | .stop _ _ _    => none

/-- Bytes of the agent come. -/
def hear (s : Stage σ) (bytes : Bytes) : Stage σ :=
  { s with heardIn := (P.engine s.actor).task.bind awaited?, paused := 0 }.happen P keepNone
    (.bytes bytes)

/-- One action is carried out. -/
def perform (s : Stage σ) (id : Option RequestId) : Action → Stage σ
  | .frame parts => s.hear P (fill id parts)
  | .raw bytes   => s.hear P bytes
  | .close       => s.happen P keepNone .endOfStream
  | .detach      => (s.await P).happen P keepNone (.start .detach)
  | .input text  => (s.await P).happen P keepAside (.start (.input text))
  | .interrupt   => (s.await P).happen P keepAside (.start .interrupt)
  | .look        =>
    let s := s.await P
    { s with asides := s.asides ++ [.state (s.session P).state] }

/-- How many actions there are to carry out and in replies. -/
def load (s : Stage σ) : Nat := s.todo.length + s.replies.flatten.length

/-- At most `n` actions are carried out, with the replies that they bring about. -/
def performFor : Nat → Stage σ → Stage σ
  | 0,     s => s
  | n + 1, s =>
    match s.todo with
    | []                   => s
    | (id, action) :: todo => performFor n (({ s with todo }.perform P id action).note P)

/-- All that is to be done is done. -/
def settle (s : Stage σ) : Stage σ :=
  let s := s.note P
  performFor P s.load s

/-! ### Plays -/

/-- Time passes at most `n` times, and before each time all that is to be done is done. -/
def playFor : Nat → Stage σ → Stage σ
  | 0,     s => s.settle P
  | n + 1, s =>
    let s := s.settle P
    match (P.engine s.actor).task with
    | none   => s
    | some t => playFor n (s.pass P t)

/-- The stage once the operation under way is over and nothing is left to be done. -/
def play (s : Stage σ) : Stage σ := playFor P (P.engine s.actor).waits s

end Stage

end RemoteDebugger.Rehearsal
