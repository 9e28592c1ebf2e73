import RemoteDebugger.Record.Encoding
import RemoteDebugger.Session.Basic

/-!
# What a session sends

Records are written to the connection. A record that was not written as a whole leaves the agent
with a torn frame, so that the connection is given up. Every request gets a number of its own.
-/

namespace RemoteDebugger.Session

/-- The session without its connection. A command that waits for an answer learns of it. -/
def detach (s : Session) : Session :=
  match s.connection with
  | none   => s
  | some c =>
    let s := if c.pending.any (·.2.awaited) then s.deliver (.error .disconnected) else s
    { s with connection := none }.publish .clearInteraction

/-- The session without the connection `epoch`, if that is the one it has. -/
def drop (s : Session) (epoch : Nat) : Session :=
  if s.connection.map Connection.epoch = some epoch then s.detach else s

/-- A record written to the agent. -/
def send (s : Session) (r : Record) : Session × Except SessionError Unit :=
  match s.connection with
  | none   => (s, .error .notAttached)
  | some c =>
    let written := { s with letters := s.letters ++ [{ record := r, state := s.state }] }
    match c.room with
    | none      => (written, .ok ())
    | some room =>
      let size := (Frame.encode r.encode).length
      if size ≤ room then
        ({ written with connection := some { c with room := some (room - size) } }, .ok ())
      else (s.detach, .error (.wire .stalled))

/-- The session after a record was sent whose loss does not matter. -/
def post (s : Session) (r : Record) : Session := (s.send r).1

/-- A fresh number for a request that is to be sent. -/
def register (s : Session) (method : Method) (awaited : Bool) : Session :=
  let entry : RequestId × Pending := (s.nextId, { method, awaited })
  { s with nextId := s.nextId + 1 }.modifyConnection fun c =>
    { c with pending := c.pending ++ [entry] }

/-- A request sent for a command that waits for its answer. -/
def ask (s : Session) (method : Method) (args : List Json) :
    Session × Except SessionError RequestId :=
  let id := s.nextId
  match ({ s with reply := none }.register method true).send (.ask id method args) with
  | (s, .ok ())   => (s, .ok id)
  | (s, .error e) => ({ s with reply := none }, .error e)

/-- A request sent whose answer nobody waits for. -/
def tell (s : Session) (method : Method) (args : List Json) : Session :=
  (s.register method false).post (.ask s.nextId method args)

/-- The session once the program runs again. -/
def clearInteraction (s : Session) : Session :=
  (s.modifyConnection fun c => { c with interaction := .running }).publish .clearInteraction

end RemoteDebugger.Session
