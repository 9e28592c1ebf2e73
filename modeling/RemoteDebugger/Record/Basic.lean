import RemoteDebugger.Json.Printer
import RemoteDebugger.Record.Method

/-!
# Records

What one side tells the other: a request, which is to be answered, a notification, which is not,
or the answer to a request.
-/

namespace RemoteDebugger

/-- The number by which a request and its answer belong together. On the wire it has 64 bits.
Here it has no bound, which is the same thing as long as an end sends fewer than `2 ^ 64`
requests. -/
abbrev RequestId := Nat

/-- The error that stands in an answer instead of a result. -/
structure RemoteError where
  code    : Option Int := none
  message : String
deriving DecidableEq, Repr

/-- What one side tells the other. -/
inductive Record where
  /-- Something to be done and answered. -/
  | request (id : RequestId) (method : String) (args : List Json) (kwargs : Members)
  /-- Something to be done. -/
  | notification (method : String) (args : List Json) (kwargs : Members)
  /-- The answer to a request. -/
  | response (id : RequestId) (outcome : Except RemoteError Json)

namespace Record

def decEqOutcome : (a b : Except RemoteError Json) → Decidable (a = b)
  | .ok a,    .ok b    => if h : a = b then isTrue (h ▸ rfl) else isFalse (h <| Except.ok.inj ·)
  | .error a, .error b => if h :
      a = b then isTrue (h ▸ rfl) else isFalse (h <| Except.error.inj ·)
  | .ok _, .error _ | .error _, .ok _ => isFalse nofun

instance : DecidableEq (Except RemoteError Json) := decEqOutcome

deriving instance DecidableEq for Record

/-- A request for a method with plain arguments. -/
def ask (id : RequestId) (method : Method) (args : List Json) :
    Record := .request id method.name args []

/-- A notification of a method without arguments. -/
def notify (method : Method) : Record := .notification method.name [] []

/-- The number of the request that a record is or answers. -/
def id? : Record → Option RequestId
  | .request id _ _ _   => some id
  | .notification _ _ _ => none
  | .response id _      => some id

/-- Whether the record asks for something. -/
def isCall : Record → Bool
  | .response _ _ => false
  | _             => true

end Record

end RemoteDebugger
