import RemoteDebugger.Json.Parser
import RemoteDebugger.Record.Basic
import RemoteDebugger.Text.Utf8

/-!
# Records from bytes

A record is read from the bytes of a JSON object. What is no record is blamed on a request as far
as it can be told: a broken answer on the request that it answers, a broken request on itself.
-/

namespace RemoteDebugger

/-- What keeps a payload from being a record. -/
inductive Malformation where
  /-- It is no JSON text. -/
  | notJson
  /-- It is no object. -/
  | notObject
  /-- Its id is no number of a request. -/
  | invalidId (id : Json)
  /-- Its method is no string. -/
  | methodNotString
  /-- Its arguments are no list. -/
  | argsNotList
  /-- Its keyword arguments are no mapping. -/
  | kwargsNotMapping
  /-- It is an answer to no request. -/
  | noId
  /-- It is an answer that says nothing. -/
  | noOutcome
deriving DecidableEq

/-- Which request a malformed payload has to do with. -/
inductive Blame where
  /-- None that could be told. -/
  | nobody
  /-- It is a broken answer to the request with this number. -/
  | answerTo (id : RequestId)
  /-- It is a broken request with this number, which still wants an answer. -/
  | request (id : RequestId)
deriving DecidableEq, Repr

/-- A payload that is no record. -/
structure DecodeError where
  blame  : Blame
  reason : Malformation
deriving DecidableEq

def Malformation.text : Malformation → String
  | .notJson          => "not a JSON text"
  | .notObject        => "record is not an object"
  | .invalidId id     => "invalid id " ++ id.write
  | .methodNotString  => "`method` is not a string"
  | .argsNotList      => "`args` is not a list"
  | .kwargsNotMapping => "`kwargs` is not a mapping"
  | .noId             => "response without id"
  | .noOutcome        => "response carries neither result nor error"

def DecodeError.message (e : DecodeError) : String :=
  (match e.blame with
    | .answerTo id => s!"malformed response (id {id}): "
    | .request id  => s!"malformed request (id {id}): "
    | .nobody      => "malformed record: ") ++ e.reason.text

/-- The error that a value stands for: a message, or an object with a message and a code, or else
the text of the value. -/
def RemoteError.ofJson : Json → RemoteError
  | .string message => { message }
  | .object ms      =>
    { code := match ms.lookup "code" with
        | some (.number n) => n.toInt64?
        | _                => none
      message := ((ms.lookup "message").getD (.object ms)).text }
  | v               => { message := v.write }

namespace Record

/-- The number of a request, if there is one. None and null are no number. -/
def decodeId : Option Json → Except DecodeError (Option RequestId)
  | none | some .null => .ok none
  | some v =>
    match v.toNat? with
    | some id => .ok (some id)
    | none    => .error ⟨.nobody, .invalidId v⟩

/-- A list of arguments. None and null are no arguments. -/
def decodeArgs? : Option Json → Option (List Json)
  | none | some .null => some []
  | some (.array xs)  => some xs
  | some _            => none

/-- Keyword arguments. None and null are no arguments. -/
def decodeKwargs? : Option Json → Option Members
  | none | some .null => some []
  | some (.object ms) => some ms
  | some _            => none

/-- A call with an id or without. -/
def call (id : Option RequestId) (method : String) (args : List Json) (kwargs : Members) :
    Record :=
  match id with
  | some id => .request id method args kwargs
  | none    => .notification method args kwargs

/-- A call from the members of an object, with its method. -/
def decodeCall (id : Option RequestId) (ms : Members) : Json → Except DecodeError Record
  | .string method =>
    match decodeArgs? (ms.lookup "args"), decodeKwargs? (ms.lookup "kwargs") with
    | none, _                => blame .argsNotList
    | some _, none           => blame .kwargsNotMapping
    | some args, some kwargs => .ok (call id method args kwargs)
  | _ => blame .methodNotString
where
  /-- The call is at fault. -/
  blame (reason : Malformation) : Except DecodeError Record :=
    .error ⟨(id.map .request).getD .nobody, reason⟩

/-- An answer from the members of an object. An error that is not null wins over a result. -/
def decodeResponse (id : Option RequestId) (ms : Members) : Except DecodeError Record :=
  match id with
  | none    => .error ⟨.nobody, .noId⟩
  | some id =>
    match ms.lookup "error", ms.lookup "result" with
    | none, none | some .null, none              => .error ⟨.answerTo id, .noOutcome⟩
    | none, some result | some .null, some result => .ok (.response id (.ok result))
    | some e, _                                   => .ok (.response id (.error (.ofJson e)))

def ofMembers (ms : Members) : Except DecodeError Record :=
  match decodeId (ms.lookup "id") with
  | .error e => .error e
  | .ok id   =>
    match ms.lookup "method" with
    | some method => decodeCall id ms method
    | none        => decodeResponse id ms

def ofJson : Json → Except DecodeError Record
  | .object ms => ofMembers ms
  | _          => .error ⟨.nobody, .notObject⟩

def decode (bs : Bytes) : Except DecodeError Record :=
  match (Utf8.decode? bs).bind Json.parse? with
  | some v => ofJson v
  | none   => .error ⟨.nobody, .notJson⟩

end Record

end RemoteDebugger
