import RemoteDebugger.Record.Basic
import RemoteDebugger.Text.Utf8

/-!
# Records as texts

A record is written as a JSON object whose members stand in a fixed order: `id`, `method`,
`args`, `kwargs`, `result`, `error`. What there is none of is left out, but a notification has
the id `null`.
-/

namespace RemoteDebugger

def RemoteError.toJson (e : RemoteError) : Json :=
  .object <| (match e.code with
    | some c => [("code", .number (.int c))]
    | none   => []) ++ [("message", .string e.message)]

namespace Record

def callMembers (id : Json) (method : String) (args : List Json) (kwargs : Members) : Members :=
  [("id", id), ("method", .string method), ("args", .array args)] ++
    if kwargs.isEmpty then [] else [("kwargs", .object kwargs)]

/-- The members of a record in the order in which they are written. -/
def members : Record → Members
  | .request id method args kwargs   => callMembers (Json.nat id) method args kwargs
  | .notification method args kwargs => callMembers .null method args kwargs
  | .response id (.ok result)        => [("id", Json.nat id), ("result", result)]
  | .response id (.error e)          => [("id", Json.nat id), ("error", e.toJson)]

def text (r : Record) : String := (Json.object r.members).write

def encode (r : Record) : Bytes := Utf8.encode r.text

end Record

end RemoteDebugger
