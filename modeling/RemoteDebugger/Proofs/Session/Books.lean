import Mathlib.Data.List.Nodup
import Mathlib.Tactic.Common
import RemoteDebugger.Session.Incoming

/-!
# The books of a session

What a session has on its requests: the numbers it gave out, the entries of those that were not
answered, and the reply for the command that waits. The books are kept by few acts, and what a
session does comes to a row of these acts.
-/

namespace RemoteDebugger

open Session

/-- What a session has on the requests of one connection, and the bytes of a frame of which more
is to come. -/
structure Table where
  pending   : List (RequestId × Pending) := []
  abandoned : List (RequestId × Method) := []
  inbox     : Bytes := []

/-- The entries of a table that a command waits for. -/
def Table.waiters (t : Table) : List (RequestId × Pending) := t.pending.filter (·.2.awaited)

/-- What a session has on its requests. -/
structure Books where
  /-- How long an answer is waited for. -/
  patience : Duration
  nextId : RequestId
  /-- The numbers of the requests that were written, the oldest first. -/
  written : List RequestId
  reply : Option Answer
  table : Option Table

namespace Books

/-! ### Acts -/

/-- The connection ends. -/
def close (b : Books) : Books :=
  match b.table with
  | none   => b
  | some t =>
    { b with
      table := none
      reply := if t.pending.any (·.2.awaited) then b.reply.or (some (.error .disconnected))
        else b.reply }

/-- A connection begins. -/
def connect (b : Books) : Books := { b with table := some {} }

/-- A number is given out in vain. -/
def skip (b : Books) : Books := { b with nextId := b.nextId + 1 }

/-- A request is written. -/
def issue (b : Books) (method : Method) (awaited : Bool) : Books :=
  { b with
    nextId  := b.nextId + 1
    written := b.written ++ [b.nextId]
    table   := b.table.map fun t =>
      { t with pending := t.pending ++ [(b.nextId, { method, awaited })] } }

/-- The reply is taken. -/
def hush (b : Books) : Books := { b with reply := none }

/-- The command that waits gets an answer, if it is for it. -/
def deliver (b : Books) (awaited : Bool) (a : Answer) : Books :=
  if awaited then { b with reply := b.reply.or (some a) } else b

/-- A request is answered. -/
def strike (b : Books) (id : RequestId) : Books :=
  { b with table := b.table.map fun t => { t with pending := without id t.pending } }

/-- A request that was given up on is answered. -/
def strikeLate (b : Books) (id : RequestId) : Books :=
  { b with table := b.table.map fun t => { t with abandoned := without id t.abandoned } }

/-- The requests that are remembered of those that were given up on. -/
def remembered (id : RequestId) (method : Method) (as : List (RequestId × Method)) :
    List (RequestId × Method) :=
  (insertAbandoned id method as).drop ((insertAbandoned id method as).length - maxAbandoned)

/-- A request is given up on. -/
def giveUp (b : Books) (id : RequestId) (method : Method) : Books :=
  { b with
    table := b.table.map fun t =>
      { t with pending := without id t.pending, abandoned := remembered id method t.abandoned } }

/-- The bytes of a frame of which more is to come. -/
def keep (b : Books) (inbox : Bytes) : Books :=
  { b with table := b.table.map ({ · with inbox }) }

def pending? (b : Books) (id : RequestId) : Option Pending := b.table.bind (·.pending.lookup id)

/-- An answer to a request. -/
def answer (b : Books) (id : RequestId) (outcome : Except RemoteError Json) : Books :=
  match b.pending? id with
  | some p => (b.strike id).deliver p.awaited (resultOf p.method outcome)
  | none   => b.strikeLate id

/-- A broken answer to a request. -/
def reject (b : Books) (id : RequestId) (e : DecodeError) : Books :=
  match b.pending? id with
  | some p => (b.giveUp id p.method).deliver p.awaited (.error (.malformed e))
  | none   => b

/-- What happens to the books on account of calls of the agent and of operations that wait for
nothing. -/
inductive Calm (b : Books) : Books → Prop
  | refl : Calm b b
  | close {b' : Books} : Calm b b' → Calm b b'.close
  | skip {b' : Books} : Calm b b' → Calm b b'.skip
  | tell {b' : Books} (method : Method) : Calm b b' → Calm b (b'.issue method false)

lemma Calm.trans {a b c : Books} (h : Calm a b) (h' : Calm b c) : Calm a c := by
  induction h' with
  | refl => exact h
  | close _ ih => exact ih.close
  | skip _ ih => exact ih.skip
  | tell method _ ih => exact ih.tell method

end Books

end RemoteDebugger
