import RemoteDebugger.Time.Duration

/-!
# Backoff

How often something is tried and how long to pause between the tries: the pauses double from one
to the next up to a limit, and there is one between any two tries.
-/

namespace RemoteDebugger

/-- How often to try, and how the pauses between the tries grow. -/
structure Backoff where
  /-- The number of tries. There is always a first one. -/
  attempts : Nat
  /-- The first pause. -/
  initial  : Duration
  /-- The longest pause. -/
  limit    : Duration
deriving DecidableEq, Repr

/-- The pauses that are still to come. -/
structure Pauses where
  /-- How many there are. -/
  left  : Nat
  /-- The first of them. -/
  next  : Duration
  /-- The longest pause. -/
  limit : Duration
deriving DecidableEq, Repr

namespace Pauses

/-- The next pause, and the pauses after it. -/
def next? (p : Pauses) : Option (Duration × Pauses) :=
  match p.left with
  | 0     => none
  | n + 1 => some (p.next, { p with left := n, next := p.next.double.min p.limit })

def take : Nat → Pauses → List Duration
  | 0,     _ => []
  | n + 1, p =>
    match p.next? with
    | none        => []
    | some (d, p) => d :: take n p

end Pauses

namespace Backoff

/-- The pauses between the tries. -/
def pauses (b : Backoff) : Pauses where
  left  := b.attempts - 1
  next  := b.initial.min b.limit
  limit := b.limit

/-- How repeated tries came out: the last outcome and the pauses taken between the tries. -/
structure Tried (ε α : Type) where
  outcome : Except ε α
  pauses  : List Duration

/-- Tries from the `k`-th one on, until one ends in something else than an error to be tried
`again` or no pause is left. -/
def tryFrom {ε α : Type} (again : ε → Bool) (tries : Nat → Except ε α) (limit : Duration) :
    (left : Nat) → (next : Duration) → (k : Nat) → Tried ε α
  | 0,        _,    k => { outcome := tries k, pauses := [] }
  | left + 1, next, k =>
    match tries k with
    | .ok a    => { outcome := .ok a, pauses := [] }
    | .error e =>
      if again e then
        let rest := tryFrom again tries limit left (next.double.min limit) (k + 1)
        { rest with pauses := next :: rest.pauses }
      else { outcome := .error e, pauses := [] }

/-- Tries with pauses between them. The outcome is that of the last try. -/
def retry {ε α : Type} (b : Backoff) (again : ε → Bool) (tries : Nat → Except ε α) : Tried ε α :=
  tryFrom again tries b.limit b.pauses.left b.pauses.next 0

end Backoff

end RemoteDebugger
