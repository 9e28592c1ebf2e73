import RemoteDebugger.Command.Basic
import RemoteDebugger.Text.Basic
import RemoteDebugger.Text.Identifier

/-!
# Reading commands

A line is a command if one of the alternatives of the grammar matches the whole of it. The
alternatives are tried in a fixed order, and blanks may stand around every part. A part that is
not there where it may be missing takes nothing of the line.
-/

namespace RemoteDebugger.Command

/-- Why a line is no command. -/
inductive ParseError where
  | empty
  | malformed
deriving DecidableEq, Repr

def ParseError.message : ParseError → String
  | .empty     => "empty command"
  | .malformed => "malformed command"

/-- A part of the grammar: what it reads at the head of a text, and what follows. -/
abbrev Part (α : Type) := List Char → Option (α × List Char)

/-! ### Parts of lines -/

/-- One of some words, as a whole identifier. -/
def word (names : List String) : Part Unit := fun cs => do
  let (name, rest) ← Identifier.scan? (skipBlanks cs)
  if names.contains (String.ofList name) then some ((), skipBlanks rest) else none

/-- A character of its own. -/
def mark (c : Char) : Part Unit := fun cs =>
  match skipBlanks cs with
  | d :: rest => if d = c then some ((), skipBlanks rest) else none
  | []        => none

/-- A line number, which has no leading zeros and fits 32 bits. -/
def lineNumber : Part Nat := fun cs => do
  let (digits, rest) ← Numeral.scan? (skipBlanks cs)
  let n ← Numeral.read? Numeral.max32 digits
  some (n, skipBlanks rest)

/-- `FILE:LINE`. The file is everything up to the first colon. -/
def place : Part Place := fun cs =>
  let cs := skipBlanks cs
  let file := cs.takeWhile (· != ':')
  match file, cs.dropWhile (· != ':') with
  | [], _        => none
  | _, []        => none
  | _, _ :: rest => do
    let (line, rest) ← lineNumber rest
    some ({ file := String.ofList (trimBlanks file), line }, rest)

/-- Everything that is left of the line, which must not be nothing. -/
def remainder : Part String := fun cs =>
  if cs.isEmpty then none else some (String.ofList (trimBlanks cs), [])

/-- A part that may be missing. -/
def optional {α : Type} (p : Part α) : Part (Option α) := fun cs =>
  match p cs with
  | some (a, rest) => some (some a, rest)
  | none           => some (none, cs)

/-- The first of two parts that is there. -/
def either {α : Type} (p q : Part α) : Part α := fun cs => (p cs).or (q cs)

/-- A part and then another one, which is what counts. -/
def andThen {α β : Type} (p : Part α) (q : Part β) : Part β := fun cs => do
  let (_, rest) ← p cs
  q rest

/-- A part with its value changed. -/
def mapPart {α β : Type} (f : α → β) (p : Part α) : Part β := fun cs =>
  (p cs).map fun (a, rest) => (f a, rest)

/-! ### Alternatives -/

/-- A command of one word. -/
def simple (names : List String) (c : Command) :
    Part Command := mapPart (fun _ => c) (word names)

/-- `if` and a condition. -/
def condition : Part String := andThen (word ["if"]) remainder

/-- A breakpoint at a place, with a condition or without. -/
def breakpointAt (temporary : Bool) (names : List String) : Part Command := fun cs => do
  let (at_, rest) ← andThen (word names) place cs
  let (cond, rest) ← optional condition rest
  some (.setBreakpoint at_ temporary cond, rest)

/-- What is to be cleared: the breakpoint at a place, or else all breakpoints on a file. -/
def cleared : Part Command :=
  either (mapPart (fun (p : Place) => .clear p.file (some p.line)) place)
    (mapPart (fun file => .clear file none) remainder)

/-- The alternatives, in the order in which they are tried. -/
def alternatives : List (Part Command) :=
  [ simple ["step", "s"] .step,
    simple ["next", "n"] .next,
    simple ["return", "r"] .stepOut,
    mapPart .resume (andThen (word ["continue", "c"]) (optional place)),
    mapPart .jump (andThen (word ["jump", "j"]) lineNumber),
    either (breakpointAt false ["break", "b"]) (breakpointAt true ["tbreak"]),
    andThen (word ["clear"]) cleared,
    simple ["breakpoints", "bl"] .breakpoints,
    mapPart .eval (andThen (word ["eval", "p"]) remainder),
    mapPart .exec (andThen (either (word ["exec"]) (mark '!')) remainder),
    simple ["where", "w"] .callStack,
    simple ["env"] .environment,
    simple ["interrupt", "i"] .interrupt,
    simple ["attach"] .attach,
    simple ["detach"] .detach,
    simple ["state"] .state,
    simple ["quit", "q"] .quit,
    simple ["help", "h"] .help ]

/-- What a part reads if it matches a whole text. -/
def whole? {α : Type} (p : Part α) (cs : List Char) : Option α :=
  match p cs with
  | some (a, []) => some a
  | _            => none

def parse (line : String) : Except ParseError Command :=
  if isBlankText line then .error .empty
  else match alternatives.findSome? (whole? · line.toList) with
    | some c => .ok c
    | none   => .error .malformed

def parsePlace? (text : String) : Option Place := whole? place text.toList

end RemoteDebugger.Command
