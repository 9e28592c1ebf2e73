import RemoteDebugger.Breakpoint.FileName
import RemoteDebugger.Json.Value

/-!
# Breakpoints

Places where the program is to stop. A place is a file and a line; a breakpoint that goes away
when it was hit is another one than a lasting one at the same place, while the condition makes no
difference.
-/

namespace RemoteDebugger

/-- A breakpoint in a source file. -/
structure Breakpoint where
  file      : String
  line      : Option Nat
  temporary : Bool := false
  condition : Option String := none
deriving DecidableEq, Repr

/-- What tells breakpoints apart. -/
structure Breakpoint.Key where
  file      : String
  line      : Option Nat
  temporary : Bool
deriving DecidableEq, Repr

namespace Breakpoint

/-- A breakpoint on a file named in `directory`. -/
def build (directory file : String) (line : Option Nat) (temporary : Bool := false)
    (condition : Option String := none) : Breakpoint :=
  { file := FileName.canonical directory file, line, temporary, condition }

/-- What tells the breakpoint apart from others. -/
def key (b : Breakpoint) : Key := { file := b.file, line := b.line, temporary := b.temporary }

/-- Whether a line comes before another one, no line first of all. -/
def lineBefore : Option Nat → Option Nat → Bool
  | none,   some _ => true
  | some a, some b => a < b
  | _,      none   => false

/-- The order of breakpoints: by file, then by line, and lasting ones before temporary ones. -/
def Key.before (a b : Key) : Bool :=
  a.file < b.file ||
    a.file == b.file && (lineBefore a.line b.line ||
      a.line == b.line && (!a.temporary && b.temporary))

def display (b : Breakpoint) : String :=
  (if b.temporary then "Temporary " else "") ++ "Breakpoint on file " ++ b.file ++
    (match b.line with
      | some line => s!" on line {line}"
      | none      => "") ++
    match b.condition with
      | some condition => " if " ++ condition
      | none           => ""

/-- What an agent is told to set the breakpoint. -/
def setArgs (b : Breakpoint) : List Json :=
  [.string b.file, Json.optNat b.line, .bool b.temporary, Json.optString b.condition]

/-- What an agent is told to clear the breakpoint. -/
def clearArgs (b : Breakpoint) : List Json := [.string b.file, Json.optNat b.line]

end Breakpoint

end RemoteDebugger
