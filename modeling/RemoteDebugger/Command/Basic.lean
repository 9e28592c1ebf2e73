/-!
# Commands

What a user types at the console: an action and its arguments.
-/

namespace RemoteDebugger

/-- A place in a source file. -/
structure Place where
  file : String
  line : Nat
deriving DecidableEq, Repr

/-- A command of the user. -/
inductive Command where
  | step
  | next
  | stepOut
  /-- Run on, to a place if one is given. -/
  | resume (place : Option Place)
  | jump (line : Nat)
  | setBreakpoint (place : Place) (temporary : Bool) (condition : Option String)
  /-- Clear the breakpoint at a line, or all breakpoints on a file. -/
  | clear (file : String) (line : Option Nat)
  | breakpoints
  | eval (expression : String)
  | exec (statement : String)
  | callStack
  | environment
  | interrupt
  | attach
  | detach
  | state
  | quit
  | help
deriving DecidableEq, Repr

end RemoteDebugger
