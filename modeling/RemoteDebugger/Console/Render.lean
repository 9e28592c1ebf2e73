import RemoteDebugger.Console.Style
import RemoteDebugger.Event
import RemoteDebugger.Json.Printer
import RemoteDebugger.Session.Basic
import RemoteDebugger.Text.Basic

/-!
# What the console shows

The texts of values of the agent, of breakpoints, of the state of a session, and of events.
-/

namespace RemoteDebugger.Console

def lines (ls : List String) : String := "\n".intercalate ls

/-! ### Values -/

/-- A value of the agent: a text as it is, any other value laid out. -/
def renderValue : Json → String
  | .string s => s
  | v         => v.pretty

/-- One frame of a call stack, with its number. -/
def renderFrame (number : Nat) : Json → String
  | .array parts => s!"#{number} " ++ " ".intercalate (parts.map renderValue)
  | frame        => s!"#{number} " ++ renderValue frame

/-- A call stack, one frame a line. -/
def renderCallStack : Json → String
  | .array frames => lines (frames.mapIdx renderFrame)
  | v             => renderValue v

/-- The variables of a scope, one a line. -/
def renderVariables : Json → String
  | .object vars => lines (vars.map fun (name, value) =>
      "  " ++ Style.keyword.paint name ++ " = " ++ renderValue value)
  | v            => "  " ++ renderValue v

/-- The scopes of an environment with their variables. -/
def renderEnvironment : Json → String
  | .object scopes =>
      lines (scopes.map fun (scope, vars) => scope ++ ":\n" ++ renderVariables vars)
  | v              => renderValue v

/-! ### The session -/

/-- The list of breakpoints, with their numbers. -/
def renderBreakpoints (bs : List Breakpoint) : String :=
  if bs.isEmpty then "no breakpoints" else lines (bs.mapIdx fun i b => s!"{i}: " ++ b.display)

def renderPlace (file : String) (line : Nat) : String :=
  Style.file.paint file ++ ":" ++ Style.line.paint s!"{line}"

/-- The state of a session, the line where the program stopped last, and the last exception. -/
def renderState (s : Session) : String :=
  lines <| [Style.keyword.paint s.state.name]
    ++ (s.location.toList.map fun l => renderPlace l.file l.line ++ " " ++ trim l.source)
    ++ s.lastException.toList.map fun e => Style.error.paint "last exception:" ++ " " ++ e

/-! ### Events -/

/-- What is printed for an event. Output of the program is passed on as it is. -/
def renderEvent : Event → String
  | .write text            => text
  | .markLine file line _  => "> " ++ renderPlace file line ++ "\n"
  | .clearInteraction      => ""
  | .exception message     => Style.error.paint "exception:" ++ " " ++ message ++ "\n"
  | .inputRequested prompt =>
    Style.important.paint "program waits for input:" ++ " " ++ prompt ++ "\n"

def renderEvents (es : List Event) : String := String.join (es.map renderEvent)

end RemoteDebugger.Console
