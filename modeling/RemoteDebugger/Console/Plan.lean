import RemoteDebugger.Command.Parser
import RemoteDebugger.Console.Help
import RemoteDebugger.Console.Render
import RemoteDebugger.Session.Operation

/-!
# Carrying out commands

What a command comes to: a text that is shown, or an operation of the session with a text before
it and one for its result.
-/

namespace RemoteDebugger.Console

/-- What is to be done for a command. -/
inductive Plan where
  /-- A text is shown. -/
  | say (text : String)
  /-- An operation is carried out. The first text is shown before it; what is shown after it
  depends on the session and on the result. -/
  | perform (before : String) (operation : Operation) (report : Session → Json → String)

/-- A text on a line of its own. -/
def line (text : String) : String := text ++ "\n"

/-- An operation with nothing to tell if it succeeds. -/
def quietly (operation : Operation) : Plan := .perform "" operation fun _ _ => ""

/-- What is shown once the session is attached. -/
def attachedText (s : Session) : String :=
  line (if s.isRemote then "attached to a remote agent, source files may differ" else "attached")

/-- How the console attaches to its agent. -/
def attachPlan (target : Target) : Plan :=
  .perform (line s!"attaching to {target.host}:{target.port}") (.attachRetrying target)
    fun s _ => attachedText s

/-- What is to be done for a command, for an agent at `target`. -/
def plan (target : Target) (s : Session) : Command → Plan
  | .step                => quietly .step
  | .next                => quietly .next
  | .stepOut             => quietly .stepOut
  | .resume none         => quietly .resume
  | .resume (some p)     => quietly (.resumeTo p.file p.line)
  | .jump n              => quietly (.jump n)
  | .setBreakpoint p temporary condition =>
    let b := Breakpoint.build s.config.directory p.file (some p.line) temporary condition
    .perform "" (.setBreakpoint b) fun _ _ => line b.display
  | .clear file (some n) =>
    quietly (.clearBreakpoint (Breakpoint.build s.config.directory file (some n)))
  | .clear file none     => quietly (.clearFile file)
  | .breakpoints         => .say (line (renderBreakpoints s.breakpoints.all))
  | .eval expression     => .perform "" (.eval expression) fun _ v => line (renderValue v)
  | .exec statement      =>
    .perform "" (.exec statement) fun _ v => if v = .null then "" else line (renderValue v)
  | .callStack           => .perform "" .callStack fun _ v => line (renderCallStack v)
  | .environment         => .perform "" .environment fun _ v => line (renderEnvironment v)
  | .interrupt           => quietly .interrupt
  | .attach              => attachPlan target
  | .detach              => quietly .detach
  | .state               => .say (line (renderState s))
  | .quit                => quietly .quit
  | .help                => .say (line help)

end RemoteDebugger.Console
