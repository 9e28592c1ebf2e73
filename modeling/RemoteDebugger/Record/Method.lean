/-!
# Methods

What the two sides ask of each other. The first ones are asked of the agent, the last five by it.
-/

namespace RemoteDebugger

/-- A method of the agent or of the front end. -/
inductive Method where
  | setBreakpoint
  | clearBreakpoint
  | clearFile
  | step
  | next
  | stepOut
  | resume
  | jump
  | interrupt
  | quit
  | setParams
  | exec
  | eval
  | callStack
  | environment
  | run
  | startup
  | interaction
  | write
  | exception
  | readLine
deriving DecidableEq, Repr

namespace Method

def all : List Method :=
  [.setBreakpoint, .clearBreakpoint, .clearFile, .step, .next, .stepOut, .resume,
    .jump, .interrupt,
    .quit, .setParams, .exec, .eval, .callStack, .environment, .run, .startup,
      .interaction, .write,
    .exception, .readLine]

def name : Method → String
  | .setBreakpoint   => "do_set_breakpoint"
  | .clearBreakpoint => "do_clear_breakpoint"
  | .clearFile       => "do_clear_file_breakpoints"
  | .step            => "do_step"
  | .next            => "do_next"
  | .stepOut         => "do_return"
  | .resume          => "do_continue"
  | .jump            => "do_jump"
  | .interrupt       => "interrupt"
  | .quit            => "do_quit"
  | .setParams       => "set_params"
  | .exec            => "do_exec"
  | .eval            => "do_eval"
  | .callStack       => "do_where"
  | .environment     => "do_environment"
  | .run             => "run"
  | .startup         => "startup"
  | .interaction     => "interaction"
  | .write           => "write"
  | .exception       => "exception"
  | .readLine        => "readline"

def ofName? (name : String) : Option Method := all.find? (·.name == name)

/-- Whether the program runs on after the method was carried out. -/
def resumes : Method → Bool
  | .step | .next | .stepOut | .resume | .jump => true
  | _                                          => false

/-- Whether the method makes sense only while the program stands still at a line. -/
def needsStop : Method → Bool
  | .step | .next | .stepOut | .resume | .jump | .exec | .eval | .callStack | .environment =>
      true
  | _                                                                                       =>
      false

end Method

end RemoteDebugger
