import RemoteDebugger.CommandLine.Arguments
import RemoteDebugger.Console.Loop

/-!
# The program

What the program does for its arguments: it sets up a console, or says why it does not start.
Arguments win over the environment, which wins over the defaults.
-/

namespace RemoteDebugger

/-! ### What the arguments set up -/

namespace Arguments

/-- Where the agent is. -/
def target (a : Arguments) (env : Environment) : Target :=
  let t := Target.ofEnvironment env
  { host    := a.host?.getD t.host
    port    := a.port?.getD t.port
    authkey := a.authkey?.getD t.authkey }

/-- How the session goes about its work, started in a directory. -/
def config (a : Arguments) (directory : String) : SessionConfig :=
  let c : SessionConfig := {}
  { c with
    attachRetry       :=
      { c.attachRetry with attempts := a.attempts?.getD c.attachRetry.attempts }
    responseTimeout   := (a.responseTimeout?.map Duration.ofSeconds).getD c.responseTimeout
    runWithoutPausing := a.run
    directory }

end Arguments

/-! ### How the program ends -/

/-- How the program ended: its exit code and what it printed, on its output and for errors. -/
structure Ending where
  code      : Nat
  output    : String := ""
  complaint : String := ""
deriving DecidableEq, Repr

/-- The help on the command line. -/
def usage : String := "Remote debugger front end

Usage: qdbf [OPTIONS]

Options:
      --host <HOST>                          Host the agent listens on [default: localhost]
      --port <PORT>                          Port the agent listens on [default: 6000]
      --authkey <AUTHKEY>                    Secret shared with the agent
      --run                                  Do not stop at the first line of the program
      --attempts <ATTEMPTS>                  Connection attempts before giving up [default: 10]
      --response-timeout <RESPONSE_TIMEOUT>  Seconds to wait for an agent response [default: 10]
  -h, --help                                 Print help
  -V, --version                              Print version
"

/-- How the program ends if it does not start. -/
def Refusal.ending : Refusal → Ending
  | .help    => { code := 0, output := usage }
  | .version => { code := 0, output := "qdbfront 0.1.0\n" }
  | .wrong   =>
    { code := 2, complaint := "error: wrong arguments\n\nFor more information, try '--help'.\n" }

/-- The program with its arguments and environment, in a directory, for an input, on a network
where no agent is reached. -/
def runProgram (args : List String) (env : Environment) (directory : String) (input : Bytes) :
    Ending :=
  match Arguments.read args with
  | .error refusal => refusal.ending
  | .ok a          =>
    { code   := 0
      output := Console.runOffline (a.config directory) (a.target env) Network.nowhere input }

end RemoteDebugger
