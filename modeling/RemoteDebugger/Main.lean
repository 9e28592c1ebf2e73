import RemoteDebugger.CommandLine.Program

/-!
# The program

Hands the arguments, the environment and the standard input to `runProgram` and prints what it
gives.
-/

namespace RemoteDebugger.Main

/-- All bytes of a stream, after those that were read already. -/
partial def readAll (stream : IO.FS.Stream) (before : ByteArray) : IO ByteArray := do
  let chunk ← stream.read 65536
  if chunk.isEmpty then return before else readAll stream (before ++ chunk)

/-- The settings of the environment. -/
def environment : IO Environment := do
  return { host?    := ← IO.getEnv "QDB_HOST"
           port?    := ← IO.getEnv "QDB_PORT"
           authkey? := ← IO.getEnv "QDB_AUTHKEY" }

end RemoteDebugger.Main

def main (args : List String) : IO UInt32 := do
  let env ← RemoteDebugger.Main.environment
  let directory := (← IO.getEnv "PWD").getD "/"
  let input ← RemoteDebugger.Main.readAll (← IO.getStdin) .empty
  let ending := RemoteDebugger.runProgram args env directory input.toList
  IO.print ending.output
  (← IO.getStderr).putStr ending.complaint
  return UInt32.ofNat ending.code
