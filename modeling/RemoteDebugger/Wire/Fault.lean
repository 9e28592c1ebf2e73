/-!
# Faults of a connection

What can go wrong between the two ends of a connection, below the level of records.
-/

namespace RemoteDebugger

/-- A fault of a connection or of the data that came over it. -/
inductive Fault where
  /-- The stream ended inside of what was to be read, or before it. -/
  | endOfStream
  /-- The sink takes no more bytes. -/
  | sinkFull
  /-- A frame header announced a negative length. -/
  | negativeLength (length : Int)
  /-- A frame header announced more bytes than are allowed. -/
  | tooLong (length limit : Nat)
  /-- The peer did not take the bytes in time. -/
  | stalled
  /-- A time limit of zero was asked for. -/
  | zeroTimeout
  /-- No way leads to the peer. -/
  | unreachable
  /-- The host name stands for no address. -/
  | unknownHost
deriving DecidableEq, Repr

def Fault.message : Fault → String
  | .endOfStream          => "failed to fill whole buffer"
  | .sinkFull             => "failed to write whole buffer"
  | .negativeLength n     => s!"negative frame length {n}"
  | .tooLong length limit => s!"frame of {length} bytes exceeds limit of {limit} bytes"
  | .stalled              => "Resource temporarily unavailable (os error 11)"
  | .zeroTimeout          => "cannot set a 0 duration timeout"
  | .unreachable          => "Network is unreachable (os error 101)"
  | .unknownHost          => "failed to lookup address information: Name or service not known"

end RemoteDebugger
