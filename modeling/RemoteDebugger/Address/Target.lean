import RemoteDebugger.Address.Ip

/-!
# Targets

Where an agent listens, and the secret that is shared with it.
-/

namespace RemoteDebugger

/-- Where an agent listens, and the secret shared with it. -/
structure Target where
  host    : String := "localhost"
  port    : Nat := 6000
  authkey : String := "secret password"
deriving DecidableEq, Repr

/-- The settings of the environment, those that are there. -/
structure Environment where
  host?    : Option String := none
  port?    : Option String := none
  authkey? : Option String := none
deriving DecidableEq, Repr

namespace Target

/-- A text with its ASCII letters in lower case. -/
def lowerAscii (s : String) : String := String.ofList (s.toList.map Char.toLower)

/-- Whether a name is the one that the own host always has. -/
def isLocalName (host : String) : Bool := lowerAscii host == "localhost"

/-- Whether the agent is on another host. A name that is no address counts as another host. -/
def isRemote (t : Target) : Bool :=
  !isLocalName t.host && !((Ip.parse? t.host).map Ip.isLoopback).getD false

/-- The address of the host, where it can be told without asking others. -/
def ip? (t : Target) : Option Ip :=
  if isLocalName t.host then some (.v4 [127, 0, 0, 1]) else Ip.parse? t.host

/-- The target set up by the environment. A port that is no number of 16 bits is ignored. -/
def ofEnvironment (env : Environment) : Target :=
  let default : Target := {}
  { host    := env.host?.getD default.host
    port    :=
      (env.port?.bind fun p => Numeral.readSigned? Numeral.max16 p.toList).getD default.port
    authkey := env.authkey?.getD default.authkey }

end Target

end RemoteDebugger
