import RemoteDebugger.Text.Basic

/-!
# Arguments

What the words of a command line say. An option is written `--name VALUE` or `--name=VALUE` and
may be given once. The words are read from left to right, and the first one that is wrong, or
that asks for the help or the version, decides.
-/

namespace RemoteDebugger

/-- What the arguments say. -/
structure Arguments where
  host?            : Option String := none
  port?            : Option Nat := none
  authkey?         : Option String := none
  attempts?        : Option Nat := none
  /-- Seconds. -/
  responseTimeout? : Option Nat := none
  /-- Whether to run over the first stop. -/
  run              : Bool := false
deriving DecidableEq, Repr

/-- Why the program does not start. -/
inductive Refusal where
  /-- The help was asked for. -/
  | help
  /-- The version was asked for. -/
  | version
  /-- The arguments are wrong. -/
  | wrong
deriving DecidableEq, Repr

/-- The options that have a value. -/
inductive Setting where
  | host
  | port
  | authkey
  | attempts
  | responseTimeout
deriving DecidableEq, Repr

namespace Setting

def all : List Setting := [.host, .port, .authkey, .attempts, .responseTimeout]

def name : Setting → String
  | .host            => "host"
  | .port            => "port"
  | .authkey         => "authkey"
  | .attempts        => "attempts"
  | .responseTimeout => "response-timeout"

def ofName? (name : String) : Option Setting := all.find? (·.name == name)

end Setting

namespace Arguments

/-! ### Values -/

/-- A number up to `max`. A sign is allowed, of which only zero may have the negative one. -/
def number? (max : Nat) (text : String) : Option Nat :=
  match text.toList with
  | '-' :: ds => Numeral.read? 0 ds
  | cs        => Numeral.readSigned? max cs

/-- A number of 64 bits. A plus sign is allowed. -/
def wideNumber? (text : String) : Option Nat := Numeral.readSigned? Numeral.max64 text.toList

/-- A value for what has none yet. -/
def once {α : Type} (old : Option α) (value : Option α) : Except Refusal (Option α) :=
  match old, value with
  | none, some v => .ok (some v)
  | _,    _      => .error .wrong

def set (a : Arguments) (value : String) : Setting → Except Refusal Arguments
  | .host            => do return { a with host? := ← once a.host? (some value) }
  | .port            =>
      do return { a with port? := ← once a.port? (number? Numeral.max16 value) }
  | .authkey         => do return { a with authkey? := ← once a.authkey? (some value) }
  | .attempts        => do
    return { a with attempts? := ← once a.attempts? (number? Numeral.max32 value) }
  | .responseTimeout => do
    return { a with responseTimeout? := ← once a.responseTimeout? (wideNumber? value) }

/-! ### Words -/

/-- A word of the command line. -/
inductive Word where
  /-- `--name`. -/
  | long (name : String)
  /-- `--name=value`. -/
  | longWith (name value : String)
  /-- `-letters`. -/
  | short (letters : List Char)
  /-- `--`, after which there are no more options. -/
  | stop
  /-- Anything else. -/
  | plain
deriving DecidableEq, Repr

def Word.of (text : String) : Word :=
  match text.toList with
  | ['-', '-']      => .stop
  | '-' :: '-' :: cs =>
    match cs.dropWhile (· != '=') with
    | []         => .long (String.ofList cs)
    | _ :: value => .longWith (String.ofList (cs.takeWhile (· != '='))) (String.ofList value)
  | '-' :: c :: cs  => .short (c :: cs)
  | _               => .plain

/-- What one of the words without a value says. -/
def flag (a : Arguments) (name : String) : Except Refusal Arguments :=
  if name = "help" then .error .help
  else if name = "version" then .error .version
  else if name = "run" ∧ !a.run then .ok { a with run := true }
  else .error .wrong

/-- The arguments with one more option set, if there is one with that name. -/
def setNamed (a : Arguments) (name value : String) : Except Refusal Arguments :=
  match Setting.ofName? name with
  | some s => a.set value s
  | none   => .error .wrong

/-- What short options say. Only the first of them counts. -/
def shortFlag : List Char → Refusal
  | 'h' :: _ => .help
  | 'V' :: _ => .version
  | _        => .wrong

/-- The arguments with those of the words that follow. -/
def readFrom (a : Arguments) : List String → Except Refusal Arguments
  | []            => .ok a
  | text :: texts =>
    match Word.of text with
    | .longWith name value => do (← a.setNamed name value).readFrom texts
    | .short letters       => .error (shortFlag letters)
    | .stop                => if texts.isEmpty then .ok a else .error .wrong
    | .plain               => .error .wrong
    | .long name           =>
      if (Setting.ofName? name).isNone then do (← a.flag name).readFrom texts
      else match texts with
        | []             => .error .wrong
        | value :: texts =>
          if Word.of value = .plain then do (← a.setNamed name value).readFrom texts
          else .error .wrong

/-- What a command line says. -/
def read (texts : List String) : Except Refusal Arguments := ({} : Arguments).readFrom texts

end Arguments

end RemoteDebugger
