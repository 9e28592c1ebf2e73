import RemoteDebugger.Json.Value

/-!
# Tokens

A JSON text is a row of tokens, with white space between them. Strings, punctuation and words are
told apart character by character; a word is a numeral or one of the three names.
-/

namespace RemoteDebugger.Json

/-- A token of a JSON text. -/
inductive Token where
  | openArray
  | closeArray
  | openObject
  | closeObject
  | comma
  | colon
  | null
  | bool (value : Bool)
  | number (value : Number)
  | string (value : String)
deriving DecidableEq

/-- White space between tokens. -/
def isSpace (c : Char) : Bool := c == ' ' || c == '\t' || c == '\n' || c == '\r'

/-! ### Writing -/

/-- The hexadecimal digit of `n`, in lower case. -/
def hexDigit (n : Nat) : Char := (Nat.digitChar (n % 16))

/-- How a character is written inside a string: quote, backslash and control characters are
escaped, all others stand for themselves. -/
def escape (c : Char) : List Char :=
  if c = '"' then ['\\', '"']
  else if c = '\\' then ['\\', '\\']
  else if c = '\x08' then ['\\', 'b']
  else if c = '\t' then ['\\', 't']
  else if c = '\n' then ['\\', 'n']
  else if c = '\x0c' then ['\\', 'f']
  else if c = '\r' then ['\\', 'r']
  else if c.toNat < 0x20 then ['\\', 'u', '0', '0', hexDigit (c.toNat / 16), hexDigit c.toNat]
  else [c]

def quote (s : String) : List Char := '"' :: s.toList.flatMap escape ++ ['"']

def Token.write : Token → List Char
  | .openArray   => ['[']
  | .closeArray  => [']']
  | .openObject  => ['{']
  | .closeObject => ['}']
  | .comma       => [',']
  | .colon       => [':']
  | .null        => ['n', 'u', 'l', 'l']
  | .bool true   => ['t', 'r', 'u', 'e']
  | .bool false  => ['f', 'a', 'l', 's', 'e']
  | .number n    => n.write
  | .string s    => quote s

/-! ### Reading -/

/-- The token of one character, if it is punctuation. -/
def Token.ofPunctuation? (c : Char) : Option Token :=
  if c = '[' then some .openArray
  else if c = ']' then some .closeArray
  else if c = '{' then some .openObject
  else if c = '}' then some .closeObject
  else if c = ',' then some .comma
  else if c = ':' then some .colon
  else none

def Token.ofWord? (w : List Char) : Option Token :=
  if w = ['n', 'u', 'l', 'l'] then some .null
  else if w = ['t', 'r', 'u', 'e'] then some (.bool true)
  else if w = ['f', 'a', 'l', 's', 'e'] then some (.bool false)
  else (Number.ofWord? w).map .number

/-- The character that a backslash and `c` stand for. -/
def unescape? (c : Char) : Option Char :=
  if c = '"' ∨ c = '\\' ∨ c = '/' then some c
  else if c = 'b' then some '\x08'
  else if c = 't' then some '\t'
  else if c = 'n' then some '\n'
  else if c = 'f' then some '\x0c'
  else if c = 'r' then some '\r'
  else none

def hexValue? (c : Char) : Option Nat :=
  if c.isDigit then some (c.toNat - '0'.toNat)
  else if 'a' ≤ c ∧ c ≤ 'f' then some (c.toNat - 'a'.toNat + 10)
  else if 'A' ≤ c ∧ c ≤ 'F' then some (c.toNat - 'A'.toNat + 10)
  else none

/-- Where the reader of tokens stands. Characters of the token at hand are kept newest first. -/
inductive Mode where
  /-- Between tokens. -/
  | between
  /-- In a word. -/
  | word (chars : List Char)
  /-- In a string. -/
  | text (chars : List Char)
  /-- In a string, after a backslash. -/
  | escaped (chars : List Char)
  /-- In a string, in a code unit of which some digits are still to come. -/
  | unit (chars : List Char) (high : Option Nat) (left : Nat) (value : Nat)
  /-- In a string, after the first half of a character: a backslash must come. -/
  | half (chars : List Char) (high : Nat)
  /-- In a string, after the first half of a character and a backslash. -/
  | halfEscaped (chars : List Char) (high : Nat)

/-- The tokens read so far, newest first, and where the reader stands. -/
structure Lexer where
  tokens : List Token := []
  mode   : Mode := .between

/-- The end of a word, if the reader is in one. -/
def Lexer.endWord? (l : Lexer) : Option (List Token) :=
  match l.mode with
  | .between => some l.tokens
  | .word cs => do some ((← Token.ofWord? cs.reverse) :: l.tokens)
  | _        => none

/-- A whole code unit of 16 bits read in a string: a character, or half of one. -/
def Mode.ofUnit? (chars : List Char) (high : Option Nat) (n : Nat) : Option Mode :=
  match high with
  | none =>
    if 0xd800 ≤ n ∧ n < 0xdc00 then some (.half chars n)
    else if 0xdc00 ≤ n ∧ n < 0xe000 then none
    else some (.text (Char.ofNat n :: chars))
  | some h =>
    if 0xdc00 ≤ n ∧ n < 0xe000 then
      some (.text (Char.ofNat (0x10000 + (h - 0xd800) * 0x400 + (n - 0xdc00)) :: chars))
    else none

/-- One character outside of strings. -/
def Lexer.stepOutside? (l : Lexer) (c : Char) : Option Lexer :=
  if isSpace c then do some { tokens := ← l.endWord? }
  else if c = '"' then do some { tokens := ← l.endWord?, mode := .text [] }
  else match Token.ofPunctuation? c, l.mode with
    | some t, _        => do some { tokens := t :: (← l.endWord?) }
    | none, .word cs   => some { l with mode := .word (c :: cs) }
    | none, _          => some { l with mode := .word [c] }

def Lexer.step? (l : Lexer) (c : Char) : Option Lexer :=
  match l.mode with
  | .between | .word _ => l.stepOutside? c
  | .text cs =>
    if c = '"' then some { tokens := .string (String.ofList cs.reverse) :: l.tokens }
    else if c = '\\' then some { l with mode := .escaped cs }
    else if c.toNat < 0x20 then none
    else some { l with mode := .text (c :: cs) }
  | .escaped cs =>
    if c = 'u' then some { l with mode := .unit cs none 4 0 }
    else do some { l with mode := .text ((← unescape? c) :: cs) }
  | .unit cs high left n => do
    let n := 16 * n + (← hexValue? c)
    if left ≤ 1 then some { l with mode := ← Mode.ofUnit? cs high n }
    else some { l with mode := .unit cs high (left - 1) n }
  | .half cs high        =>
    if c = '\\' then some { l with mode := .halfEscaped cs high } else none
  | .halfEscaped cs high =>
    if c = 'u' then some { l with mode := .unit cs (some high) 4 0 } else none

def tokenize? (cs : List Char) : Option (List Token) := do
  let l ← cs.foldlM Lexer.step? {}
  some (← l.endWord?).reverse

end RemoteDebugger.Json
