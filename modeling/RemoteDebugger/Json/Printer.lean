import RemoteDebugger.Json.Token

/-!
# Writing JSON

The compact text of a value, which has no white space, and the text for the eye with one item a
line.
-/

namespace RemoteDebugger.Json

/-! ### Compact -/

mutual

def tokens : Json → List Token
  | .null           => [.null]
  | .bool b         => [.bool b]
  | .number n       => [.number n]
  | .string s       => [.string s]
  | .array xs       => .openArray :: itemTokens xs ++ [.closeArray]
  | .object ms      => .openObject :: memberTokens ms ++ [.closeObject]

/-- The tokens of the items of an array, with commas between them. -/
def itemTokens : List Json → List Token
  | []           => []
  | [x]          => tokens x
  | x :: y :: xs => tokens x ++ .comma :: itemTokens (y :: xs)

/-- The tokens of the members of an object, with commas between them. -/
def memberTokens : List (String × Json) → List Token
  | []                => []
  | [(k, v)]          => .string k :: .colon :: tokens v
  | (k, v) :: m :: ms => .string k :: .colon :: tokens v ++ .comma :: memberTokens (m :: ms)

end

def write (v : Json) : String := String.ofList (v.tokens.flatMap Token.write)

/-! ### For the eye -/

/-- The start of a line at a depth: two spaces for each level. -/
def newline (depth : Nat) : List Char := '\n' :: List.replicate (2 * depth) ' '

mutual

/-- A value that stands at a depth, with the items of arrays and objects one level deeper. -/
def prettyAt (depth : Nat) : Json → List Char
  | .array []        => ['[', ']']
  | .array (x :: xs) => '[' :: prettyItems (depth + 1) (x :: xs) ++ newline depth ++ [']']
  | .object []        => ['{', '}']
  | .object (m :: ms) => '{' :: prettyMembers (depth + 1) (m :: ms) ++ newline depth ++ ['}']
  | .null            => Token.null.write
  | .bool b          => (Token.bool b).write
  | .number n        => n.write
  | .string s        => quote s

/-- Items, each on a line of its own. -/
def prettyItems (depth : Nat) : List Json → List Char
  | []           => []
  | [x]          => newline depth ++ prettyAt depth x
  | x :: y :: xs => newline depth ++ prettyAt depth x ++ ',' :: prettyItems depth (y :: xs)

/-- Members, each on a line of its own. -/
def prettyMembers (depth : Nat) : List (String × Json) → List Char
  | []                => []
  | [(k, v)]          => newline depth ++ quote k ++ [':', ' '] ++ prettyAt depth v
  | (k, v) :: m :: ms =>
    newline depth ++ quote k ++ [':', ' '] ++ prettyAt depth v ++ ',' ::
      prettyMembers depth (m :: ms)

end

/-- The text of a value for the eye. -/
def pretty (v : Json) : String := String.ofList (prettyAt 0 v)

/-- A string stands for itself, any other value for its compact text. -/
def text : Json → String
  | .string s => s
  | v         => v.write

end RemoteDebugger.Json
