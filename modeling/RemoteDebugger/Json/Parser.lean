import RemoteDebugger.Json.Token

/-!
# Reading JSON

A value is built from the row of its tokens, one token at a time, with the arrays and objects
that are open around it kept on a stack. At most 127 of them may be open at once.
-/

namespace RemoteDebugger.Json

/-- An array or object that is still open. -/
inductive Level where
  /-- An array with the items read so far, newest first. -/
  | array (items : List Json)
  /-- An object with the members read so far. -/
  | object (members : Members)
  /-- An object whose next member has its key. -/
  | member (members : Members) (key : String)

/-- What may come next, and what is open around it. -/
inductive Reading where
  /-- A value. -/
  | value (outer : List Level)
  /-- A value, or the end of the array that was just opened. -/
  | firstItem (outer : List Level)
  /-- A key, or the end of the object if it was just opened. -/
  | key (members : Members) (outer : List Level) (opened : Bool)
  /-- The colon after a key. -/
  | colon (members : Members) (key : String) (outer : List Level)
  /-- A comma, or the end of the innermost array or object. -/
  | next (outer : List Level)
  /-- Nothing, the value is complete. -/
  | complete (value : Json)

/-- How many arrays and objects may be open at once. -/
def maxDepth : Nat := 127

/-- A value was read: it goes into the innermost open array or object. -/
def Reading.put? (v : Json) : List Level → Option Reading
  | []                 => some (.complete v)
  | .array xs :: o     => some (.next (.array (v :: xs) :: o))
  | .member ms k :: o  => some (.next (.object (insertMember k v ms) :: o))
  | .object _ :: _     => none

/-- A token where a value begins. -/
def Reading.begin? (outer : List Level) : Token → Option Reading
  | .null       => put? .null outer
  | .bool b     => put? (.bool b) outer
  | .number n   => put? (.number n) outer
  | .string s   => put? (.string s) outer
  | .openArray  => if outer.length < maxDepth
      then some (.firstItem (.array [] :: outer)) else none
  | .openObject => if outer.length < maxDepth then some (.key [] outer true) else none
  | _           => none

def Reading.step? : Reading → Token → Option Reading
  | .value o, t                                  => begin? o t
  | .firstItem (.array xs :: o), .closeArray     => put? (.array xs.reverse) o
  | .firstItem o, t                              => begin? o t
  | .key ms o true, .closeObject                 => put? (.object ms) o
  | .key ms o _, .string k                       => some (.colon ms k o)
  | .colon ms k o, .colon                        => some (.value (.member ms k :: o))
  | .next (.array xs :: o), .comma               => some (.value (.array xs :: o))
  | .next (.array xs :: o), .closeArray          => put? (.array xs.reverse) o
  | .next (.object ms :: o), .comma              => some (.key ms o false)
  | .next (.object ms :: o), .closeObject        => put? (.object ms) o
  | _, _                                         => none

def ofTokens? (ts : List Token) : Option Json :=
  match ts.foldlM Reading.step? (.value []) with
  | some (.complete v) => some v
  | _                  => none

def parse? (s : String) : Option Json := do ofTokens? (← tokenize? s.toList)

end RemoteDebugger.Json
