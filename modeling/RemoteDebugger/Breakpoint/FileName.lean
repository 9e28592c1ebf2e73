import RemoteDebugger.Text.Basic

/-!
# File names

The name that a source file is known by: an absolute path without detours, and the source file
instead of its compiled form. Names in angle brackets stand for code without a file and are left
alone.
-/

namespace RemoteDebugger.FileName

/-- A name like `<string>`, of code without a file. -/
def isPseudo (name : String) : Bool :=
  name.toList.head? == some '<' && name.toList.getLast? == some '>'

/-- The directories that lead to a place, the innermost first, after one more piece of a path. -/
def enter (trail : List (List Char)) (piece : List Char) : List (List Char) :=
  if piece = [] ∨ piece = ['.'] then trail
  else if piece = ['.', '.'] then trail.tail
  else piece :: trail

/-- The names on the way to a place, from the root. -/
def resolve (path : List Char) : List (List Char) := ((pieces '/' path).foldl enter []).reverse

/-- The absolute path with the given names. -/
def absolute (names : List (List Char)) : List Char := '/' :: ['/'].intercalate names

/-- The source file of a compiled file, any other file itself. -/
def source (path : List Char) : List Char :=
  if ['.', 'p', 'y', 'c'].isSuffixOf path || ['.', 'p', 'y', 'o'].isSuffixOf path
    then path.dropLast else path

/-- The path itself if it is absolute, or else the path from `directory`. -/
def fromDirectory (directory path : List Char) : List Char :=
  if path.head? = some '/' then path else directory ++ '/' :: path

/-- The name by which a file is known, for a name given in `directory`. -/
def canonical (directory name : String) : String :=
  if isPseudo name then name
  else String.ofList (source (absolute (resolve (fromDirectory directory.toList name.toList))))

end RemoteDebugger.FileName
