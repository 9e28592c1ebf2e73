import RemoteDebugger.Proofs.Command.Language

/-!
# The commands on breakpoints in writing

Commands that set, clear and list breakpoints as users write them, with a word, a blank and what
it is about, are read as what they say.
-/

namespace RemoteDebugger.Command

/-- A text with no blank at either end, and not empty. -/
structure IsTrimmed (text : String) : Prop where
  ne_nil : text.toList ≠ []
  trimmed : trimBlanks text.toList = text.toList

/-- A text that can stand for a file before a line number. -/
structure IsFileText (text : String) : Prop extends IsTrimmed text where
  no_colon : ':' ∉ text.toList

/-- The condition of a breakpoint in writing. -/
def spellCondition : Option String → List Char
  | some condition => " if ".toList ++ condition.toList
  | none           => []

/-- A line of one of the commands on breakpoints, and the command. -/
inductive Spells : String → Command → Prop
  | set {w file : String} {n : Nat} {temporary : Bool} {cond : Option String}
      (hw : w ∈ if temporary then ["tbreak"] else ["break", "b"]) (hfile : IsFileText file)
      (hn : n ≤ Numeral.max32) (hcond : ∀ c ∈ cond, IsTrimmed c) :
      Spells (w ++ " " ++ file ++ ":" ++ toString n ++ String.ofList (spellCondition cond))
        (.setBreakpoint { file, line := n } temporary cond)
  | clearLine {file : String} {n : Nat} (hfile : IsFileText file) (hn : n ≤ Numeral.max32) :
      Spells ("clear " ++ file ++ ":" ++ toString n) (.clear file (some n))
  | clearFile {file : String} (hfile : IsFileText file) :
      Spells ("clear " ++ file) (.clear file none)
  | list {w : String} (hw : w ∈ ["breakpoints", "bl"]) : Spells w .breakpoints

variable {file : String} {tail : List Char}

end RemoteDebugger.Command
