/-!
# Styles

Texts in colour for the terminal, one colour for each kind of thing.
-/

namespace RemoteDebugger.Console

/-- The kinds of things that have a colour. -/
inductive Style where
  | file
  | line
  | keyword
  | error
  | important
deriving DecidableEq, Repr

/-- The number of a style's colour in the palette of the terminal. -/
def Style.colour : Style → Nat
  | .file      => 10
  | .line      => 12
  | .keyword   => 13
  | .error     => 1
  | .important => 11

/-- A text in its colour, with the terminal's own colour after it. -/
def Style.paint (style : Style) (text : String) : String :=
  s!"\x1b[38;5;{style.colour}m" ++ text ++ "\x1b[39m"

/-- What stands for a text that is not known. -/
def unknown : String := "???"

/-- A text in its colour, or the sign for an unknown one. -/
def Style.paintOption (style : Style) (text : Option String) :
    String := style.paint (text.getD unknown)

end RemoteDebugger.Console
