/-!
Coloured text on a terminal.
-/

namespace SwiftStyle.Text

/-- A text between the escape sequence of some display attributes and the one that resets them;
without colours the text alone. -/
def paint (colored : Bool) (attributes text : String) : String :=
  if colored then "\x1b[" ++ attributes ++ "m" ++ text ++ "\x1b[0m" else text

end SwiftStyle.Text
