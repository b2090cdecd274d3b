/-!
Emphasis of text for a terminal, with the escape sequences that end it again. The plain style has none.
-/

namespace StackScript.Text

inductive Style where
  | plain
  | ansi
deriving DecidableEq, Repr

inductive Colour where
  | red
  | magenta
deriving DecidableEq, Repr

def Colour.code : Colour → String
  | red => "\x1b[31m"
  | magenta => "\x1b[35m"

namespace Style

/-- Puts text in bold. An empty text is marked too. -/
def bold (style : Style) (text : String) : String :=
  match style with
  | plain => text
  | ansi => "\x1b[1m" ++ text ++ "\x1b[0m"

def boldColour (style : Style) (colour : Colour) (text : String) : String :=
  match style with
  | plain => text
  | ansi => style.bold (colour.code ++ text)

@[simp]
theorem bold_plain (text : String) : plain.bold text = text := rfl

@[simp]
theorem boldColour_plain (colour : Colour) (text : String) : plain.boldColour colour text = text := rfl

end Style

end StackScript.Text
