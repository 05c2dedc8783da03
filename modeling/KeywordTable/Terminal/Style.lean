/-!
# Styled Text

How text is set off on a terminal: by escape sequences before it and after it.
Weight comes before colour and each is a sequence of its own; one sequence at
the end takes all back. Plain text has no sequences at all.

## Main definitions

* `Style`: How text is set off.
* `Style.paint`: Text set off by a style.
-/

namespace KeywordTable

namespace Terminal

/-- The colours in use. -/
inductive Color where
  | yellow
  | cyan
  | brightRed
  | brightGreen
  | brightCyan
  deriving Repr, DecidableEq

/-- The number of a colour. -/
def Color.code : Color → String
  | yellow => "33"
  | cyan => "36"
  | brightRed => "91"
  | brightGreen => "92"
  | brightCyan => "96"

/-- How text is set off. -/
structure Style where
  bold : Bool := false
  dimmed : Bool := false
  color : Option Color := none
  deriving Repr, DecidableEq

namespace Style

/-- Text that is not set off. -/
def plain : Style := {}

/-- Headings and the names of what was done. -/
def header : Style := { bold := true, color := some .brightGreen }

/-- The heading of a usage line. -/
def usage : Style := { bold := true, color := some .brightGreen }

/-- Text to be typed as it is. -/
def literal : Style := { bold := true, color := some .brightCyan }

/-- Text that stands for something else. -/
def placeholder : Style := { color := some .cyan }

/-- What went wrong. -/
def error : Style := { bold := true, color := some .brightRed }

/-- What would have been right. -/
def valid : Style := { bold := true, color := some .brightCyan }

/-- What was not right. -/
def invalid : Style := { bold := true, color := some .yellow }

/-- Punctuation that should not stand out. -/
def dim : Style := { dimmed := true }

/-- An escape sequence. -/
def sequence (code : String) : String :=
  "\x1b[" ++ code ++ "m"

/-- The sequences before the text. -/
def start (style : Style) : String :=
  (if style.bold then sequence "1" else "")
    ++ (if style.dimmed then sequence "2" else "")
    ++ (match style.color with
      | some color => sequence color.code
      | none => "")

/-- The sequence after the text. -/
def stop (style : Style) : String :=
  if style = plain then "" else sequence "0"

/-- Text set off by a style. -/
def paint (style : Style) (text : String) : String :=
  style.start ++ text ++ style.stop

end Style

end Terminal

end KeywordTable
