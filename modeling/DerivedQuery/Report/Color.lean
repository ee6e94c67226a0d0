/-!
# Colors

A terminal shows a text in a color if it stands between two escape codes: one that sets the color,
possibly with bold type, and one that resets it.

## Main definitions

* `Color`, `Style`, `Style.paint`
* the styles that reports use
-/

namespace DerivedQuery.Report

/-- The colors in use. -/
inductive Color where
  | red
  | green
  | yellow
  | blue
  | magenta
  | cyan
  | white
  | gray
  | brightBlue
  | brightCyan
deriving DecidableEq, Repr

/-- The number of a color in an escape code. -/
def Color.code : Color → String
  | red => "31"
  | green => "32"
  | yellow => "33"
  | blue => "34"
  | magenta => "35"
  | cyan => "36"
  | white => "37"
  | gray => "90"
  | brightBlue => "94"
  | brightCyan => "96"

/-- A color with or without bold type. -/
structure Style where
  color : Color
  bold : Bool := false
deriving DecidableEq, Repr

namespace Style

/-- The code that sets a style. -/
def opening (style : Style) : String :=
  "\x1b[" ++ (if style.bold then "1;" else "") ++ style.color.code ++ "m"

/-- The code that resets every style. -/
def reset : String :=
  "\x1b[0m"

/-- A text in a style, where styles can be shown. -/
def paint (style : Style) (colored : Bool) (text : String) : String :=
  if colored then style.opening ++ text ++ reset else text

/-! ## The styles of reports -/

def success : Style := ⟨.green, false⟩
def error : Style := ⟨.red, false⟩
def warning : Style := ⟨.yellow, false⟩
def info : Style := ⟨.blue, false⟩
def muted : Style := ⟨.gray, false⟩
def heading : Style := ⟨.brightBlue, true⟩
def key : Style := ⟨.brightCyan, true⟩
def value : Style := ⟨.white, false⟩
def helpHeading : Style := ⟨.cyan, true⟩
def sample : Style := ⟨.magenta, false⟩

end Style

/-! ## Symbols -/

namespace Symbol

def success : String := "✓"
def error : String := "✗"
def warning : String := "⚠"
def info : String := "ℹ"
def arrow : String := "→"
def bullet : String := "•"
def caret : String := "^"

end Symbol

end DerivedQuery.Report
