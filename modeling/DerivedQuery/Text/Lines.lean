import DerivedQuery.Text.Affix
import DerivedQuery.Text.Word

/-!
# Lines and blanks

## Main definitions

* `lines`: the lines of a text without their ends
* `trim`: a text without blanks at its ends
-/

namespace DerivedQuery.Text

/-- A line without the carriage return at its end. -/
def withoutReturn (line : List Char) : List Char :=
  (dropSuffix? ['\r'] line).getD line

/-- The lines of a text. A line ends with a line feed, before which a carriage return is dropped;
what follows the last line feed is a line unless it is empty. -/
def lines (text : List Char) : List (List Char) :=
  let parts := text.splitOn '\n'
  parts.dropLast.map withoutReturn ++ parts.getLast?.toList.filter (· != [])

/-- A text without blanks at its ends. -/
def trim (text : List Char) : List Char :=
  ((text.dropWhile isWhitespace).reverse.dropWhile isWhitespace).reverse

end DerivedQuery.Text
