/-!
# The lines of a text

`lines` cuts a text at its line breaks. A break at the very end closes the last line and does not
open another one, so the empty text has no lines at all.
-/

namespace Chip8.Text

/-- The lines of a text, without their breaks. -/
def lines (text : String) : List String :=
  match (text.splitOn "\n").reverse with
  | last :: others => if last.isEmpty then others.reverse else (last :: others).reverse
  | [] => []

end Chip8.Text
