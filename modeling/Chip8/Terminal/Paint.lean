import Chip8.Screen
import Chip8.Text.Lines

/-!
# Painting on a terminal

A `Paint` is something the program shows in a terminal, and `Paint.text` is the text that makes
the terminal show it, with control sequences for everything but the letters. Columns and rows are
counted from zero; a pixel of the screen takes two columns, and a box surrounds the screen. The
lines of the status stand below the box.
-/

namespace Chip8.Terminal

/-- Something that the program shows. -/
inductive Paint
  /-- a clear terminal with the empty box -/
  | opening
  /-- lines below the box, in place of those before -/
  | status (text : String)
  /-- the screen in the box -/
  | picture (screen : Screen)
  /-- the sound of the terminal -/
  | bell
  /-- what the terminal showed before -/
  | closing
deriving DecidableEq

namespace Paint

/-- A control sequence. -/
def control (body : String) : String := String.singleton (Char.ofNat 27) ++ "[" ++ body

/-- Go to a column and a row. -/
def moveTo (x y : Nat) : String := control s!"{y + 1};{x + 1}H"

/-- The row below the screen that holds the lower side of the box. -/
def bottom : Nat := Screen.height + 1

/-- The column right of the screen that holds the right side of the box. -/
def right : Nat := 2 * Screen.width + 1

/-- A horizontal side of the box between two corners. -/
def side (left right : String) : String :=
  left ++ String.join (List.replicate (2 * Screen.width) "━") ++ right

/-- The empty box. -/
def box : String :=
  moveTo 0 0 ++ side "┏" "┓" ++
    String.join ((List.range Screen.height).map fun y =>
      moveTo 0 (y + 1) ++ "┃" ++ moveTo right (y + 1) ++ "┃") ++
    moveTo 0 bottom ++ side "┗" "┛"

/-- The row of the terminal that holds the first line of the status. -/
def statusTop : Nat := Screen.height + 2

/-- Texts one below the other, the first at a column and a row. -/
def column (x y : Nat) (texts : List String) : String :=
  String.join (texts.mapIdx fun n text => moveTo x (y + n) ++ text)

/-- The text that makes a terminal show something. -/
def text : Paint → String
  | opening => control "?1049h" ++ control "?25l" ++ control "2J" ++ box
  | status text => moveTo 0 statusTop ++ control "J" ++ column 0 statusTop (Text.lines text)
  | picture screen => column 1 1 (screen.rows.toList.map (Screen.rowText "██" "  "))
  | bell => String.singleton (Char.ofNat 7)
  | closing => control "?1049l" ++ control "?25h"

end Paint

end Chip8.Terminal
