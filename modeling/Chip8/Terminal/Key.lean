import Chip8.Text.Quoted

/-!
# Keys of a keyboard

A `Key` is what a terminal reports when a person presses a key: a character, or one of the keys that
stand for none.
-/

namespace Chip8.Terminal

/-- A key press. -/
inductive Key
  /-- a key that writes a character -/
  | char (c : Char)
  /-- a function key -/
  | function (number : Nat)
  /-- escape -/
  | escape
  /-- enter -/
  | enter
  /-- tabulator -/
  | tab
  /-- backspace -/
  | backspace
  /-- arrow to the left -/
  | left
  /-- arrow to the right -/
  | right
  /-- arrow upwards -/
  | up
  /-- arrow downwards -/
  | down
  /-- start of the line -/
  | home
  /-- end of the line -/
  | lineEnd
  /-- a page back -/
  | pageUp
  /-- a page on -/
  | pageDown
  /-- tabulator, backwards -/
  | backTab
  /-- delete -/
  | delete
  /-- insert -/
  | insert
  /-- the null character -/
  | null
deriving DecidableEq, Repr

/-- The name of a key. -/
def Key.text : Key → String
  | char c => "Char(" ++ Text.quotedChar c ++ ")"
  | function number => s!"F({number})"
  | escape => "Esc"
  | enter => "Enter"
  | tab => "Tab"
  | backspace => "Backspace"
  | left => "Left"
  | right => "Right"
  | up => "Up"
  | down => "Down"
  | home => "Home"
  | lineEnd => "End"
  | pageUp => "PageUp"
  | pageDown => "PageDown"
  | backTab => "BackTab"
  | delete => "Delete"
  | insert => "Insert"
  | null => "Null"

end Chip8.Terminal
