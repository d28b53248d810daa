import Chip8.Machine.Basic

/-!
# The memory around the program counter

A `Window` is the part of memory that a debugger shows: from `120` bytes before the program
counter up to and with `121` bytes behind it, as far as memory goes. Its bytes are read in pairs
as words from its start on, and the word at the program counter is marked.
-/

namespace Chip8

/-- A run of memory around the program counter. -/
structure Window where
  /-- the address of the first byte -/
  start : Nat
  /-- the bytes from there on -/
  bytes : List UInt8
  /-- the program counter it was opened at -/
  pc : Addr
deriving DecidableEq, Repr

/-- A word of a window. -/
structure WindowWord where
  /-- the address of its high byte -/
  address : Nat
  /-- the word itself -/
  word : Word
  /-- the program counter points at it -/
  current : Bool
deriving DecidableEq, Repr

namespace Window

/-- How far a window reaches to either side. -/
def radius : Nat := 120

/-- The words of some bytes that start at an address; a last single byte is left out. -/
def pairs (pc : Addr) (address : Nat) : List UInt8 → List WindowWord
  | high :: low :: rest =>
    ⟨address, .ofBytes high low, address == pc.toNat⟩ :: pairs pc (address + 2) rest
  | _ => []

/-- The words of a window. -/
def words (w : Window) : List WindowWord := pairs w.pc w.start w.bytes

/-- A word with its address, in brackets when the program counter points at it. -/
def wordText (w : WindowWord) : String :=
  let content := Text.hex 3 w.address ++ ":" ++ Text.hex 4 w.word.toNat
  if w.current then "[" ++ content ++ "]" else " " ++ content ++ " "

/-- Words in lines of eight: the text that follows `done` words of a line. -/
def lines (done : Nat) : List WindowWord → String
  | [] => ""
  | w :: rest =>
    let gap := if done = 0 then "" else if done % 8 = 0 then "\n" else " "
    gap ++ wordText w ++ lines (done + 1) rest

/-- The window in text, eight words to a line. -/
def text (w : Window) : String := lines 0 w.words

end Window

/-- The memory around the program counter. -/
def Machine.window (m : Machine) : Window where
  start := m.pc.toNat - Window.radius
  bytes := m.memory.window (m.pc.toNat - Window.radius) (m.pc.toNat + Window.radius + 2)
  pc := m.pc

end Chip8
