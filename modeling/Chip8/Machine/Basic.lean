import Chip8.CallStack
import Chip8.Dice
import Chip8.Journal
import Chip8.Keypad
import Chip8.Memory
import Chip8.Screen
import Chip8.Timers

/-!
# The machine

`Machine` holds all that a program can observe or change, the dialect it runs under and the dice it
rolls. `Machine.boot` is the state before the first instruction; `Machine.load` puts a program into
memory and touches nothing else.
-/

namespace Chip8

/-- What a machine does when it is asked for its next step. -/
inductive Status
  /-- execute the instruction at the program counter -/
  | running
  /-- look for a held key, which goes into register `x` -/
  | awaitingKey (x : UInt8)
  /-- nothing any more -/
  | halted
deriving DecidableEq, Repr

/-- The result of a step that did not fail. -/
inductive Outcome
  /-- the instruction was carried out -/
  | executed (instruction : Instruction)
  /-- no key is held, so the machine waits -/
  | awaitingKey
  /-- the program asks the host to pause -/
  | breakpoint
deriving DecidableEq, Repr

/-- The registers, numbered from zero; the last one is the flag. -/
abbrev Registers := Vector UInt8 16

/-- The state of the machine. -/
structure Machine where
  /-- the bytes of program and data -/
  memory : Memory
  /-- the sixteen registers -/
  registers : Registers
  /-- the address register -/
  index : UInt16
  /-- the program counter -/
  pc : Addr
  /-- the open calls -/
  stack : CallStack
  /-- the two timers -/
  timers : Timers
  /-- the picture -/
  screen : Screen
  /-- the keys the program sees -/
  keypad : Keypad
  /-- what the next step does -/
  status : Status
  /-- the dialect, which never changes -/
  dialect : Dialect
  /-- the random bytes -/
  dice : Dice

namespace Machine

/-- A machine without a program, about to execute its first instruction. -/
def boot (dialect : Dialect) (dice : Dice) : Machine where
  memory := .initial
  registers := Vector.replicate 16 0
  index := 0
  pc := UInt16.ofNat Memory.programStart
  stack := .empty
  timers := .zero
  screen := .blank
  keypad := .released
  status := .running
  dialect := dialect
  dice := dice

/-- The machine with a program in memory. -/
def load (m : Machine) (program : List UInt8) : Except LoadError Machine :=
  (m.memory.loadProgram program).map fun memory => { m with memory }

/-- The state before the first instruction, in the same dialect and with the same dice. -/
def reset (m : Machine) : Machine := boot m.dialect m.dice

/-- Count the timers down. -/
def tick (m : Machine) : Machine := { m with timers := m.timers.tick }

/-- Note that the host has drawn the screen. -/
def markDrawn (m : Machine) : Machine := { m with screen := m.screen.markDrawn }

end Machine

/-! ## Setting up -/

/-- What became of setting up a machine, and what the journal was told. -/
structure Setup (α : Type) where
  /-- the machine or what is built on it, or why there is none -/
  result : Except LoadError α
  /-- the events in order -/
  log : List Event

/-- Set up a machine with a program. -/
def Machine.start (program : List UInt8) (dialect : Dialect) (dice : Dice) : Setup Machine :=
  match (boot dialect dice).load program with
  | .ok m => ⟨.ok m, [.booting dialect, .loaded program.length]⟩
  | .error e => ⟨.error e, [.booting dialect]⟩

/-- Set up a machine with the content of a file; without it there is nothing to set up. -/
def Machine.startFile (content : Option (List UInt8)) (dialect : Dialect) (dice : Dice) :
    Setup Machine :=
  match content with
  | some program => start program dialect dice
  | none => ⟨.error .unreadable, []⟩

end Chip8
