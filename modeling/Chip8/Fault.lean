import Chip8.Word
import Chip8.Text.Hex

/-!
# What can go wrong

Three kinds of failure are kept apart:

* `Fault` — the program did something the machine cannot do; the machine halts;
* `Breach` — the caller handed over an operand outside the range it promised, such as a register
  numbered sixteen, or put the machine by hand where no program brings it; a program in memory never
  causes one;
* `LoadError` — there is no machine to begin with, because its program cannot be loaded.

`Failure` is what execution reports: a fault or a breach.
-/

namespace Chip8

/-- A sixteen bit address. -/
abbrev Addr := UInt16

/-- A fatal error of the running program. -/
inductive Fault
  /-- the word is no instruction -/
  | unknownOpcode (word : Word)
  /-- a call at `pc` with sixteen calls open -/
  | stackOverflow (pc : Addr)
  /-- a return at `pc` with no call open -/
  | stackUnderflow (pc : Addr)
  /-- a byte that memory does not have -/
  | addressOutOfBounds (address : Nat)
  /-- no whole word lies at `pc` -/
  | counterOutOfRange (pc : Addr)
  /-- an earlier fault stopped the machine -/
  | halted
deriving DecidableEq, Repr

/-- An operand, or a place in memory, outside the range that callers promise. -/
inductive Breach
  /-- no register has this number -/
  | register (x : UInt8)
  /-- the call stack has no such slot -/
  | stackSlot (slot : Nat)
  /-- the screen has no such pixel -/
  | pixel (x y : Nat)
  /-- the end of the span does not fit in 64 bits -/
  | span (start length : Nat)
  /-- the address `distance` behind `start` does not fit in 16 bits -/
  | address (start : Addr) (distance : Nat)
deriving DecidableEq, Repr

/-- Why an instruction was not carried out. -/
inductive Failure
  /-- the program's error -/
  | fault (fault : Fault)
  /-- the caller's error -/
  | breach (breach : Breach)
deriving DecidableEq, Repr

/-- Why a machine could not be set up with its program. -/
inductive LoadError
  /-- the program file cannot be read -/
  | unreadable
  /-- the program has `size` bytes and there is room for `max` -/
  | tooLarge (size max : Nat)
deriving DecidableEq, Repr

namespace Fault

/-- The sentence shown to a person. -/
def message : Fault → String
  | unknownOpcode word => "unknown opcode " ++ Text.hexPrefixed 4 word.toNat
  | stackOverflow pc => "stack overflow on call at " ++ Text.hexPrefixed 3 pc.toNat
  | stackUnderflow pc => "stack underflow on return at " ++ Text.hexPrefixed 3 pc.toNat
  | addressOutOfBounds address =>
    "memory access out of bounds at " ++ Text.hexPrefixed 4 address
  | counterOutOfRange pc =>
    "program counter " ++ Text.hexPrefixed 4 pc.toNat ++ " is outside of memory"
  | halted => "the machine has halted after a fatal error"

/-- The tag and its data in decimal, as a command line ends with it. -/
def tag : Fault → String
  | unknownOpcode word => s!"UnknownOpcode({word.toNat})"
  | stackOverflow pc => s!"StackOverflow \x7b pc: {pc.toNat} \x7d"
  | stackUnderflow pc => s!"StackUnderflow \x7b pc: {pc.toNat} \x7d"
  | addressOutOfBounds address => s!"AddressOutOfBounds({address})"
  | counterOutOfRange pc => s!"ProgramCounterOutOfRange({pc.toNat})"
  | halted => "Halted"

end Fault

namespace LoadError

/-- The sentence shown to a person. -/
def message : LoadError → String
  | unreadable => "unable to read the ROM"
  | tooLarge size max => s!"ROM is {size} bytes, but at most {max} bytes fit in memory"

/-- The tag and its data in decimal, as a command line ends with it. -/
def tag : LoadError → String
  | unreadable => "Unreadable"
  | tooLarge size max => s!"RomTooLarge \x7b size: {size}, max: {max} \x7d"

end LoadError

end Chip8
