import Chip8.Dialect
import Chip8.Instruction.Listing

/-!
# The journal

What happens inside is told as `Event`s. Each event has a `Level` and a line of text; a host keeps
the events of the levels it asked for (`Level.admits`) and writes each as its level and its text.
-/

namespace Chip8

/-- How important an event is, the most important first. -/
inductive Level
  /-- the machine halted -/
  | error
  /-- the program or the person stopped the run -/
  | warn
  /-- a stage of the run began or ended -/
  | info
  /-- a detail of a stage -/
  | debug
  /-- one executed instruction -/
  | trace
deriving DecidableEq, Repr

namespace Level

/-- The place of a level, counted from the most important. -/
def rank : Level → Nat
  | error => 0
  | warn => 1
  | info => 2
  | debug => 3
  | trace => 4

/-- A journal kept at level `kept` admits the events of level `l`. -/
def admits (kept l : Level) : Bool := l.rank ≤ kept.rank

/-- The level as it stands before each line. -/
def label : Level → String
  | error => "ERROR"
  | warn => "WARN"
  | info => "INFO"
  | debug => "DEBUG"
  | trace => "TRACE"

end Level

/-- Something worth telling about a run. -/
inductive Event
  /-- a machine was set up -/
  | booting (dialect : Dialect)
  /-- a program of `size` bytes is in memory -/
  | loaded (size : Nat)
  /-- the machine is about to be set up again -/
  | resetting
  /-- the word at `pc` was decoded -/
  | decoded (pc : Addr) (word : Word) (instruction : Instruction)
  /-- the program asked for a pause -/
  | breakpoint (pc : Addr)
  /-- the machine halted with `pc` still at the failing instruction -/
  | halting (pc : Addr) (fault : Fault)
  /-- a player was set up -/
  | running (rate : UInt32)
  /-- the player stopped running frames -/
  | paused (pc : Addr)
  /-- the player runs frames again -/
  | resumed (pc : Addr)
  /-- the command line named a program, given here in quotes -/
  | opening (file : String)
  /-- a run without a screen is over -/
  | stopped (frames : UInt64) (summary : String)
deriving DecidableEq, Repr

namespace Event

/-- How important an event is. -/
def level : Event → Level
  | halting .. => .error
  | breakpoint _ | paused _ | resumed _ => .warn
  | booting _ | running _ | opening _ | stopped .. => .info
  | loaded _ | resetting => .debug
  | decoded .. => .trace

/-- The text of an event. -/
def message : Event → String
  | booting dialect => "Booting with " ++ dialect.text
  | loaded size => s!"Loaded {size} bytes at 0x200"
  | resetting => "Resetting machine"
  | decoded pc word instruction =>
    Text.hexPrefixed 3 pc.toNat ++ ": " ++ Text.hex 4 word.toNat ++ " " ++ instruction.listing
  | breakpoint pc => "Breakpoint at " ++ Text.hexPrefixed 3 pc.toNat
  | halting pc fault => "Halting at " ++ Text.hexPrefixed 3 pc.toNat ++ ": " ++ fault.message
  | running rate => s!"Running at {rate.toNat} cycles per second"
  | paused pc => "Paused at " ++ Text.hexPrefixed 3 pc.toNat
  | resumed pc => "Resumed at " ++ Text.hexPrefixed 3 pc.toNat
  | opening file => "Executing " ++ file
  | stopped frames summary => s!"Stopped after {frames.toNat} frames\n" ++ summary

/-- The line of a journal. -/
def line (e : Event) : String := e.level.label ++ " " ++ e.message

end Event

/-- The events of a list that a journal kept at a level admits. -/
def Level.select (kept : Level) (events : List Event) : List Event :=
  events.filter fun e => kept.admits e.level

end Chip8
