import Chip8.Machine.Basic

/-!
# The summary of a machine

`Machine.summary` is four lines that show the state of the processor: the index, the program
counter and the status; the call stack, with the next free slot in angle brackets; the registers;
the timers.
-/

namespace Chip8

/-- A status in a summary. -/
def Status.text : Status → String
  | running => "Running"
  | awaitingKey x => "AwaitingKey(" ++ Instruction.listReg x ++ ")"
  | halted => "Halted"

/-- The slots of the call stack, the next free one in angle brackets. -/
def CallStack.text (s : CallStack) : String :=
  String.join <| s.slots.toList.mapIdx fun slot site =>
    if slot = s.depth then " <" ++ Text.hex 3 site.toNat ++ ">" else " " ++ Text.hex 3 site.toNat

namespace Machine

/-- Index, program counter and status. -/
def summaryStatus (m : Machine) : String :=
  "I: " ++ Text.hexPrefixed 3 m.index.toNat ++ "  PC: " ++ Text.hexPrefixed 3 m.pc.toNat ++
    "  status: " ++ m.status.text

/-- The registers, each with its number. -/
def summaryRegisters (m : Machine) : String :=
  String.join <| m.registers.toList.mapIdx fun k value =>
    "v" ++ Text.hex 1 k ++ "=" ++ Text.hex 2 value.toNat ++ " "

/-- The timers. -/
def summaryTimers (m : Machine) : String :=
  "Delay: " ++ Text.hexPrefixed 2 m.timers.delay.toNat ++ "  Sound: " ++
    Text.hexPrefixed 2 m.timers.sound.toNat

/-- The state of the processor in four lines. -/
def summary (m : Machine) : String :=
  m.summaryStatus ++ "\n" ++ "Stack:" ++ m.stack.text ++ "\n" ++ m.summaryRegisters ++ "\n" ++
    m.summaryTimers ++ "\n"

end Machine

end Chip8
