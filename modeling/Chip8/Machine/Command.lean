import Chip8.Machine.Step

/-!
# Everything a host can do to a machine

A `Command` is one operation that a host may ask of a machine between steps; `Machine.obey`
carries it out. A statement about every history of a machine is a statement about lists of
commands (`Machine.obeyAll`).
-/

namespace Chip8

/-- An operation on a machine. -/
inductive Command
  /-- make a step -/
  | step
  /-- carry out an instruction as if it stood at the program counter -/
  | execute (instruction : Instruction)
  /-- carry out instructions in order, up to the first that fails -/
  | executeAll (instructions : List Instruction)
  /-- put a program into memory -/
  | load (program : List UInt8)
  /-- go back to the state before the first instruction -/
  | reset
  /-- count the timers down -/
  | tick
  /-- hold a key down -/
  | press (key : UInt8)
  /-- let a key go -/
  | release (key : UInt8)
  /-- replace the keypad -/
  | setKeypad (keypad : Keypad)
  /-- note that the screen was drawn -/
  | markDrawn
  /-- set a register; one that does not exist is left alone -/
  | setRegister (x value : UInt8)
  /-- set the index -/
  | setIndex (value : UInt16)
  /-- place the program counter -/
  | setCounter (value : Addr)
  /-- set the number of open calls, if there may be so many -/
  | setDepth (depth : UInt8)
  /-- set a slot of the call stack, if it exists -/
  | setSlot (slot : Nat) (site : Addr)
  /-- set the delay timer -/
  | setDelay (value : UInt8)
  /-- set the sound timer -/
  | setSound (value : UInt8)

/-- The answer to a command. -/
inductive Reply
  /-- the command was carried out -/
  | done
  /-- the command was carried out, or it was refused and changed nothing -/
  | accepted (yes : Bool)
  /-- the outcome of a step or of an instruction -/
  | outcome (outcome : Outcome)
  /-- the timers were counted down -/
  | ticked (beep : Bool)
  /-- the program was not loaded -/
  | refused (error : LoadError)
  /-- a step or an instruction failed -/
  | failed (failure : Failure)
deriving DecidableEq, Repr

/-- What became of a command. -/
structure Response where
  /-- the answer -/
  reply : Reply
  /-- the machine afterwards -/
  machine : Machine
  /-- the events in order -/
  log : List Event

namespace Machine

/-- The answer to a command that cannot fail. -/
def answer (m : Machine) (reply : Reply) (log : List Event) : Response := ⟨reply, m, log⟩

/-- The response that a report amounts to. -/
def ofReport {α : Type} (reply : α → Reply) (report : Report α) : Response :=
  match report.result with
  | .ok a => ⟨reply a, report.machine, report.log⟩
  | .error e => ⟨.failed e, report.machine, report.log⟩

/-- The machine with a register set, or as it was if there is no such register. -/
def setRegister (m : Machine) (x value : UInt8) : Machine :=
  { m with registers := m.registers.setIfInBounds x.toNat value }

/-- Use a new call stack if there is one. -/
def replaceStack (m : Machine) (stack : Option CallStack) : Response :=
  match stack with
  | some stack => answer { m with stack } (.accepted true) []
  | none => m.answer (.accepted false) []

/-- Carry out a command. -/
def obey (m : Machine) : Command → Response
  | .step => ofReport .outcome m.step
  | .execute i => ofReport .outcome (m.execute i)
  | .executeAll is => ofReport (fun _ => .done) (m.executeAll is)
  | .load program =>
    match m.load program with
    | .ok loaded => loaded.answer .done [.loaded program.length]
    | .error e => m.answer (.refused e) []
  | .reset => m.reset.answer .done [.resetting, .booting m.dialect]
  | .tick => m.tick.answer (.ticked m.timers.beeps) []
  | .press key => answer { m with keypad := m.keypad.press key } .done []
  | .release key => answer { m with keypad := m.keypad.release key } .done []
  | .setKeypad keypad => answer { m with keypad } .done []
  | .markDrawn => m.markDrawn.answer .done []
  | .setRegister x value => (m.setRegister x value).answer .done []
  | .setIndex value => answer { m with index := value } .done []
  | .setCounter value => answer { m with pc := value } .done []
  | .setDepth depth => m.replaceStack (m.stack.setDepth? depth.toNat)
  | .setSlot slot site => m.replaceStack (m.stack.setSlot? slot site)
  | .setDelay value => answer { m with timers := { m.timers with delay := value } } .done []
  | .setSound value => answer { m with timers := { m.timers with sound := value } } .done []

/-- The machine after a list of commands. -/
def obeyAll (m : Machine) (commands : List Command) : Machine :=
  commands.foldl (fun m c => (m.obey c).machine) m

end Machine

end Chip8
