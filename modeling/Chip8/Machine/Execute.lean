import Chip8.Address
import Chip8.Machine.Basic

/-!
# Executing one instruction

Instructions run in `Exec`: a computation on the machine that may fail and, when it does, still
tells in which state it left the machine. That state is part of the result, so that "a failing
instruction changes nothing" is a statement about these definitions and not a convention.

* `Exec.effect` — what an instruction does, the program counter of all but the four jumps apart;
* `Exec.poll` — one look at the keypad for `FX0A`;
* `Exec.perform` — the instruction as a whole, with the program counter moved on;
* `Machine.execute` — the same, with what the journal is told.
-/

namespace Chip8

/-- A computation on the machine that may fail, with the state it leaves in either case. -/
abbrev Exec := EStateM Failure Machine

namespace Exec

/-- The number of the register that holds the flag. -/
def flag : UInt8 := 0xF

/-- Take over the result of a computation that does not see the machine. -/
def lift {α : Type} : Except Failure α → Exec α
  | .ok a => pure a
  | .error e => throw e

/-- The value of a register. -/
def reg (x : UInt8) : Exec UInt8 := do
  match (← get).registers[x.toNat]? with
  | some value => pure value
  | none => throw (.breach (.register x))

/-- Set a register. -/
def setReg (x value : UInt8) : Exec Unit := do
  let m ← get
  if h : x.toNat < 16 then set { m with registers := m.registers.set x.toNat value h }
  else throw (.breach (.register x))

/-- Set the flag to one or to zero. -/
def setFlag (on : Bool) : Exec Unit := setReg flag on.toUInt8

/-- Move the program counter on by one word. -/
def advance : Exec Unit := do
  let m ← get
  let pc ← lift (m.pc.ahead 2)
  set { m with pc }

/-- Skip the next word if a condition holds. -/
def skipIf (condition : Bool) : Exec Unit := if condition then advance else pure ()

/-- Place the program counter. -/
def jumpTo (target : Addr) : Exec Unit := modify fun m => { m with pc := target }

/-- Set the index. -/
def setIndex (address : UInt16) : Exec Unit := modify fun m => { m with index := address }

/-- The register that a shift reads, which depends on the dialect. -/
def shiftSource (x y : UInt8) : Exec UInt8 := do
  if (← get).dialect.shiftReadsY then reg y else reg x

/-- Move the index behind `count` transferred bytes, if the dialect says so. -/
def moveIndex (count : Nat) : Exec Unit :=
  modify fun m =>
    if m.dialect.transferMovesIndex then { m with index := m.index + UInt16.ofNat count } else m

/-- The next random byte. -/
def roll : Exec UInt8 :=
  modifyGet fun m => (m.dice.top, { m with dice := m.dice.next })

/-- Set `x` to a value made of the registers `x` and `y`. -/
def combine (x y : UInt8) (f : UInt8 → UInt8 → UInt8) : Exec Unit := do
  setReg x (f (← reg x) (← reg y))

/-- Set `x` to a value made of the registers `x` and `y`, and then the flag; the flag wins when
`x` is the flag itself. -/
def combineFlag (x y : UInt8) (f : UInt8 → UInt8 → UInt8) (g : UInt8 → UInt8 → Bool) :
    Exec Unit := do
  let vx ← reg x
  let vy ← reg y
  setReg x (f vx vy)
  setFlag (g vx vy)

/-- The first registers, `count` of them. -/
def firstRegs (count : Nat) : Exec (List UInt8) := do
  if count ≤ 16 then return (← get).registers.toList.take count
  else throw (.breach (.register (UInt8.ofNat (count - 1))))

/-- Set the first registers to a list of values. -/
def setFirstRegs (values : List UInt8) : Exec Unit := do
  if values.length ≤ 16 then
    modify fun m =>
      { m with registers := Vector.ofFn fun k => values[k.val]?.getD (m.registers[k]) }
  else throw (.breach (.register (UInt8.ofNat (values.length - 1))))

/-! ## The instructions -/

/-- What an instruction does, without moving the program counter on. The key wait is `poll`
instead and does nothing here. -/
def effect : Instruction → Exec Unit
  | .breakpoint => pure ()
  | .clearScreen => modify fun m => { m with screen := m.screen.clear }
  | .leave => do
    let m ← get
    let (site, stack) ← lift (m.stack.pop m.pc)
    let pc ← lift (site.ahead 2)
    set { m with stack, pc }
  | .jump target => jumpTo target
  | .call target => do
    let m ← get
    let stack ← lift (m.stack.push m.pc)
    set { m with stack, pc := target }
  | .skipEqConst x value => do skipIf ((← reg x) == value)
  | .skipNeConst x value => do skipIf ((← reg x) != value)
  | .skipEqReg x y => do skipIf ((← reg x) == (← reg y))
  | .setConst x value => setReg x value
  | .addConst x value => do setReg x ((← reg x) + value)
  | .copy x y => do setReg x (← reg y)
  | .bitOr x y => combine x y (· ||| ·)
  | .bitAnd x y => combine x y (· &&& ·)
  | .bitXor x y => combine x y (· ^^^ ·)
  | .addReg x y => combineFlag x y (· + ·) fun vx vy => vx.toNat + vy.toNat > 255
  | .subReg x y => combineFlag x y (· - ·) fun vx vy => vy ≤ vx
  | .shiftRight x y => do
    let source ← shiftSource x y
    setReg x (source >>> 1)
    setFlag (source &&& 1 == 1)
  | .subFrom x y => combineFlag x y (fun vx vy => vy - vx) fun vx vy => vx ≤ vy
  | .shiftLeft x y => do
    let source ← shiftSource x y
    setReg x (source <<< 1)
    setFlag (source >>> 7 == 1)
  | .skipNeReg x y => do skipIf ((← reg x) != (← reg y))
  | .setIndex address => setIndex address
  | .jumpOffset base => do
    let offset ← reg 0
    jumpTo (← lift (base.ahead offset.toNat))
  | .random x mask => do setReg x ((← roll) &&& mask)
  | .draw x y height => do
    let vx ← reg x
    let vy ← reg y
    let m ← get
    let sprite ← lift (m.memory.slice m.index.toNat height.toNat)
    let sketch ← lift (m.screen.plot vx vy sprite)
    set { m with screen := sketch.screen }
    setFlag sketch.hit
  | .skipHeld x => do
    let key ← reg x
    skipIf ((← get).keypad.isHeld key)
  | .skipFree x => do
    let key ← reg x
    skipIf (!(← get).keypad.isHeld key)
  | .readDelay x => do setReg x (← get).timers.delay
  | .awaitKey _ => pure ()
  | .setDelay x => do
    let value ← reg x
    modify fun m => { m with timers := { m.timers with delay := value } }
  | .setSound x => do
    let value ← reg x
    modify fun m => { m with timers := { m.timers with sound := value } }
  | .addIndex x => do
    let value ← reg x
    let sum := (← get).index + value.toUInt16
    setIndex sum
    setFlag (0xFFF < sum)
  | .pointGlyph x => do setIndex (Memory.glyphHeight * (← reg x).toUInt16)
  | .storeDecimal x => do
    let value ← reg x
    let m ← get
    let memory ← lift (m.memory.overwrite m.index.toNat [value / 100, value / 10 % 10, value % 10])
    set { m with memory }
  | .storeRegisters x => do
    let m ← get
    lift (Memory.checkSpan m.index.toNat (x.toNat + 1))
    let memory ← lift (m.memory.overwrite m.index.toNat (← firstRegs (x.toNat + 1)))
    set { m with memory }
    moveIndex (x.toNat + 1)
  | .loadRegisters x => do
    let m ← get
    setFirstRegs (← lift (m.memory.slice m.index.toNat (x.toNat + 1)))
    moveIndex (x.toNat + 1)

/-- Look for a held key. The lowest one goes into register `x`, and the machine moves on; without
one it keeps waiting. -/
def poll (x : UInt8) : Exec Outcome := do
  match (← get).keypad.lowest? with
  | some key =>
    setReg x key
    advance
    modify fun m => { m with status := .running }
    return .executed (.awaitKey x)
  | none => return .awaitingKey

/-- Carry out an instruction as if it stood at the program counter. -/
def perform (i : Instruction) : Exec Outcome := do
  match i with
  | .awaitKey x =>
    modify fun m => { m with status := .awaitingKey x }
    poll x
  | _ =>
    effect i
    unless i.isControlFlow do advance
    return if i = .breakpoint then .breakpoint else .executed i

end Exec

/-! ## With the journal -/

/-- What became of an instruction: its outcome or failure, the machine it leaves, and the events. -/
structure Report (α : Type) where
  /-- the outcome, or why there is none -/
  result : Except Failure α
  /-- the machine afterwards -/
  machine : Machine
  /-- the events in order -/
  log : List Event

namespace Machine

/-- Run a computation on the machine, with the events it is known for. -/
def run {α : Type} (m : Machine) (action : Exec α) (log : List Event) : Report α :=
  match EStateM.run action m with
  | .ok a m' => ⟨.ok a, m', log⟩
  | .error e m' => ⟨.error e, m', log⟩

/-- Carry out an instruction as if it stood at the program counter. -/
def execute (m : Machine) (i : Instruction) : Report Outcome :=
  m.run (Exec.perform i) (if i = .breakpoint then [.breakpoint m.pc] else [])

/-- Carry out several instructions in order, up to the first that fails. -/
def executeAll (m : Machine) : List Instruction → Report Unit
  | [] => ⟨.ok (), m, []⟩
  | i :: rest =>
    let first := m.execute i
    match first.result with
    | .error e => ⟨.error e, first.machine, first.log⟩
    | .ok _ =>
      let others := executeAll first.machine rest
      { others with log := first.log ++ others.log }

end Machine

end Chip8
