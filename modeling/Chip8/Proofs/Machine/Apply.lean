import Chip8.Machine.Command
import Chip8.Proofs.Plot
import Chip8.Proofs.Span

/-!
# Instructions as functions of the machine

Execution runs in `Exec`, where a computation leaves a machine even when it fails. As long as the
registers of an instruction exist that is more than is needed: its effect is either a new machine,
or a failure that leaves the old one. `Machine.apply` is the effect in this form, and `run_effect`
says that the two agree. What has to be known of an instruction is read off `apply` from here on.

* `Machine.reg`, `setFlag`, `advance`, `skipIf`, … — the operations of `Exec` on machines;
* `Machine.apply` — the effect of an instruction, the key wait and the way to the next word apart;
* `Exec.run_reg`, … — running an operation of `Exec` is the operation on machines.
-/

namespace Chip8

namespace Machine

/-! ## The operations on machines -/

/-- The value of a register, zero for one that does not exist. -/
def reg (m : Machine) (x : UInt8) : UInt8 := m.registers[x.toNat]?.getD 0

/-- The machine with the flag set to one or to zero. -/
def setFlag (m : Machine) (on : Bool) : Machine := m.setRegister Exec.flag on.toUInt8

/-- The machine with the program counter moved on by one word. -/
def advance (m : Machine) : Except Failure Machine :=
  (m.pc.ahead 2).map fun pc => { m with pc }

/-- The machine with the next word skipped if a condition holds. -/
def skipIf (m : Machine) (condition : Bool) : Except Failure Machine :=
  if condition then m.advance else .ok m

/-- The value that a shift reads. -/
def shiftSource (m : Machine) (x y : UInt8) : UInt8 :=
  if m.dialect.shiftReadsY then m.reg y else m.reg x

/-- The machine with the index behind `count` transferred bytes, if the dialect says so. -/
def moveIndex (m : Machine) (count : Nat) : Machine :=
  { m with
    index := if m.dialect.transferMovesIndex then m.index + UInt16.ofNat count else m.index }

/-- The machine with its first registers set to a list of values. -/
def setFirstRegs (m : Machine) (values : List UInt8) : Machine :=
  { m with registers := Vector.ofFn fun k => values[k.val]?.getD (m.registers.get k) }

/-- The machine with a sprite on its screen, and the flag telling of a collision. -/
def drawSprite (m : Machine) (x y : UInt8) (sprite : List UInt8) : Machine :=
  { m with screen := m.screen.draw x y sprite }.setFlag (m.screen.collides x y sprite)

/-- The effect of an instruction whose registers exist: the machine it leaves, or the failure that
leaves the machine as it is. -/
def apply (m : Machine) : Instruction → Except Failure Machine
  | .breakpoint | .awaitKey _ => .ok m
  | .clearScreen => .ok { m with screen := m.screen.clear }
  | .leave =>
    (m.stack.pop m.pc).bind fun (site, stack) => (site.ahead 2).map fun pc => { m with stack, pc }
  | .jump target => .ok { m with pc := target }
  | .call target => (m.stack.push m.pc).map fun stack => { m with stack, pc := target }
  | .skipEqConst x value => m.skipIf (m.reg x == value)
  | .skipNeConst x value => m.skipIf (m.reg x != value)
  | .skipEqReg x y => m.skipIf (m.reg x == m.reg y)
  | .setConst x value => .ok (m.setRegister x value)
  | .addConst x value => .ok (m.setRegister x (m.reg x + value))
  | .copy x y => .ok (m.setRegister x (m.reg y))
  | .bitOr x y => .ok (m.setRegister x (m.reg x ||| m.reg y))
  | .bitAnd x y => .ok (m.setRegister x (m.reg x &&& m.reg y))
  | .bitXor x y => .ok (m.setRegister x (m.reg x ^^^ m.reg y))
  | .addReg x y =>
    .ok ((m.setRegister x (m.reg x + m.reg y)).setFlag
      ((m.reg x).toNat + (m.reg y).toNat > 255))
  | .subReg x y => .ok ((m.setRegister x (m.reg x - m.reg y)).setFlag (m.reg y ≤ m.reg x))
  | .shiftRight x y =>
    .ok ((m.setRegister x (m.shiftSource x y >>> 1)).setFlag (m.shiftSource x y &&& 1 == 1))
  | .subFrom x y => .ok ((m.setRegister x (m.reg y - m.reg x)).setFlag (m.reg x ≤ m.reg y))
  | .shiftLeft x y =>
    .ok ((m.setRegister x (m.shiftSource x y <<< 1)).setFlag (m.shiftSource x y >>> 7 == 1))
  | .skipNeReg x y => m.skipIf (m.reg x != m.reg y)
  | .setIndex address => .ok { m with index := address }
  | .jumpOffset base => (base.ahead (m.reg 0).toNat).map fun pc => { m with pc }
  | .random x mask =>
    .ok ({ m with dice := m.dice.next }.setRegister x (m.dice.top &&& mask))
  | .draw x y height =>
    (m.memory.slice m.index.toNat height.toNat).map (m.drawSprite (m.reg x) (m.reg y))
  | .skipHeld x => m.skipIf (m.keypad.isHeld (m.reg x))
  | .skipFree x => m.skipIf (!m.keypad.isHeld (m.reg x))
  | .readDelay x => .ok (m.setRegister x m.timers.delay)
  | .setDelay x => .ok { m with timers := { m.timers with delay := m.reg x } }
  | .setSound x => .ok { m with timers := { m.timers with sound := m.reg x } }
  | .addIndex x =>
    .ok ({ m with index := m.index + (m.reg x).toUInt16 }.setFlag
      (0xFFF < m.index + (m.reg x).toUInt16))
  | .pointGlyph x => .ok { m with index := Memory.glyphHeight * (m.reg x).toUInt16 }
  | .storeDecimal x =>
    (m.memory.overwrite m.index.toNat
      [m.reg x / 100, m.reg x / 10 % 10, m.reg x % 10]).map fun memory => { m with memory }
  | .storeRegisters x =>
    (m.memory.overwrite m.index.toNat (m.registers.toList.take (x.toNat + 1))).map
      fun memory => { m with memory }.moveIndex (x.toNat + 1)
  | .loadRegisters x =>
    (m.memory.slice m.index.toNat (x.toNat + 1)).map
      fun values => (m.setFirstRegs values).moveIndex (x.toNat + 1)

@[simp] theorem pc_setRegister (m : Machine) (x value : UInt8) :
    (m.setRegister x value).pc = m.pc := rfl

/-- What a register was set to before does not matter. -/
theorem setRegister_setRegister (m : Machine) (x a b : UInt8) :
    (m.setRegister x a).setRegister x b = m.setRegister x b := by
  simp only [setRegister, Vector.setIfInBounds_setIfInBounds]

/-- A register that is set holds what it was set to, and no other register is set. -/
theorem reg_setRegister (m : Machine) {x : UInt8} (hx : x < 16) (value : UInt8) :
    (m.setRegister x value).reg x = value := by
  have hx' : x.toNat < 16 := hx
  simp only [reg, setRegister, Vector.getElem?_setIfInBounds_self, hx', if_true, Option.getD_some]

theorem reg_setRegister_of_ne (m : Machine) {x z : UInt8} (hne : z ≠ x) (value : UInt8) :
    (m.setRegister x value).reg z = m.reg z := by
  have hne' : x.toNat ≠ z.toNat := fun h => hne (UInt8.toNat_inj.1 h).symm
  simp only [reg, setRegister, Vector.getElem?_setIfInBounds_ne hne']

/-- Setting the flag sets the flag. -/
theorem reg_setFlag (m : Machine) (on : Bool) : (m.setFlag on).reg Exec.flag = on.toUInt8 :=
  reg_setRegister m (by decide) _

/-- Setting the flag sets no other register. -/
theorem reg_setFlag_of_ne (m : Machine) (on : Bool) {x : UInt8} (hx : x ≠ Exec.flag) :
    (m.setFlag on).reg x = m.reg x :=
  reg_setRegister_of_ne m hx _

/-- There are enough registers for each run that ends at one of them. -/
theorem length_take_registers (m : Machine) {x : UInt8} (hx : x < 16) :
    (m.registers.toList.take (x.toNat + 1)).length = x.toNat + 1 := by
  have hx' : x.toNat < 16 := hx
  simp only [List.length_take, Vector.length_toList]
  omega

end Machine

namespace Exec

variable (m : Machine)

/-! ## Running the operations of `Exec` -/

/-- The result of a computation that leaves the machine `m` when it fails. -/
def fallback : Except Failure Machine → EStateM.Result Failure Machine Unit
  | .ok next => .ok () next
  | .error e => .error e m

@[simp] theorem run_lift_ok {α : Type} (a : α) : EStateM.run (lift (.ok a)) m = .ok a m := rfl

theorem run_reg {x : UInt8} (hx : x < 16) : EStateM.run (reg x) m = .ok (m.reg x) m := by
  have hx' : x.toNat < 16 := hx
  simp only [reg, Machine.reg, EStateM.run_bind, EStateM.run_get,
    Vector.getElem?_eq_getElem hx', EStateM.run_pure, Option.getD_some]

theorem run_setReg {x : UInt8} (hx : x < 16) (value : UInt8) :
    EStateM.run (setReg x value) m = .ok () (m.setRegister x value) := by
  have hx' : x.toNat < 16 := hx
  have hset : m.registers.set x.toNat value hx' = m.registers.setIfInBounds x.toNat value := by
    apply Vector.ext
    intro k hk
    rw [Vector.getElem_set, Vector.getElem_setIfInBounds]
  simp only [setReg, Machine.setRegister, EStateM.run_bind, EStateM.run_get, dif_pos hx', hset,
    EStateM.run_set]

theorem run_setFlag (on : Bool) : EStateM.run (setFlag on) m = .ok () (m.setFlag on) :=
  run_setReg m (by decide) _

theorem run_advance : EStateM.run advance m = fallback m m.advance := by
  simp only [advance, Machine.advance, EStateM.run_bind, EStateM.run_get]
  cases m.pc.ahead 2 <;> rfl

theorem run_skipIf (condition : Bool) :
    EStateM.run (skipIf condition) m = fallback m (m.skipIf condition) := by
  cases condition
  · rfl
  · exact run_advance m

theorem run_shiftSource {x y : UInt8} (hx : x < 16) (hy : y < 16) :
    EStateM.run (shiftSource x y) m = .ok (m.shiftSource x y) m := by
  simp only [shiftSource, Machine.shiftSource, EStateM.run_bind, EStateM.run_get]
  split
  · exact run_reg m hy
  · exact run_reg m hx

theorem run_moveIndex (count : Nat) :
    EStateM.run (moveIndex count) m = .ok () (m.moveIndex count) := by
  simp only [moveIndex, Machine.moveIndex, EStateM.run_modify]
  split <;> rfl

theorem run_firstRegs {count : Nat} (h : count ≤ 16) :
    EStateM.run (firstRegs count) m = .ok (m.registers.toList.take count) m := by
  rw [firstRegs, if_pos h]
  rfl

theorem run_setFirstRegs {values : List UInt8} (h : values.length ≤ 16) :
    EStateM.run (setFirstRegs values) m = .ok () (m.setFirstRegs values) := by
  rw [setFirstRegs, if_pos h]
  rfl

/-! ## Running an instruction -/

/-- **The effect of an instruction.** If its registers exist, running it is `Machine.apply`. -/
theorem run_effect {i : Instruction} (hr : ∀ x ∈ i.registers, x < 16) :
    EStateM.run (effect i) m = fallback m (m.apply i) := by
  cases i
  case leave =>
    simp only [effect, Machine.apply, EStateM.run_bind, EStateM.run_get]
    rcases m.stack.pop m.pc with e | ⟨site, stack⟩
    · rfl
    · simp only [run_lift_ok, Except.bind]
      rcases site.ahead 2 with e | pc <;> rfl
  case call target =>
    simp only [effect, Machine.apply, EStateM.run_bind, EStateM.run_get]
    rcases m.stack.push m.pc with e | stack <;> rfl
  case jumpOffset base =>
    simp only [effect, Machine.apply, EStateM.run_bind, run_reg m (x := 0) (by decide)]
    rcases base.ahead (m.reg 0).toNat with e | pc <;> rfl
  case draw x y height =>
    have hx : x < 16 := hr x (by simp [Instruction.registers])
    have hy : y < 16 := hr y (by simp [Instruction.registers])
    simp only [effect, Machine.apply, EStateM.run_bind, EStateM.run_get, run_reg, hx, hy]
    rcases m.memory.slice m.index.toNat height.toNat with e | sprite
    · rfl
    · simp only [run_lift_ok, Screen.plot_eq, EStateM.run_set, run_setFlag]
      rfl
  case storeDecimal x =>
    have hx : x < 16 := hr x (by simp [Instruction.registers])
    simp only [effect, Machine.apply, EStateM.run_bind, EStateM.run_get, run_reg, hx]
    rcases m.memory.overwrite m.index.toNat
      [m.reg x / 100, m.reg x / 10 % 10, m.reg x % 10] with e | memory <;> rfl
  case storeRegisters x =>
    have hx : x < 16 := hr x (by simp [Instruction.registers])
    have hx' : x.toNat < 16 := hx
    simp only [effect, Machine.apply, EStateM.run_bind, EStateM.run_get, Memory.overwrite,
      m.length_take_registers hx]
    -- the span is checked before the registers are read, and once more by `overwrite`
    rcases hs : Memory.checkSpan m.index.toNat (x.toNat + 1) with e | u
    · rfl
    · simp only [run_lift_ok, run_firstRegs m hx', m.length_take_registers hx, hs]
      exact run_moveIndex _ _
  case loadRegisters x =>
    have hx : x.toNat < 16 := hr x (by simp [Instruction.registers])
    simp only [effect, Machine.apply, EStateM.run_bind, EStateM.run_get]
    rcases hs : m.memory.slice m.index.toNat (x.toNat + 1) with e | values
    · rfl
    · have hl : values.length ≤ 16 := by
        rw [Memory.length_of_slice hs]
        omega
      simp only [run_lift_ok, run_setFirstRegs m hl]
      exact run_moveIndex _ _
  all_goals
    simp only [Instruction.registers, List.mem_cons, List.not_mem_nil, or_false,
      forall_eq_or_imp, forall_eq] at hr
    simp only [effect, combine, combineFlag, EStateM.run_bind, run_reg, run_setReg, run_setFlag,
      run_shiftSource, hr, EStateM.run_get, run_skipIf, Machine.apply, fallback,
      EStateM.run_modify, EStateM.run_pure, jumpTo, setIndex, roll, EStateM.run_modifyGet]

end Exec

end Chip8
