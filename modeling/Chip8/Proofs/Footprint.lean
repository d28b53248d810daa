import Chip8.Proofs.Machine.Execute

/-!
# What an instruction leaves alone

A row of the instruction table names what its instruction does, and says nothing of all the other
parts of the machine. They stay as they are: whatever is different after an instruction that was
carried out is a part that its row names. `Machine.Writes` lists these parts, row by row. The
program counter is not among them, since moving it is what all rows have in common.

* `Place`, `Machine.SameAt` — the parts of a machine, and that two machines agree on one;
* `Machine.Writes` — the parts that the row of an instruction names;
* `Machine.Confined` — the difference of two machines is confined to some parts;
* `confined_setRegister`, `confined_put`, … — the operations of which effects are made;
* `writes`, `Executes.writes` — an effect, and an instruction that is carried out;
* `execute_touches` — the same with the number of open calls, which changes by one at a time.
-/

namespace Chip8

/-- A part of the machine. -/
inductive Place
  /-- the byte at an address -/
  | byte (a : Nat)
  /-- a register -/
  | register (k : Nat)
  /-- a slot of the call stack, in use or not -/
  | slot (k : Nat)
  /-- the number of open calls -/
  | depth
  /-- the address register -/
  | index
  /-- the pixels and the flag that goes with them -/
  | screen
  /-- the delay timer -/
  | delay
  /-- the sound timer -/
  | sound
  /-- what the next step does -/
  | status
  /-- the keys -/
  | keypad
  /-- the dialect -/
  | dialect
  /-- the random bytes -/
  | dice

namespace Instruction

/-- The register that an instruction sets. The key wait is not among them, since it needs a key, and
neither is the flag, which is set on the side. -/
def target? : Instruction → Option UInt8
  | setConst x _ | addConst x _ | copy x _ | bitOr x _ | bitAnd x _ | bitXor x _ | addReg x _
  | subReg x _ | shiftRight x _ | subFrom x _ | shiftLeft x _ | random x _ | readDelay x => some x
  | _ => none

/-- The instructions that tell something in the flag. -/
def setsFlag : Instruction → Bool
  | addReg _ _ | subReg _ _ | shiftRight _ _ | subFrom _ _ | shiftLeft _ _ | draw _ _ _
  | addIndex _ => true
  | _ => false

/-- The instructions that place the index. -/
def setsIndex : Instruction → Bool
  | setIndex _ | addIndex _ | pointGlyph _ => true
  | _ => false

/-- The instructions that copy registers to memory or back. -/
def transfers : Instruction → Bool
  | storeRegisters _ | loadRegisters _ => true
  | _ => false

/-- By how much an instruction changes the number of open calls. -/
def opens : Instruction → Int
  | call _ => 1
  | leave => -1
  | _ => 0

end Instruction

namespace Machine

/-- Two machines agree on a part. -/
def SameAt (m n : Machine) : Place → Prop
  | .byte a => n.memory.get? a = m.memory.get? a
  | .register k => n.registers[k]? = m.registers[k]?
  | .slot k => n.stack.slots[k]? = m.stack.slots[k]?
  | .depth => n.stack.depth = m.stack.depth
  | .index => n.index = m.index
  | .screen => n.screen = m.screen
  | .delay => n.timers.delay = m.timers.delay
  | .sound => n.timers.sound = m.timers.sound
  | .status => n.status = m.status
  | .keypad => n.keypad = m.keypad
  | .dialect => n.dialect = m.dialect
  | .dice => n.dice = m.dice

/-- The parts that the row of an instruction names as changed. -/
inductive Writes (m : Machine) : Instruction → Place → Prop
  /-- three digits are stored from the index on -/
  | digit {x : UInt8} {a : Nat} (hlow : m.index.toNat ≤ a) (hhigh : a ≤ m.index.toNat + 2) :
      Writes m (.storeDecimal x) (.byte a)
  /-- the registers up to `X` are stored from the index on -/
  | stored {x : UInt8} {a : Nat} (hlow : m.index.toNat ≤ a)
      (hhigh : a ≤ m.index.toNat + x.toNat) : Writes m (.storeRegisters x) (.byte a)
  /-- the screen is blanked -/
  | cleared : Writes m .clearScreen .screen
  /-- a sprite is drawn -/
  | drawn {x y height : UInt8} : Writes m (.draw x y height) .screen
  /-- the address of a call goes into the first free slot -/
  | site {target : Addr} : Writes m (.call target) (.slot m.stack.depth)
  /-- a call is opened -/
  | opened {target : Addr} : Writes m (.call target) .depth
  /-- a call is closed -/
  | closed : Writes m .leave .depth
  /-- the delay timer is set -/
  | delay {x : UInt8} : Writes m (.setDelay x) .delay
  /-- the sound timer is set -/
  | sound {x : UInt8} : Writes m (.setSound x) .sound
  /-- the index is placed -/
  | index {i : Instruction} (hi : i.setsIndex = true) : Writes m i .index
  /-- the index moves behind the bytes that were transferred, if the dialect says so -/
  | moved {i : Instruction} (hi : i.transfers = true) (hd : m.dialect.transferMovesIndex = true) :
      Writes m i .index
  /-- the machine waits, or no longer waits -/
  | status {x : UInt8} : Writes m (.awaitKey x) .status
  /-- a register is set -/
  | target {i : Instruction} {x : UInt8} (hi : i.target? = some x) :
      Writes m i (.register x.toNat)
  /-- a key goes into the register, if one is held -/
  | key {x key : UInt8} (hl : m.keypad.lowest? = some key) :
      Writes m (.awaitKey x) (.register x.toNat)
  /-- the flag tells of a carry, a borrow, a bit, a collision or an overflow -/
  | flag {i : Instruction} (hi : i.setsFlag = true) : Writes m i (.register 15)
  /-- the registers up to `X` are loaded -/
  | loaded {x : UInt8} {k : Nat} (hk : k ≤ x.toNat) : Writes m (.loadRegisters x) (.register k)
  /-- a random byte is used up -/
  | rolled {x mask : UInt8} : Writes m (.random x mask) .dice

/-- The difference of two machines is confined to some parts. -/
def Confined (m n : Machine) (P : Place → Prop) : Prop := ∀ p, ¬m.SameAt n p → P p

variable {m n k : Machine} {i : Instruction} {o : Outcome} {P : Place → Prop}

/-! ## The operations on machines -/

theorem SameAt.trans {p : Place} (h₁ : m.SameAt n p) (h₂ : n.SameAt k p) : m.SameAt k p := by
  cases p <;> exact Eq.trans h₂ h₁

theorem Confined.trans (h₁ : m.Confined n P) (h₂ : n.Confined k P) : m.Confined k P := by
  intro p hp
  by_cases h : m.SameAt n p
  · exact h₂ p fun h' => hp (h.trans h')
  · exact h₁ p h

theorem confined_self : m.Confined m P := by
  intro p hp
  cases p <;> exact absurd rfl hp

/-- The program counter is not among the parts. -/
theorem confined_counter (pc : Addr) : m.Confined { m with pc } P := by
  intro p hp
  cases p <;> exact absurd rfl hp

theorem confined_setRegister {x : UInt8} (value : UInt8) (h : P (.register x.toNat)) :
    m.Confined (m.setRegister x value) P := by
  intro p hp
  cases p
  case register j =>
    rcases Nat.lt_trichotomy x.toNat j with hlt | rfl | hlt
    · exact absurd (Vector.getElem?_setIfInBounds_ne (by omega)) hp
    · exact h
    · exact absurd (Vector.getElem?_setIfInBounds_ne (by omega)) hp
  all_goals exact absurd rfl hp

theorem confined_setFlag (on : Bool) (h : P (.register 15)) : m.Confined (m.setFlag on) P :=
  confined_setRegister on.toUInt8 h

/-- The first registers are set, one for each of the values. -/
theorem confined_setFirstRegs {values : List UInt8} (h : ∀ j < values.length, P (.register j)) :
    m.Confined (m.setFirstRegs values) P := by
  intro p hp
  cases p
  case register j =>
    refine h j (Nat.lt_of_not_le fun hle => hp ?_)
    -- behind the values a register gets what it held
    have hnone : values[j]? = none := List.getElem?_eq_none hle
    simp only [SameAt, setFirstRegs, Vector.getElem?_ofFn, hnone, Option.getD_none]
    split
    · next hj => exact (Vector.getElem?_eq_getElem hj).symm
    · next hj => exact (Vector.getElem?_eq_none (Nat.le_of_not_lt hj)).symm
  all_goals exact absurd (by simp only [SameAt, setFirstRegs]) hp

theorem confined_moveIndex (count : Nat) (h : m.dialect.transferMovesIndex = true → P .index) :
    m.Confined (m.moveIndex count) P := by
  intro p hp
  cases p
  case index =>
    rcases hd : m.dialect.transferMovesIndex with - | -
    · exact absurd (by simp only [SameAt, moveIndex, hd, Bool.false_eq_true, if_false]) hp
    · exact h hd
  all_goals exact absurd rfl hp

theorem confined_index (index : UInt16) (h : P .index) : m.Confined { m with index } P := by
  intro p hp
  cases p
  case index => exact h
  all_goals exact absurd rfl hp

theorem confined_screen (screen : Screen) (h : P .screen) : m.Confined { m with screen } P := by
  intro p hp
  cases p
  case screen => exact h
  all_goals exact absurd rfl hp

theorem confined_status (status : Status) (h : P .status) : m.Confined { m with status } P := by
  intro p hp
  cases p
  case status => exact h
  all_goals exact absurd rfl hp

theorem confined_dice (dice : Dice) (h : P .dice) : m.Confined { m with dice } P := by
  intro p hp
  cases p
  case dice => exact h
  all_goals exact absurd rfl hp

theorem confined_delay (delay : UInt8) (h : P .delay) :
    m.Confined { m with timers := { m.timers with delay } } P := by
  intro p hp
  cases p
  case delay => exact h
  all_goals exact absurd rfl hp

theorem confined_sound (sound : UInt8) (h : P .sound) :
    m.Confined { m with timers := { m.timers with sound } } P := by
  intro p hp
  cases p
  case sound => exact h
  all_goals exact absurd rfl hp

/-- Bytes are written from an address on. -/
theorem confined_put {start : Nat} {values : List UInt8}
    (h : ∀ a, start ≤ a → a < start + values.length → P (.byte a)) :
    m.Confined { m with memory := m.memory.put start values } P := by
  intro p hp
  cases p
  case byte a =>
    simp only [SameAt, Memory.getElem?_put] at hp
    split at hp
    · next hin => exact h a hin.1 hin.2.1
    · exact absurd rfl hp
  all_goals exact absurd rfl hp

/-- A call is opened. -/
theorem confined_push {site : Addr} {stack : CallStack} (hs : m.stack.push site = .ok stack)
    (hslot : P (.slot m.stack.depth)) (hdepth : P .depth) :
    m.Confined { m with stack } P := by
  obtain ⟨hlt, rfl⟩ := CallStack.push_eq_ok_iff.1 hs
  intro p hp
  cases p
  case slot j =>
    by_cases hj : m.stack.depth = j
    · rwa [← hj]
    · exact absurd (Vector.getElem?_set_ne hlt hj) hp
  case depth => exact hdepth
  all_goals exact absurd rfl hp

/-- A call is closed. What was in its slot stays there. -/
theorem confined_pop {site pc : Addr} {stack : CallStack} (hs : m.stack.pop pc = .ok (site, stack))
    (hdepth : P .depth) : m.Confined { m with stack } P := by
  obtain ⟨-, hslots, -⟩ := CallStack.pop_eq_ok_iff.1 hs
  intro p hp
  cases p
  case slot j => exact absurd (by simp only [SameAt, hslots]) hp
  case depth => exact hdepth
  all_goals exact absurd rfl hp

theorem confined_skipIf {condition : Bool} (h : m.skipIf condition = .ok n) : m.Confined n P := by
  cases condition
  · cases h
    exact confined_self
  · obtain ⟨pc, -, rfl⟩ := map_eq_ok_iff.1 h
    exact confined_counter pc

theorem confined_moveOn (h : m.moveOn i = .ok n) : m.Confined n P := by
  obtain ⟨pc, rfl, -⟩ := pc_of_moveOn h
  exact confined_counter pc

/-! ## One instruction -/

/-- **An effect** changes nothing but what the row of its instruction names. -/
theorem writes (hr : ∀ x ∈ i.registers, x < 16) (h : m.apply i = .ok n) :
    m.Confined n (m.Writes i) := by
  cases i
  case breakpoint | awaitKey =>
    cases h
    exact confined_self
  case clearScreen =>
    cases h
    exact confined_screen _ .cleared
  case leave =>
    obtain ⟨⟨site, stack⟩, hs, h'⟩ := bind_eq_ok_iff.1 h
    obtain ⟨pc, -, rfl⟩ := map_eq_ok_iff.1 h'
    exact (confined_pop hs .closed).trans (confined_counter pc)
  case call target =>
    obtain ⟨stack, hs, rfl⟩ := map_eq_ok_iff.1 h
    exact (confined_push hs .site .opened).trans (confined_counter target)
  case jump target =>
    cases h
    exact confined_counter target
  case jumpOffset base =>
    obtain ⟨pc, -, rfl⟩ := map_eq_ok_iff.1 h
    exact confined_counter pc
  case skipEqConst | skipNeConst | skipEqReg | skipNeReg | skipHeld | skipFree =>
    exact confined_skipIf h
  case setConst | addConst | copy | bitOr | bitAnd | bitXor | readDelay =>
    cases h
    exact confined_setRegister _ (.target rfl)
  case addReg | subReg | shiftRight | subFrom | shiftLeft =>
    cases h
    exact (confined_setRegister _ (.target rfl)).trans (confined_setFlag _ (.flag rfl))
  case random x mask =>
    cases h
    exact (confined_dice _ .rolled).trans (confined_setRegister _ (.target rfl))
  case draw x y height =>
    obtain ⟨sprite, -, rfl⟩ := map_eq_ok_iff.1 h
    exact (confined_screen _ .drawn).trans (confined_setFlag _ (.flag rfl))
  case setDelay x =>
    cases h
    exact confined_delay _ .delay
  case setSound x =>
    cases h
    exact confined_sound _ .sound
  case setIndex | pointGlyph =>
    cases h
    exact confined_index _ (.index rfl)
  case addIndex x =>
    cases h
    exact (confined_index _ (.index rfl)).trans (confined_setFlag _ (.flag rfl))
  case storeDecimal x =>
    obtain ⟨memory, hs, rfl⟩ := map_eq_ok_iff.1 h
    obtain ⟨-, rfl⟩ := Memory.overwrite_eq_ok_iff.1 hs
    refine confined_put ?_
    intro a hlow hhigh
    exact .digit hlow (Nat.le_of_lt_succ hhigh)
  case storeRegisters x =>
    have hx : x < 16 := hr x (List.mem_singleton.2 rfl)
    obtain ⟨memory, hs, rfl⟩ := map_eq_ok_iff.1 h
    obtain ⟨-, rfl⟩ := Memory.overwrite_eq_ok_iff.1 hs
    refine (confined_put ?_).trans (confined_moveIndex _ fun hd => .moved rfl hd)
    intro a hlow hhigh
    rw [m.length_take_registers hx] at hhigh
    exact .stored hlow (Nat.le_of_lt_succ hhigh)
  case loadRegisters x =>
    obtain ⟨values, hs, rfl⟩ := map_eq_ok_iff.1 h
    refine (confined_setFirstRegs ?_).trans (confined_moveIndex _ fun hd => .moved rfl hd)
    intro j hj
    rw [Memory.length_of_slice hs] at hj
    exact .loaded (Nat.le_of_lt_succ hj)

/-- **Carrying out an instruction** changes nothing but what its row names. -/
theorem Executes.writes (hr : ∀ x ∈ i.registers, x < 16) (he : m.Executes i (.ok o) n) :
    m.Confined n (m.Writes i) := by
  cases he with
  | done hk ha hm => exact (Machine.writes hr ha).trans (confined_moveOn hm)
  | waits hi hl =>
    subst hi
    exact confined_status _ .status
  | takes hi hl hp =>
    subst hi
    exact (confined_setRegister _ (.key hl)).trans
      ((confined_counter _).trans (confined_status _ .status))

/-- An effect opens at most one call, or closes one. -/
theorem Flows.depth_eq (hf : m.Flows i n) : (n.stack.depth : Int) = m.stack.depth + i.opens := by
  cases hf with
  | @leave site pc stack hs hp =>
    obtain ⟨hdepth, -, -⟩ := CallStack.pop_eq_ok_iff.1 hs
    show (stack.depth : Int) = m.stack.depth + -1
    omega
  | call hs =>
    obtain ⟨-, rfl⟩ := CallStack.push_eq_ok_iff.1 hs
    rfl
  | jump | offset => exact (Int.add_zero _).symm
  | skip hi hp =>
    cases i <;> cases hi <;> exact (Int.add_zero _).symm
  | stay hi hsame =>
    rw [hsame.stack]
    cases i <;> cases hi <;> exact (Int.add_zero _).symm

theorem Executes.depth_eq (he : m.Executes i (.ok o) n) :
    (n.stack.depth : Int) = m.stack.depth + i.opens := by
  cases he with
  | done hk ha hm =>
    obtain ⟨pc, rfl, -⟩ := pc_of_moveOn hm
    exact (flows ha).depth_eq
  | waits hi | takes hi =>
    subst hi
    exact (Int.add_zero _).symm

/-- **Each instruction touches only what its row names.** What is different after an instruction was
carried out is a part that it writes, and the number of open calls has changed by one with a call or
a return and is the same otherwise. -/
theorem execute_touches {m : Machine} {i : Instruction} {o : Outcome}
    (hr : ∀ x ∈ i.registers, x < 16) (h : (m.execute i).result = .ok o) :
    (∀ p, ¬m.SameAt (m.execute i).machine p → m.Writes i p) ∧
      ((m.execute i).machine.stack.depth : Int) = m.stack.depth + i.opens := by
  have he := executes (m := m) hr
  rw [h] at he
  exact ⟨he.writes hr, he.depth_eq⟩

/-- Storing the digits of a register changes at most three bytes, and opens or closes no call. -/
theorem digits_touch_three_bytes :
    let m := (boot {} .loaded).obeyAll [.setRegister 3 254, .setIndex 0x300]
    let n := (m.execute (.storeDecimal 3)).machine
    (m.execute (.storeDecimal 3)).result = .ok (.executed (.storeDecimal 3)) ∧
      (∀ a, n.memory.get? a ≠ m.memory.get? a → 0x300 ≤ a ∧ a ≤ 0x302) ∧ n.stack.depth = 0 := by
  intro m n
  have hok : (m.execute (.storeDecimal 3)).result = .ok (.executed (.storeDecimal 3)) := rfl
  have hr : ∀ x ∈ (Instruction.storeDecimal 3).registers, x < 16 := by decide +kernel
  obtain ⟨hwrites, hdepth⟩ := execute_touches hr hok
  refine ⟨hok, ?_, Int.ofNat_inj.1 hdepth⟩
  intro a ha
  cases hwrites (.byte a) ha with
  | digit hlow hhigh => exact ⟨hlow, hhigh⟩

end Machine

end Chip8
