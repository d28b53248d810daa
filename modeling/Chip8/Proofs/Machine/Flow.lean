import Chip8.Proofs.CallStack
import Chip8.Proofs.Machine.Apply

/-!
# What an effect does to the course of a program

The program counter, the call stack, the status, the keypad and the dialect steer what happens next.
Most effects leave them all alone (`Machine.SameCourse`); `Machine.Flows` lists the five kinds of
instruction that do not, with what they do. On the other side `Machine.Refuses` lists why an
instruction has no effect.

* `flows` — an effect goes one of the ways of `Flows`;
* `Flows.status`, `Flows.depth_le` — what all of these ways have in common;
* `refuses` — an instruction without an effect is refused for one of the reasons of `Refuses`;
* `apply_fault_iff` — which of these reasons are faults, and that each of them is one.
-/

namespace Chip8

/-- An address is not moved on exactly if the sum does not fit in sixteen bits. -/
theorem Addr.ahead_eq_error_iff {a : Addr} {distance : Nat} {e : Failure} :
    a.ahead distance = .error e ↔
      0x10000 ≤ a.toNat + distance ∧ e = .breach (.address a distance) := by
  rw [ahead]
  split
  · next h => exact ⟨fun he => (by cases he), fun he => absurd h (Nat.not_lt.2 he.1)⟩
  · next h =>
    exact ⟨fun he => ⟨Nat.not_lt.1 h, (Except.error.inj he).symm⟩, fun he => (by rw [he.2])⟩

/-- Not to be moved on is never a fault. -/
theorem Addr.ahead_ne_fault {a : Addr} {distance : Nat} {f : Fault} :
    a.ahead distance ≠ .error (.fault f) := by
  intro h
  cases (ahead_eq_error_iff.1 h).2

/-- Moving on adds the distance. -/
theorem Addr.eq_of_ahead {a b : Addr} {distance : Nat} (h : a.ahead distance = .ok b) :
    b = a + UInt16.ofNat distance := by
  rw [ahead] at h
  split at h
  · exact (Except.ok.inj h).symm
  · cases h

section Except

variable {ε α β : Type} {r : Except ε α} {e : ε} {b : β}

theorem map_eq_ok_iff {f : α → β} : r.map f = .ok b ↔ ∃ a, r = .ok a ∧ f a = b := by
  rcases r with e | a
  · exact ⟨fun h => (by cases h), fun ⟨_, h, _⟩ => (by cases h)⟩
  · exact ⟨fun h => ⟨a, rfl, Except.ok.inj h⟩, fun ⟨_, h, hb⟩ => (by cases h; rw [← hb]; rfl)⟩

theorem map_eq_error_iff {f : α → β} : r.map f = .error e ↔ r = .error e := by
  rcases r with e' | a
  · exact ⟨fun h => (by rw [Except.error.inj h]), fun h => (by rw [h]; rfl)⟩
  · exact ⟨fun h => (by cases h), fun h => (by cases h)⟩

theorem bind_eq_ok_iff {f : α → Except ε β} :
    r.bind f = .ok b ↔ ∃ a, r = .ok a ∧ f a = .ok b := by
  rcases r with e | a
  · exact ⟨fun h => (by cases h), fun ⟨_, h, _⟩ => (by cases h)⟩
  · exact ⟨fun h => ⟨a, rfl, h⟩, fun ⟨_, h, hb⟩ => (by cases h; exact hb)⟩

theorem bind_eq_error_iff {f : α → Except ε β} :
    r.bind f = .error e ↔ r = .error e ∨ ∃ a, r = .ok a ∧ f a = .error e := by
  rcases r with e' | a
  · exact ⟨fun h => .inl (by rw [Except.error.inj h]), fun h => by
      rcases h with h | ⟨_, h, _⟩
      · rw [h]; rfl
      · cases h⟩
  · exact ⟨fun h => .inr ⟨a, rfl, h⟩, fun h => by
      rcases h with h | ⟨_, h, hb⟩
      · cases h
      · cases h; exact hb⟩

end Except

/-- How many bytes at the index an instruction reads or writes, if it does. -/
def Instruction.span? : Instruction → Option Nat
  | .draw _ _ height => some height.toNat
  | .storeDecimal _ => some 3
  | .storeRegisters x | .loadRegisters x => some (x.toNat + 1)
  | _ => none

/-- An instruction transfers no more bytes than a byte can count. -/
theorem Instruction.span?_le {i : Instruction} {length : Nat} (h : i.span? = some length) :
    length ≤ 256 := by
  cases i <;> cases h
  case draw x y height =>
    have := height.toNat_lt
    omega
  case storeDecimal x => decide
  case storeRegisters x | loadRegisters x =>
    have := x.toNat_lt
    omega

namespace Machine

/-! ## Effects -/

/-- Two machines agree on what steers a program. -/
structure SameCourse (m n : Machine) : Prop where
  /-- the same instruction is next -/
  pc : n.pc = m.pc
  /-- the same calls are open -/
  stack : n.stack = m.stack
  /-- they do the same when asked for a step -/
  status : n.status = m.status
  /-- the same keys are held -/
  keypad : n.keypad = m.keypad
  /-- they speak the same dialect -/
  dialect : n.dialect = m.dialect

/-- What an effect does to the program counter and the call stack. -/
inductive Flows (m : Machine) : Instruction → Machine → Prop
  /-- the newest call is closed, and the program goes on behind it -/
  | leave {site pc : Addr} {stack : CallStack} (hs : m.stack.pop m.pc = .ok (site, stack))
      (hp : site.ahead 2 = .ok pc) : Flows m .leave { m with stack, pc }
  /-- a call is opened, and the program goes on at its target -/
  | call {target : Addr} {stack : CallStack} (hs : m.stack.push m.pc = .ok stack) :
      Flows m (.call target) { m with stack, pc := target }
  /-- the program goes on somewhere else -/
  | jump {target : Addr} : Flows m (.jump target) { m with pc := target }
  /-- the program goes on somewhere else, with the first register added -/
  | offset {base pc : Addr} (hp : base.ahead (m.reg 0).toNat = .ok pc) :
      Flows m (.jumpOffset base) { m with pc }
  /-- a word is skipped -/
  | skip {i : Instruction} {pc : Addr} (hi : i.isControlFlow = false)
      (hp : m.pc.ahead 2 = .ok pc) : Flows m i { m with pc }
  /-- the course stays as it is -/
  | stay {i : Instruction} {n : Machine} (hi : i.isControlFlow = false) (h : m.SameCourse n) :
      Flows m i n

variable {m n : Machine} {i : Instruction} {e : Failure}

theorem SameCourse.trans {k : Machine} (h₁ : m.SameCourse n) (h₂ : n.SameCourse k) :
    m.SameCourse k where
  pc := h₂.pc.trans h₁.pc
  stack := h₂.stack.trans h₁.stack
  status := h₂.status.trans h₁.status
  keypad := h₂.keypad.trans h₁.keypad
  dialect := h₂.dialect.trans h₁.dialect

theorem sameCourse_moveIndex (count : Nat) : m.SameCourse (m.moveIndex count) :=
  ⟨rfl, rfl, rfl, rfl, rfl⟩

theorem sameCourse_setFirstRegs (values : List UInt8) : m.SameCourse (m.setFirstRegs values) := by
  constructor <;> simp only [setFirstRegs]

theorem flows_skipIf (hi : i.isControlFlow = false) {condition : Bool}
    (h : m.skipIf condition = .ok n) : m.Flows i n := by
  cases condition
  · cases h
    exact .stay hi ⟨rfl, rfl, rfl, rfl, rfl⟩
  · obtain ⟨pc, hp, rfl⟩ := map_eq_ok_iff.1 h
    exact .skip hi hp

/-- **The course after an effect.** -/
theorem flows (h : m.apply i = .ok n) : m.Flows i n := by
  cases i
  case leave =>
    obtain ⟨⟨site, stack⟩, hs, h'⟩ := bind_eq_ok_iff.1 h
    obtain ⟨pc, hp, rfl⟩ := map_eq_ok_iff.1 h'
    exact .leave hs hp
  case call target =>
    obtain ⟨stack, hs, rfl⟩ := map_eq_ok_iff.1 h
    exact .call hs
  case jump target =>
    cases h
    exact .jump
  case jumpOffset base =>
    obtain ⟨pc, hp, rfl⟩ := map_eq_ok_iff.1 h
    exact .offset hp
  case skipEqConst | skipNeConst | skipEqReg | skipNeReg | skipHeld | skipFree =>
    exact flows_skipIf rfl h
  case draw | storeDecimal | storeRegisters =>
    obtain ⟨a, -, rfl⟩ := map_eq_ok_iff.1 h
    exact .stay rfl ⟨rfl, rfl, rfl, rfl, rfl⟩
  case loadRegisters x =>
    obtain ⟨values, -, rfl⟩ := map_eq_ok_iff.1 h
    exact .stay rfl ((sameCourse_setFirstRegs values).trans (sameCourse_moveIndex _))
  all_goals
    cases h
    exact .stay rfl ⟨rfl, rfl, rfl, rfl, rfl⟩

/-- No effect changes the status. -/
theorem Flows.status (hf : m.Flows i n) : n.status = m.status := by
  cases hf with
  | leave | call | jump | offset | skip => rfl
  | stay hi hsame => exact hsame.status

/-- No effect makes the call stack deeper than it may be. -/
theorem Flows.depth_le (hd : m.stack.depth ≤ 16) (hf : m.Flows i n) : n.stack.depth ≤ 16 := by
  cases hf with
  | @leave site pc stack hs hp =>
    obtain ⟨hdepth, -, -⟩ := CallStack.pop_eq_ok_iff.1 hs
    show stack.depth ≤ 16
    omega
  | call hs =>
    obtain ⟨hlt, rfl⟩ := CallStack.push_eq_ok_iff.1 hs
    exact hlt
  | jump | offset | skip => exact hd
  | stay hi hsame =>
    rw [hsame.stack]
    exact hd

/-- An effect on the bytes at the index finds all of them in memory. -/
theorem span_le_of_apply {length : Nat} (hr : ∀ x ∈ i.registers, x < 16)
    (hi : i.span? = some length) (h : m.apply i = .ok n) :
    m.index.toNat + length ≤ Memory.size := by
  cases i <;> cases hi
  case draw x y height =>
    obtain ⟨sprite, hs, -⟩ := map_eq_ok_iff.1 h
    exact (Memory.slice_eq_ok_iff.1 hs).1
  case storeDecimal x =>
    obtain ⟨memory, hs, -⟩ := map_eq_ok_iff.1 h
    exact (Memory.overwrite_eq_ok_iff.1 hs).1
  case storeRegisters x =>
    have hx : x < 16 := hr x (List.mem_singleton.2 rfl)
    obtain ⟨memory, hs, -⟩ := map_eq_ok_iff.1 h
    obtain ⟨hle, -⟩ := Memory.overwrite_eq_ok_iff.1 hs
    rwa [m.length_take_registers hx] at hle
  case loadRegisters x =>
    obtain ⟨values, hs, -⟩ := map_eq_ok_iff.1 h
    exact (Memory.slice_eq_ok_iff.1 hs).1

/-! ## Refusals -/

/-- Why an instruction has no effect. The first three reasons are faults of the program. -/
inductive Refuses (m : Machine) : Instruction → Failure → Prop
  /-- no call is open -/
  | underflow (h : m.stack.depth = 0) : Refuses m .leave (.fault (.stackUnderflow m.pc))
  /-- sixteen calls are open -/
  | overflow {target : Addr} (h : m.stack.depth = 16) :
      Refuses m (.call target) (.fault (.stackOverflow m.pc))
  /-- the bytes at the index reach past the end of memory -/
  | span {i : Instruction} {length : Nat} (hi : i.span? = some length)
      (h : Memory.size < m.index.toNat + length) :
      Refuses m i (.fault (.addressOutOfBounds (m.index.toNat + length - 1)))
  /-- there is nothing behind the newest call -/
  | site {site : Addr} {stack : CallStack} {e : Failure}
      (hs : m.stack.pop m.pc = .ok (site, stack)) (hp : site.ahead 2 = .error e) :
      Refuses m .leave e
  /-- the sum is no address -/
  | offset {base : Addr} {e : Failure} (hp : base.ahead (m.reg 0).toNat = .error e) :
      Refuses m (.jumpOffset base) e
  /-- there is no word to skip -/
  | skip {i : Instruction} {e : Failure} (hi : i.isControlFlow = false)
      (hp : m.pc.ahead 2 = .error e) : Refuses m i e

theorem refuses_skipIf (hi : i.isControlFlow = false) {condition : Bool}
    (h : m.skipIf condition = .error e) : m.Refuses i e := by
  cases condition
  · cases h
  · exact .skip hi (map_eq_error_iff.1 h)

theorem refuses_checkSpan {length : Nat} (hi : i.span? = some length)
    (h : Memory.checkSpan m.index.toNat length = .error e) : m.Refuses i e := by
  have hindex := m.index.toNat_lt
  have hlength := Instruction.span?_le hi
  obtain ⟨hs, rfl⟩ := (Memory.checkSpan_eq_error_iff (by omega)).1 h
  exact .span hi hs

/-- **The reasons of a refusal**, with at most sixteen calls open. -/
theorem refuses (hd : m.stack.depth ≤ 16) (hr : ∀ x ∈ i.registers, x < 16)
    (h : m.apply i = .error e) : m.Refuses i e := by
  cases i
  case leave =>
    rcases bind_eq_error_iff.1 h with hs | ⟨⟨site, stack⟩, hs, h'⟩
    · obtain ⟨h0, rfl⟩ := (CallStack.pop_eq_error_iff hd).1 hs
      exact .underflow h0
    · exact .site hs (map_eq_error_iff.1 h')
  case call target =>
    obtain ⟨h16, rfl⟩ := CallStack.push_eq_error_iff.1 (map_eq_error_iff.1 h)
    exact .overflow (by omega)
  case jumpOffset base => exact .offset (map_eq_error_iff.1 h)
  case skipEqConst | skipNeConst | skipEqReg | skipNeReg | skipHeld | skipFree =>
    exact refuses_skipIf rfl h
  case draw x y height =>
    exact refuses_checkSpan rfl (Memory.slice_eq_error_iff.1 (map_eq_error_iff.1 h))
  case storeDecimal x =>
    exact refuses_checkSpan rfl (Memory.overwrite_eq_error_iff.1 (map_eq_error_iff.1 h))
  case storeRegisters x =>
    have hx : x < 16 := hr x (by simp [Instruction.registers])
    have hs := Memory.overwrite_eq_error_iff.1 (map_eq_error_iff.1 h)
    rw [m.length_take_registers hx] at hs
    exact refuses_checkSpan rfl hs
  case loadRegisters x =>
    exact refuses_checkSpan rfl (Memory.slice_eq_error_iff.1 (map_eq_error_iff.1 h))
  all_goals cases h

/-- An instruction whose span is refused has no effect. -/
theorem apply_of_checkSpan {length : Nat} (hr : ∀ x ∈ i.registers, x < 16)
    (hi : i.span? = some length) (h : Memory.checkSpan m.index.toNat length = .error e) :
    m.apply i = .error e := by
  cases i <;> cases hi
  case draw | loadRegisters => exact map_eq_error_iff.2 (Memory.slice_eq_error_iff.2 h)
  case storeDecimal x => exact map_eq_error_iff.2 (Memory.overwrite_eq_error_iff.2 h)
  case storeRegisters x =>
    have hx : x < 16 := hr x (List.mem_singleton.2 rfl)
    rw [← m.length_take_registers hx] at h
    exact map_eq_error_iff.2 (Memory.overwrite_eq_error_iff.2 h)

/-- **The faults of an effect.** An instruction is at fault exactly for the first three reasons. -/
theorem apply_fault_iff {f : Fault} (hd : m.stack.depth ≤ 16) (hr : ∀ x ∈ i.registers, x < 16) :
    m.apply i = .error (.fault f) ↔ m.Refuses i (.fault f) := by
  refine ⟨refuses hd hr, ?_⟩
  intro h
  cases h with
  | underflow h0 => exact bind_eq_error_iff.2 (.inl ((CallStack.pop_eq_error_iff hd).2 ⟨h0, rfl⟩))
  | overflow h16 =>
    exact map_eq_error_iff.2 (CallStack.push_eq_error_iff.2 ⟨Nat.le_of_eq h16.symm, rfl⟩)
  | span hi hs =>
    have hindex := m.index.toNat_lt
    have hlength := Instruction.span?_le hi
    exact apply_of_checkSpan hr hi ((Memory.checkSpan_eq_error_iff (by omega)).2 ⟨hs, rfl⟩)
  | site hs hp | offset hp | skip hi hp => exact absurd hp Addr.ahead_ne_fault

end Machine

end Chip8
