import Chip8.Proofs.Machine.Flow

/-!
# What an effect does to the screen

Only two instructions touch the screen: one blanks it, and the other draws the sprite at the index.
So whatever is proved of these two screens is proved of each screen that a machine can have.

* `Machine.Paints` — what an effect can leave on the screen;
* `Machine.paints` — an effect leaves one of these;
* `Paints.binary` — each of them has pixels that are zero or one.
-/

namespace Chip8.Machine

/-- What an effect leaves on the screen. -/
inductive Paints (m : Machine) : Instruction → Screen → Prop
  /-- all pixels are turned off -/
  | clear : Paints m .clearScreen m.screen.clear
  /-- the sprite at the index is drawn -/
  | draw {x y height : UInt8} {sprite : List UInt8}
      (hs : m.memory.slice m.index.toNat height.toNat = .ok sprite) :
      Paints m (.draw x y height) (m.screen.draw (m.reg x) (m.reg y) sprite)
  /-- the screen stays as it is -/
  | keep {i : Instruction} : Paints m i m.screen

variable {m n : Machine} {i : Instruction}

theorem screen_of_skipIf {condition : Bool} (h : m.skipIf condition = .ok n) :
    n.screen = m.screen := by
  cases condition
  · cases h
    rfl
  · obtain ⟨pc, -, rfl⟩ := map_eq_ok_iff.1 h
    rfl

theorem screen_setFirstRegs (values : List UInt8) : (m.setFirstRegs values).screen = m.screen := by
  simp only [setFirstRegs]

/-- **The screen after an effect.** -/
theorem paints (h : m.apply i = .ok n) : m.Paints i n.screen := by
  cases i
  case clearScreen =>
    cases h
    exact .clear
  case draw x y height =>
    obtain ⟨sprite, hs, rfl⟩ := map_eq_ok_iff.1 h
    exact .draw hs
  case leave =>
    obtain ⟨⟨site, stack⟩, -, h'⟩ := bind_eq_ok_iff.1 h
    obtain ⟨pc, -, rfl⟩ := map_eq_ok_iff.1 h'
    exact .keep
  case call | jumpOffset | storeDecimal | storeRegisters =>
    obtain ⟨a, -, rfl⟩ := map_eq_ok_iff.1 h
    exact .keep
  case loadRegisters x =>
    obtain ⟨values, -, rfl⟩ := map_eq_ok_iff.1 h
    rw [moveIndex, screen_setFirstRegs]
    exact .keep
  case skipEqConst | skipNeConst | skipEqReg | skipNeReg | skipHeld | skipFree =>
    rw [screen_of_skipIf h]
    exact .keep
  all_goals
    cases h
    exact .keep

/-- **What is left on a screen of zeros and ones** is zeros and ones. -/
theorem Paints.binary {s : Screen} (h : m.Paints i s) (hm : m.screen.Binary) : s.Binary := by
  cases h with
  | clear => exact Screen.binary_clear m.screen
  | draw => exact hm.draw _ _ _
  | keep => exact hm

end Chip8.Machine
