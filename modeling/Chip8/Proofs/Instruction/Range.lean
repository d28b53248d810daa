import Chip8.Instruction.Decode

/-!
# The operands of decoded instructions

The digits of a word are below sixteen and its last three digits make an address below `0x1000`, so
the operands that decoding takes from a word fit in the instruction table (`inRange_of_decode`).
-/

namespace Chip8

namespace Word

theorem x_lt (w : Word) : w.x < 16 := by
  rw [UInt8.lt_iff_toNat_lt, toNat_x]
  exact Nat.mod_lt _ (by decide)

theorem y_lt (w : Word) : w.y < 16 := by
  rw [UInt8.lt_iff_toNat_lt, toNat_y]
  exact Nat.mod_lt _ (by decide)

theorem n_lt (w : Word) : w.n < 16 := by
  rw [UInt8.lt_iff_toNat_lt, toNat_n]
  exact Nat.mod_lt _ (by decide)

theorem nnn_lt (w : Word) : w.nnn < 4096 := by
  rw [UInt16.lt_iff_toNat_lt, toNat_nnn]
  exact Nat.mod_lt _ (by decide)

end Word

namespace Instruction

theorem inRange_of_decode? {w : Word} {i : Instruction} (h : decode? w = some i) : i.InRange := by
  have hx := w.x_lt
  have hy := w.y_lt
  have hn := w.n_lt
  have ha := w.nnn_lt
  rw [decode?] at h
  repeat' split at h
  all_goals cases h
  all_goals simp [InRange, registers, address?, height, hx, hy, hn, ha]

/-- **Decoded operands are in range.** -/
theorem inRange_of_decode {w : Word} {i : Instruction} (h : decode w = .ok i) : i.InRange := by
  rw [decode] at h
  split at h
  · next found hf =>
    cases h
    exact inRange_of_decode? hf
  · cases h

end Instruction

end Chip8
