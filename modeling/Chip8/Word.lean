/-!
# Instruction words

A word is sixteen bits, read from two bytes of memory with the high byte first. Its four
hexadecimal digits are called `kind`, `x`, `y` and `n` from left to right, the last two together
are `nn` and the last three `nnn`. For each of these fields an equation says which part it is of the
word as a natural number.
-/

namespace Chip8

/-- A sixteen bit instruction word. -/
abbrev Word := UInt16

namespace Word

/-- The word whose high byte is `high` and whose low byte is `low`. -/
def ofBytes (high low : UInt8) : Word :=
  high.toUInt16 * 256 + low.toUInt16

/-- The first two digits. -/
def high (w : Word) : UInt8 := (w / 256).toUInt8

/-- The last two digits. -/
def low (w : Word) : UInt8 := (w % 256).toUInt8

/-- The first digit, which names the family of the instruction. -/
def kind (w : Word) : UInt8 := (w / 4096).toUInt8

/-- The second digit, most often a register. -/
def x (w : Word) : UInt8 := (w / 256 % 16).toUInt8

/-- The third digit, most often a register. -/
def y (w : Word) : UInt8 := (w / 16 % 16).toUInt8

/-- The fourth digit. -/
def n (w : Word) : UInt8 := (w % 16).toUInt8

/-- The last two digits as a constant. -/
def nn (w : Word) : UInt8 := w.low

/-- The last three digits as an address. -/
def nnn (w : Word) : UInt16 := w % 4096

/-! ## The fields as natural numbers -/

theorem toNat_ofBytes (high low : UInt8) :
    (ofBytes high low).toNat = 256 * high.toNat + low.toNat := by
  have := high.toNat_lt
  have := low.toNat_lt
  simp only [ofBytes, UInt16.toNat_add, UInt16.toNat_mul, UInt8.toNat_toUInt16, UInt16.reduceToNat]
  omega

@[simp] theorem toNat_high (w : Word) : w.high.toNat = w.toNat / 256 := by
  have := w.toNat_lt
  simp only [high, UInt16.toNat_toUInt8, UInt16.toNat_div, UInt16.reduceToNat]
  omega

@[simp] theorem toNat_low (w : Word) : w.low.toNat = w.toNat % 256 := by
  simp only [low, UInt16.toNat_toUInt8, UInt16.toNat_mod, UInt16.reduceToNat]
  omega

@[simp] theorem toNat_kind (w : Word) : w.kind.toNat = w.toNat / 4096 := by
  have := w.toNat_lt
  simp only [kind, UInt16.toNat_toUInt8, UInt16.toNat_div, UInt16.reduceToNat]
  omega

@[simp] theorem toNat_x (w : Word) : w.x.toNat = w.toNat / 256 % 16 := by
  simp only [x, UInt16.toNat_toUInt8, UInt16.toNat_div, UInt16.toNat_mod, UInt16.reduceToNat]
  omega

@[simp] theorem toNat_y (w : Word) : w.y.toNat = w.toNat / 16 % 16 := by
  simp only [y, UInt16.toNat_toUInt8, UInt16.toNat_div, UInt16.toNat_mod, UInt16.reduceToNat]
  omega

@[simp] theorem toNat_n (w : Word) : w.n.toNat = w.toNat % 16 := by
  simp only [n, UInt16.toNat_toUInt8, UInt16.toNat_mod, UInt16.reduceToNat]
  omega

@[simp] theorem toNat_nn (w : Word) : w.nn.toNat = w.toNat % 256 := toNat_low w

@[simp] theorem toNat_nnn (w : Word) : w.nnn.toNat = w.toNat % 4096 := by
  simp only [nnn, UInt16.toNat_mod, UInt16.reduceToNat]

end Word

end Chip8
