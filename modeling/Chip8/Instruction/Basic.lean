import Chip8.Fault

/-!
# The instruction set

An `Instruction` is one row of the instruction table with its operands. Registers are named by
bytes: decoding only ever produces numbers below sixteen (`InRange`), while a caller that executes
an instruction by hand may name a register that does not exist and is answered with a breach.

`isControlFlow` singles out the four instructions that place the program counter themselves; after
all others it moves on by one word.
-/

namespace Chip8

/-- The instructions of the machine. The table entry stands before each constructor; `X` and `Y` are
registers, `N`, `NN` and `NNN` are constants of four, eight and twelve bits. -/
inductive Instruction
  /-- `0001`: let the host pause -/
  | breakpoint
  /-- `00E0`: blank the screen -/
  | clearScreen
  /-- `00EE`: return behind the newest open call -/
  | leave
  /-- `1NNN`: jump -/
  | jump (target : Addr)
  /-- `2NNN`: call -/
  | call (target : Addr)
  /-- `3XNN`: skip a word if the register has the value -/
  | skipEqConst (x value : UInt8)
  /-- `4XNN`: skip a word unless the register has the value -/
  | skipNeConst (x value : UInt8)
  /-- `5XY0`: skip a word if the registers agree -/
  | skipEqReg (x y : UInt8)
  /-- `6XNN`: set a register -/
  | setConst (x value : UInt8)
  /-- `7XNN`: add to a register and leave the flag alone -/
  | addConst (x value : UInt8)
  /-- `8XY0`: copy a register -/
  | copy (x y : UInt8)
  /-- `8XY1`: bitwise or -/
  | bitOr (x y : UInt8)
  /-- `8XY2`: bitwise and -/
  | bitAnd (x y : UInt8)
  /-- `8XY3`: bitwise exclusive or -/
  | bitXor (x y : UInt8)
  /-- `8XY4`: add, the flag is the carry -/
  | addReg (x y : UInt8)
  /-- `8XY5`: subtract, the flag is cleared on a borrow -/
  | subReg (x y : UInt8)
  /-- `8XY6`: shift right, the flag is the bit that fell out -/
  | shiftRight (x y : UInt8)
  /-- `8XY7`: subtract the other way round, the flag is cleared on a borrow -/
  | subFrom (x y : UInt8)
  /-- `8XYE`: shift left, the flag is the bit that fell out -/
  | shiftLeft (x y : UInt8)
  /-- `9XY0`: skip a word unless the registers agree -/
  | skipNeReg (x y : UInt8)
  /-- `ANNN`: set the index -/
  | setIndex (address : Addr)
  /-- `BNNN`: jump, with the first register added -/
  | jumpOffset (base : Addr)
  /-- `CXNN`: a random byte under a mask -/
  | random (x mask : UInt8)
  /-- `DXYN`: draw the sprite at the index, the flag is the collision -/
  | draw (x y height : UInt8)
  /-- `EX9E`: skip a word if the key in the register is held -/
  | skipHeld (x : UInt8)
  /-- `EXA1`: skip a word unless the key in the register is held -/
  | skipFree (x : UInt8)
  /-- `FX07`: read the delay timer -/
  | readDelay (x : UInt8)
  /-- `FX0A`: wait for a key -/
  | awaitKey (x : UInt8)
  /-- `FX15`: set the delay timer -/
  | setDelay (x : UInt8)
  /-- `FX18`: set the sound timer -/
  | setSound (x : UInt8)
  /-- `FX1E`: add to the index, the flag says that it left the twelve bit range -/
  | addIndex (x : UInt8)
  /-- `FX29`: point the index at the glyph of a digit -/
  | pointGlyph (x : UInt8)
  /-- `FX33`: store the three decimal digits of a register -/
  | storeDecimal (x : UInt8)
  /-- `FX55`: store the registers up to `X` -/
  | storeRegisters (x : UInt8)
  /-- `FX65`: load the registers up to `X` -/
  | loadRegisters (x : UInt8)
deriving DecidableEq, Repr

namespace Instruction

/-- The instructions that place the program counter themselves. -/
def isControlFlow : Instruction → Bool
  | leave | jump _ | call _ | jumpOffset _ => true
  | _ => false

/-- The registers that an instruction names. -/
def registers : Instruction → List UInt8
  | breakpoint | clearScreen | leave | jump _ | call _ | setIndex _ | jumpOffset _ => []
  | skipEqConst x _ | skipNeConst x _ | setConst x _ | addConst x _ | random x _ | skipHeld x
  | skipFree x | readDelay x | awaitKey x | setDelay x | setSound x | addIndex x | pointGlyph x
  | storeDecimal x | storeRegisters x | loadRegisters x => [x]
  | skipEqReg x y | copy x y | bitOr x y | bitAnd x y | bitXor x y | addReg x y | subReg x y
  | shiftRight x y | subFrom x y | shiftLeft x y | skipNeReg x y | draw x y _ => [x, y]

/-- The address that an instruction names, if it names one. -/
def address? : Instruction → Option Addr
  | jump a | call a | setIndex a | jumpOffset a => some a
  | _ => none

/-- The height of the sprite that an instruction draws. -/
def height : Instruction → UInt8
  | draw _ _ h => h
  | _ => 0

/-- The operands fit in the table: registers and heights have one hexadecimal digit, addresses
three. -/
def InRange (i : Instruction) : Prop :=
  (∀ x ∈ i.registers, x < 16) ∧ (∀ a ∈ i.address?, a < 4096) ∧ i.height < 16

instance (i : Instruction) : Decidable i.InRange :=
  inferInstanceAs (Decidable (_ ∧ _ ∧ _))

end Instruction

end Chip8
