import Chip8.Instruction.Basic

/-!
# The instruction table

* `Instruction.decode` — the instruction of a word, or the fault that there is none;
* `Instruction.encode` — the word in the table that stands for an instruction.

Both are read straight off the table. `decodeBytes` decodes a word given by its two bytes.
-/

namespace Chip8.Instruction

/-- The instruction whose table entry is the word `w`. -/
def decode? (w : Word) : Option Instruction :=
  match w.kind with
  | 0x0 =>
    if w = 0x0001 then some breakpoint
    else if w = 0x00E0 then some clearScreen
    else if w = 0x00EE then some leave
    else none
  | 0x1 => some (jump w.nnn)
  | 0x2 => some (call w.nnn)
  | 0x3 => some (skipEqConst w.x w.nn)
  | 0x4 => some (skipNeConst w.x w.nn)
  | 0x5 => if w.n = 0 then some (skipEqReg w.x w.y) else none
  | 0x6 => some (setConst w.x w.nn)
  | 0x7 => some (addConst w.x w.nn)
  | 0x8 =>
    match w.n with
    | 0x0 => some (copy w.x w.y)
    | 0x1 => some (bitOr w.x w.y)
    | 0x2 => some (bitAnd w.x w.y)
    | 0x3 => some (bitXor w.x w.y)
    | 0x4 => some (addReg w.x w.y)
    | 0x5 => some (subReg w.x w.y)
    | 0x6 => some (shiftRight w.x w.y)
    | 0x7 => some (subFrom w.x w.y)
    | 0xE => some (shiftLeft w.x w.y)
    | _ => none
  | 0x9 => if w.n = 0 then some (skipNeReg w.x w.y) else none
  | 0xA => some (setIndex w.nnn)
  | 0xB => some (jumpOffset w.nnn)
  | 0xC => some (random w.x w.nn)
  | 0xD => some (draw w.x w.y w.n)
  | 0xE =>
    match w.nn with
    | 0x9E => some (skipHeld w.x)
    | 0xA1 => some (skipFree w.x)
    | _ => none
  | 0xF =>
    match w.nn with
    | 0x07 => some (readDelay w.x)
    | 0x0A => some (awaitKey w.x)
    | 0x15 => some (setDelay w.x)
    | 0x18 => some (setSound w.x)
    | 0x1E => some (addIndex w.x)
    | 0x29 => some (pointGlyph w.x)
    | 0x33 => some (storeDecimal w.x)
    | 0x55 => some (storeRegisters w.x)
    | 0x65 => some (loadRegisters w.x)
    | _ => none
  | _ => none

/-- The instruction of a word; a word outside the table is an unknown opcode. -/
def decode (w : Word) : Except Fault Instruction :=
  match decode? w with
  | some i => .ok i
  | none => .error (.unknownOpcode w)

/-- The instruction of the word with these two bytes. -/
def decodeBytes (high low : UInt8) : Except Fault Instruction :=
  decode (Word.ofBytes high low)

/-! ## The way back -/

/-- The table entry of family `kind` with an address. -/
def entryNNN (kind : UInt8) (address : Addr) : Word :=
  kind.toUInt16 * 4096 + address

/-- The table entry of family `kind` with a register and a constant. -/
def entryXNN (kind x nn : UInt8) : Word :=
  kind.toUInt16 * 4096 + x.toUInt16 * 256 + nn.toUInt16

/-- The table entry of family `kind` with two registers and a last digit. -/
def entryXYN (kind x y n : UInt8) : Word :=
  kind.toUInt16 * 4096 + x.toUInt16 * 256 + y.toUInt16 * 16 + n.toUInt16

/-- The word of an instruction in the table. -/
def encode : Instruction → Word
  | breakpoint => 0x0001
  | clearScreen => 0x00E0
  | leave => 0x00EE
  | jump a => entryNNN 0x1 a
  | call a => entryNNN 0x2 a
  | skipEqConst x v => entryXNN 0x3 x v
  | skipNeConst x v => entryXNN 0x4 x v
  | skipEqReg x y => entryXYN 0x5 x y 0x0
  | setConst x v => entryXNN 0x6 x v
  | addConst x v => entryXNN 0x7 x v
  | copy x y => entryXYN 0x8 x y 0x0
  | bitOr x y => entryXYN 0x8 x y 0x1
  | bitAnd x y => entryXYN 0x8 x y 0x2
  | bitXor x y => entryXYN 0x8 x y 0x3
  | addReg x y => entryXYN 0x8 x y 0x4
  | subReg x y => entryXYN 0x8 x y 0x5
  | shiftRight x y => entryXYN 0x8 x y 0x6
  | subFrom x y => entryXYN 0x8 x y 0x7
  | shiftLeft x y => entryXYN 0x8 x y 0xE
  | skipNeReg x y => entryXYN 0x9 x y 0x0
  | setIndex a => entryNNN 0xA a
  | jumpOffset a => entryNNN 0xB a
  | random x v => entryXNN 0xC x v
  | draw x y h => entryXYN 0xD x y h
  | skipHeld x => entryXNN 0xE x 0x9E
  | skipFree x => entryXNN 0xE x 0xA1
  | readDelay x => entryXNN 0xF x 0x07
  | awaitKey x => entryXNN 0xF x 0x0A
  | setDelay x => entryXNN 0xF x 0x15
  | setSound x => entryXNN 0xF x 0x18
  | addIndex x => entryXNN 0xF x 0x1E
  | pointGlyph x => entryXNN 0xF x 0x29
  | storeDecimal x => entryXNN 0xF x 0x33
  | storeRegisters x => entryXNN 0xF x 0x55
  | loadRegisters x => entryXNN 0xF x 0x65

end Chip8.Instruction
