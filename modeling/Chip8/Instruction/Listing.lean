import Chip8.Instruction.Basic

/-!
# Instructions in a listing

`Instruction.listing` writes an instruction the way traces show it: its name in the listing, then
its operands in decimal, each labelled as a register, a constant or an address.
-/

namespace Chip8.Instruction

/-- A register operand in a listing. -/
def listReg (x : UInt8) : String := s!"Reg({x.toNat})"

/-- A constant operand in a listing. -/
def listConst (value : UInt8) : String := s!"Const({value.toNat})"

/-- An address operand in a listing. -/
def listAddr (address : Addr) : String := s!"Addr({address.toNat})"

/-- The name of an instruction in a listing. -/
def listName : Instruction → String
  | breakpoint => "Breakpoint"
  | clearScreen => "ClearScreen"
  | leave => "Return"
  | jump _ => "Goto"
  | call _ => "Call"
  | skipEqConst .. => "IfRegEqConst"
  | skipNeConst .. => "IfRegNeqConst"
  | skipEqReg .. => "IfRegEqReg"
  | setConst .. => "SetRegToConst"
  | addConst .. => "IncRegByConst"
  | copy .. => "SetRegToReg"
  | bitOr .. => "BitwiseOr"
  | bitAnd .. => "BitwiseAnd"
  | bitXor .. => "BitwiseXor"
  | addReg .. => "IncRegByReg"
  | subReg .. => "DecRegByReg"
  | shiftRight .. => "BitshiftRight"
  | subFrom .. => "SetVxVyMinusVx"
  | shiftLeft .. => "BitshiftLeft"
  | skipNeReg .. => "IfRegNeqReg"
  | setIndex _ => "SetI"
  | jumpOffset _ => "SetPcToV0PlusAddr"
  | random .. => "SetVxRand"
  | draw .. => "Draw"
  | skipHeld _ => "IfKeyEqVx"
  | skipFree _ => "IfKeyNeqVx"
  | readDelay _ => "SetRegToDelayTimer"
  | awaitKey _ => "SetRegToGetKey"
  | setDelay _ => "SetDelayTimerToReg"
  | setSound _ => "SetSoundTimerToReg"
  | addIndex _ => "AddRegToI"
  | pointGlyph _ => "SetIToSpriteAddrVx"
  | storeDecimal _ => "SetIToBcdOfReg"
  | storeRegisters _ => "RegDump"
  | loadRegisters _ => "RegLoad"

/-- The operands of an instruction in a listing, in the order of the table. -/
def listOperands : Instruction → List String
  | breakpoint | clearScreen | leave => []
  | jump a | call a | setIndex a | jumpOffset a => [listAddr a]
  | skipEqConst x v | skipNeConst x v | setConst x v | addConst x v | random x v =>
    [listReg x, listConst v]
  | skipEqReg x y | copy x y | bitOr x y | bitAnd x y | bitXor x y | addReg x y | subReg x y
  | shiftRight x y | subFrom x y | shiftLeft x y | skipNeReg x y => [listReg x, listReg y]
  | draw x y h => [listReg x, listReg y, listConst h]
  | skipHeld x | skipFree x | readDelay x | awaitKey x | setDelay x | setSound x | addIndex x
  | pointGlyph x | storeDecimal x | storeRegisters x | loadRegisters x => [listReg x]

/-- An instruction in a listing: the bare name, or the name and the operands in parentheses. -/
def listing (i : Instruction) : String :=
  match i.listOperands with
  | [] => i.listName
  | operands => i.listName ++ "(" ++ ", ".intercalate operands ++ ")"

end Chip8.Instruction
