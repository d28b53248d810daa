import Chip8.Fault

/-!
# Memory

`Memory` is 4096 bytes. The first eighty hold the glyphs of the sixteen hexadecimal digits, five
bytes each; programs are loaded at `0x200` and may reach up to `0xEA0`.

* `read`, `write` — one byte, or the fault that names its address;
* `slice`, `overwrite`, `fill` — a span of bytes, refused as a whole (`checkSpan`) before any byte
  is touched;
* `fetch` — the instruction word at a program counter;
* `window` — as much of a range as memory has, never refused;
* `loadProgram` — a program at its place, all or nothing.

The equations `getElem?_put`, `getElem?_takeFrom` and `length_takeFrom` are what the rest of the
library needs to know about the layout.
-/

namespace Chip8

/-- The memory of the machine. -/
structure Memory where
  /-- the bytes by address -/
  bytes : Vector UInt8 4096
deriving DecidableEq

namespace Memory

/-- How many bytes there are. -/
def size : Nat := 4096

/-- Where programs begin. -/
def programStart : Nat := 0x200

/-- The longest program that can be loaded; what lies behind it is reserved. -/
def programRoom : Nat := 0xEA0 - programStart

/-- The rows of the sixteen glyphs, as the high four bits of each byte. -/
def glyphs : List UInt8 := [
  0xF0, 0x90, 0x90, 0x90, 0xF0,
  0x20, 0x60, 0x20, 0x20, 0x70,
  0xF0, 0x10, 0xF0, 0x80, 0xF0,
  0xF0, 0x10, 0xF0, 0x10, 0xF0,
  0x90, 0x90, 0xF0, 0x10, 0x10,
  0xF0, 0x80, 0xF0, 0x10, 0xF0,
  0xF0, 0x80, 0xF0, 0x90, 0xF0,
  0xF0, 0x10, 0x20, 0x40, 0x40,
  0xF0, 0x90, 0xF0, 0x90, 0xF0,
  0xF0, 0x90, 0xF0, 0x10, 0xF0,
  0xF0, 0x90, 0xF0, 0x90, 0x90,
  0xE0, 0x90, 0xE0, 0x90, 0xE0,
  0xF0, 0x80, 0x80, 0x80, 0xF0,
  0xE0, 0x90, 0x90, 0x90, 0xE0,
  0xF0, 0x80, 0xF0, 0x80, 0xF0,
  0xF0, 0x80, 0xF0, 0x80, 0x80]

/-- The bytes that one glyph takes. -/
def glyphHeight : UInt16 := 5

/-! ## Bytes -/

/-- The byte at an address, if memory has it. -/
def get? (m : Memory) (address : Nat) : Option UInt8 := m.bytes[address]?

/-- The byte at an address. -/
def read (m : Memory) (address : Nat) : Except Fault UInt8 :=
  match m.get? address with
  | some byte => .ok byte
  | none => .error (.addressOutOfBounds address)

/-- Replace the byte at an address. -/
def write (m : Memory) (address : Nat) (byte : UInt8) : Except Fault Memory :=
  if h : address < 4096 then .ok ⟨m.bytes.set address byte h⟩
  else .error (.addressOutOfBounds address)

/-! ## Runs of bytes -/

/-- Put `values` at `start` and behind; what reaches past the end of memory is dropped. -/
def put (m : Memory) (start : Nat) : List UInt8 → Memory
  | [] => m
  | v :: vs => put ⟨m.bytes.setIfInBounds start v⟩ (start + 1) vs

/-- The bytes from `start` on, at most `length` of them and none past the end of memory. -/
def takeFrom (m : Memory) (start length : Nat) : List UInt8 :=
  (m.bytes.toArray.extract start (start + length)).toList

/-- Zeros, with the glyphs at the front. -/
def initial : Memory :=
  put ⟨Vector.replicate 4096 0⟩ 0 glyphs

/-- A span of `length` bytes from `start` on lies inside of memory. The fault names the last
address of the span. -/
def checkSpan (start length : Nat) : Except Failure Unit :=
  if 0x10000000000000000 ≤ start + length then .error (.breach (.span start length))
  else if size < start + length then
    .error (.fault (.addressOutOfBounds (start + length - 1)))
  else .ok ()

/-- The bytes of a span. -/
def slice (m : Memory) (start length : Nat) : Except Failure (List UInt8) := do
  checkSpan start length
  return m.takeFrom start length

/-- Replace the bytes of a span by `values`. -/
def overwrite (m : Memory) (start : Nat) (values : List UInt8) : Except Failure Memory := do
  checkSpan start values.length
  return m.put start values

/-- Replace each byte of a span by `byte`. -/
def fill (m : Memory) (start length : Nat) (byte : UInt8) : Except Failure Memory := do
  checkSpan start length
  return m.put start (List.replicate length byte)

/-- The instruction word at a program counter. -/
def fetch (m : Memory) (pc : Addr) : Except Fault Word :=
  match m.get? pc.toNat, m.get? (pc.toNat + 1) with
  | some high, some low => .ok (.ofBytes high low)
  | _, _ => .error (.counterOutOfRange pc)

/-- The bytes of `start`, …, `stop - 1` that memory has. -/
def window (m : Memory) (start stop : Nat) : List UInt8 :=
  m.takeFrom start (stop - start)

/-- Put a program at its place, or say that it is too long. -/
def loadProgram (m : Memory) (program : List UInt8) : Except LoadError Memory :=
  if programRoom < program.length then .error (.tooLarge program.length programRoom)
  else .ok (m.put programStart program)

/-! ## What a run of bytes leaves at each address -/

/-- After `put`, an address in the run holds the value put there, and any other address what it held
before. -/
theorem getElem?_put (m : Memory) (start : Nat) (values : List UInt8) (a : Nat) :
    (m.put start values).get? a =
      if start ≤ a ∧ a < start + values.length ∧ a < 4096 then values[a - start]?
      else m.get? a := by
  induction values generalizing m start with
  | nil =>
    have h : ¬(start ≤ a ∧ a < start + ([] : List UInt8).length ∧ a < 4096) := by
      simp only [List.length_nil]; omega
    rw [put, if_neg h]
  | cons v vs ih =>
    rw [put, ih]
    by_cases ha : start = a
    · subst ha
      have h : ¬(start + 1 ≤ start ∧ start < start + 1 + vs.length ∧ start < 4096) := by omega
      rw [if_neg h]
      by_cases hb : start < 4096
      · simp [get?, hb]
      · simp [get?, hb]
    · by_cases hl : start + 1 ≤ a ∧ a < start + 1 + vs.length ∧ a < 4096
      · obtain ⟨h₁, h₂, h₃⟩ := hl
        have h : start ≤ a ∧ a < start + (v :: vs).length ∧ a < 4096 := by
          simp only [List.length_cons]; omega
        rw [if_pos ⟨h₁, h₂, h₃⟩, if_pos h]
        rw [show a - start = (a - (start + 1)) + 1 by omega, List.getElem?_cons_succ]
      · have h : ¬(start ≤ a ∧ a < start + (v :: vs).length ∧ a < 4096) := by
          simp only [List.length_cons]; omega
        rw [if_neg hl, if_neg h, get?, get?, Vector.getElem?_setIfInBounds_ne ha]

/-- A run of bytes is as long as asked for, unless memory ends before. -/
@[simp] theorem length_takeFrom (m : Memory) (start length : Nat) :
    (m.takeFrom start length).length = min length (4096 - start) := by
  simp only [takeFrom, Array.length_toList, Array.size_extract, Vector.size_toArray]
  omega

/-- A run of bytes holds the bytes of memory in order. -/
theorem getElem?_takeFrom (m : Memory) (start length k : Nat) :
    (m.takeFrom start length)[k]? = if k < length then m.get? (start + k) else none := by
  rw [takeFrom, Array.getElem?_toList, Array.getElem?_extract, get?, ← Vector.getElem?_toArray]
  by_cases hk : k < length
  · by_cases hm : start + k < 4096
    · rw [if_pos (by simp only [Vector.size_toArray]; omega), if_pos hk]
    · rw [if_neg (by simp only [Vector.size_toArray]; omega), if_pos hk]
      exact (Array.getElem?_eq_none (by simp only [Vector.size_toArray]; omega)).symm
  · rw [if_neg (by simp only [Vector.size_toArray]; omega), if_neg hk]

end Memory

end Chip8
