/-!
# Random bytes

`Dice` is an endless row of bytes of which some have been used up. A machine takes its random
numbers from its dice alone, so two machines with equal dice make equal runs.
-/

namespace Chip8

/-- An endless row of bytes and the number of those used up. -/
structure Dice where
  /-- the bytes in the order in which they are rolled -/
  faces : Nat → UInt8
  /-- how many were rolled -/
  rolled : Nat := 0

namespace Dice

/-- The next byte. -/
def top (d : Dice) : UInt8 := d.faces d.rolled

/-- The dice after the next byte is used up. -/
def next (d : Dice) : Dice := { d with rolled := d.rolled + 1 }

/-- Every byte is zero. -/
def loaded : Dice := { faces := fun _ => 0 }

/-- One stage of a mixer on 64 bits: bits are folded down, and the result is spread by an odd
factor. -/
def mix (shift factor z : UInt64) : UInt64 := (z ^^^ (z >>> shift)) * factor

/-- Bytes that look random and differ from seed to seed: a counter that steps by an odd number,
mixed twice. -/
def ofSeed (seed : UInt64) : Dice where
  faces n :=
    let z := seed + 0x9E3779B97F4A7C15 * (UInt64.ofNat n + 1)
    (mix 27 0x94D049BB133111EB (mix 30 0xBF58476D1CE4E5B9 z) >>> 56).toUInt8

end Dice

end Chip8
