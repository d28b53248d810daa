import Chip8.Fault

/-!
# Moving on in memory

`Addr.ahead` moves an address on. Addresses have sixteen bits, and moving past their end is refused
as a breach: no program gets there, since fetching stops at the end of memory long before, so only
a host that placed the program counter or filled the call stack by hand can ask for it.
-/

namespace Chip8.Addr

/-- The address `distance` bytes behind another. -/
def ahead (a : Addr) (distance : Nat) : Except Failure Addr :=
  if a.toNat + distance < 0x10000 then .ok (a + UInt16.ofNat distance)
  else .error (.breach (.address a distance))

/-- Moving on adds the distance, whenever it is not refused. -/
theorem ahead_eq_ok_iff {a b : Addr} {distance : Nat} :
    a.ahead distance = .ok b ↔ b.toNat = a.toNat + distance := by
  have hb := b.toNat_lt
  unfold ahead
  split
  · next h =>
    have hd : distance < UInt16.size := Nat.lt_of_le_of_lt (Nat.le_add_left _ _) h
    have hsum : (a + UInt16.ofNat distance).toNat = a.toNat + distance := by
      rw [UInt16.toNat_add, UInt16.toNat_ofNat_of_lt' hd, Nat.mod_eq_of_lt h]
    constructor
    · intro hab
      cases hab
      exact hsum
    · intro hab
      rw [UInt16.toNat_inj.1 (hsum.trans hab.symm)]
  · next h =>
    constructor
    · intro hab
      cases hab
    · intro hab
      omega

end Chip8.Addr
