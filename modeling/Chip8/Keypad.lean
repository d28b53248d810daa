/-!
# The keypad

Sixteen keys, each held down or not. Keys with larger numbers do not exist: pressing one does
nothing, and none is ever held.
-/

namespace Chip8

/-- Which of the sixteen keys are held down. -/
structure Keypad where
  /-- held down or not, by number of the key -/
  keys : Vector Bool 16
deriving DecidableEq

namespace Keypad

/-- No key is held. -/
def released : Keypad := ⟨Vector.replicate 16 false⟩

/-- The keypad on which exactly the keys of a list are held. -/
def ofList (held : List UInt8) : Keypad :=
  ⟨Vector.ofFn fun k => held.contains (UInt8.ofNat k)⟩

/-- A key is held. -/
def isHeld (p : Keypad) (key : UInt8) : Bool :=
  p.keys[key.toNat]?.getD false

/-- Hold a key down. -/
def press (p : Keypad) (key : UInt8) : Keypad :=
  ⟨p.keys.setIfInBounds key.toNat true⟩

/-- Let a key go. -/
def release (p : Keypad) (key : UInt8) : Keypad :=
  ⟨p.keys.setIfInBounds key.toNat false⟩

/-- The sixteen keys in order. -/
def all : List UInt8 := (List.range 16).map UInt8.ofNat

/-- The held keys in order. -/
def held (p : Keypad) : List UInt8 := all.filter p.isHeld

/-- The held key with the smallest number. -/
def lowest? (p : Keypad) : Option UInt8 := all.find? p.isHeld

/-- Keys that do not exist are not held. -/
theorem isHeld_of_le (p : Keypad) {key : UInt8} (h : 16 ≤ key) : p.isHeld key = false := by
  have h' : 16 ≤ key.toNat := h
  rw [isHeld, Vector.getElem?_eq_none h', Option.getD_none]

/-- Each key that is held exists. -/
theorem lt_of_isHeld {p : Keypad} {key : UInt8} (h : p.isHeld key = true) : key < 16 := by
  refine UInt8.not_le.1 fun hle => ?_
  rw [p.isHeld_of_le hle] at h
  cases h

theorem mem_all_iff {key : UInt8} : key ∈ all ↔ key < 16 := by
  constructor
  · intro h
    obtain ⟨k, hk, rfl⟩ := List.mem_map.1 h
    have hk16 : k < 16 := List.mem_range.1 hk
    rw [UInt8.lt_iff_toNat_lt, UInt8.toNat_ofNat_of_lt' (Nat.lt_trans hk16 (by decide))]
    exact hk16
  · intro h
    exact List.mem_map.2 ⟨key.toNat, List.mem_range.2 h, UInt8.ofNat_toNat⟩

theorem mem_held_iff {p : Keypad} {key : UInt8} : key ∈ p.held ↔ p.isHeld key = true := by
  rw [held, List.mem_filter, mem_all_iff]
  exact ⟨fun h => h.2, fun h => ⟨lt_of_isHeld h, h⟩⟩

/-- Without a lowest held key none is held. -/
theorem lowest?_eq_none_iff {p : Keypad} :
    p.lowest? = none ↔ ∀ key, p.isHeld key = false := by
  rw [lowest?, List.find?_eq_none]
  constructor
  · intro h key
    refine Bool.eq_false_iff.2 fun hheld => ?_
    exact h key (mem_all_iff.2 (lt_of_isHeld hheld)) hheld
  · intro h key _
    rw [h key]
    exact Bool.false_ne_true

theorem length_all : all.length = 16 := rfl

theorem getElem_all {j : Nat} (hj : j < all.length) : all[j] = .ofNat j := by
  simp only [all, List.getElem_map, List.getElem_range]

/-- **The lowest held key** is held, and no key below it is. -/
theorem lowest?_eq_some_iff {p : Keypad} {key : UInt8} :
    p.lowest? = some key ↔ p.isHeld key = true ∧ ∀ other < key, p.isHeld other = false := by
  have hsize : UInt8.size = 256 := rfl
  have hlength := length_all
  rw [lowest?, List.find?_eq_some_iff_getElem]
  refine and_congr_right fun hheld => ⟨?_, fun hbelow => ?_⟩
  · rintro ⟨i, hi, rfl, hbefore⟩ other hlt
    rw [getElem_all, UInt8.lt_iff_toNat_lt, UInt8.toNat_ofNat_of_lt' (by omega)] at hlt
    have hother := hbefore other.toNat hlt
    rw [getElem_all, UInt8.ofNat_toNat, Bool.not_eq_true'] at hother
    exact hother
  · have hkey : key.toNat < all.length := length_all ▸ lt_of_isHeld hheld
    refine ⟨key.toNat, hkey, ?_, fun j hj => ?_⟩
    · rw [getElem_all, UInt8.ofNat_toNat]
    · rw [getElem_all, hbelow, Bool.not_false]
      rw [UInt8.lt_iff_toNat_lt, UInt8.toNat_ofNat_of_lt' (by omega)]
      exact hj

end Keypad

end Chip8
