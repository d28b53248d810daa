import Chip8.CallStack

/-!
# The ends of the call stack

Opening a call fails exactly with sixteen calls open and closing one exactly with none, each with
the fault that names the program counter it was given. Otherwise the slot at the depth is written,
or the one below it is read, and no other slot matters.

* `push_eq_ok_iff`, `push_eq_error_iff` — opening a call;
* `pop_eq_ok_iff`, `pop_eq_error_iff` — closing one;
* `length_active` — how many are open.
-/

namespace Chip8.CallStack

variable {s t : CallStack} {site pc : Addr} {e : Failure}

theorem push_eq_ok_iff :
    s.push site = .ok t ↔ ∃ h : s.depth < 16, t = ⟨s.slots.set s.depth site h, s.depth + 1⟩ := by
  rw [push]
  split
  · next hd => exact ⟨fun h => ⟨hd, (Except.ok.inj h).symm⟩, fun h => (by rw [h.2])⟩
  · next hd => exact ⟨fun h => (by cases h), fun h => absurd h.1 hd⟩

theorem push_eq_error_iff :
    s.push site = .error e ↔ 16 ≤ s.depth ∧ e = .fault (.stackOverflow site) := by
  rw [push]
  split
  · next hd => exact ⟨fun h => (by cases h), fun h => absurd hd (Nat.not_lt.2 h.1)⟩
  · next hd =>
    exact ⟨fun h => ⟨Nat.not_lt.1 hd, (Except.error.inj h).symm⟩, fun h => (by rw [h.2])⟩

theorem pop_eq_ok_iff :
    s.pop pc = .ok (site, t) ↔
      s.depth = t.depth + 1 ∧ t.slots = s.slots ∧ s.slots[t.depth]? = some site := by
  rw [pop]
  split
  · next hd => exact ⟨fun h => (by cases h), fun h => (by omega)⟩
  · next newest hd =>
    split
    · next found hf =>
      constructor
      · intro h
        cases h
        exact ⟨hd, rfl, hf⟩
      · rintro ⟨hd', hs, hf'⟩
        obtain rfl : newest = t.depth := by omega
        rw [hf] at hf'
        cases hf'
        cases t
        cases hs
        rfl
    · next hf =>
      constructor
      · intro h
        cases h
      · rintro ⟨hd', hs, hf'⟩
        obtain rfl : newest = t.depth := by omega
        rw [hf] at hf'
        cases hf'

/-- With at most sixteen calls open, closing a call fails exactly if none is open. -/
theorem pop_eq_error_iff (hd : s.depth ≤ 16) :
    s.pop pc = .error e ↔ s.depth = 0 ∧ e = .fault (.stackUnderflow pc) := by
  rw [pop]
  split
  · next h0 => exact ⟨fun h => ⟨h0, (Except.error.inj h).symm⟩, fun h => (by rw [h.2])⟩
  · next newest h1 =>
    have hn : newest < 16 := by omega
    rw [Vector.getElem?_eq_getElem hn]
    exact ⟨fun h => (by cases h), fun h => (by omega)⟩

/-- As many calls are open as the depth says. -/
theorem length_active (hd : s.depth ≤ 16) : s.active.length = s.depth := by
  rw [active, List.length_take, Vector.length_toList]
  omega

/-- No call is open exactly if the depth is zero. -/
theorem active_eq_nil_iff (hd : s.depth ≤ 16) : s.active = [] ↔ s.depth = 0 := by
  rw [← length_active hd, List.length_eq_zero_iff]

end Chip8.CallStack
