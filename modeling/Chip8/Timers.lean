/-!
# The timers

Two counters run down to zero, one count for each frame of a player. When the sound timer takes
its last step, a beep starts.
-/

namespace Chip8

/-- The delay timer and the sound timer. -/
structure Timers where
  /-- free for the program to use -/
  delay : UInt8
  /-- a beep starts when it runs out -/
  sound : UInt8
deriving DecidableEq, Repr

namespace Timers

/-- Both counters have run out. -/
def zero : Timers := ⟨0, 0⟩

/-- One less, but never below zero. -/
def countDown (count : UInt8) : UInt8 := if count = 0 then 0 else count - 1

/-- Count both timers down. -/
def tick (t : Timers) : Timers := ⟨countDown t.delay, countDown t.sound⟩

/-- The next tick starts a beep. -/
def beeps (t : Timers) : Bool := t.sound == 1

/-- Counting down is subtraction that stops at zero. -/
@[simp] theorem toNat_countDown (count : UInt8) : (countDown count).toNat = count.toNat - 1 := by
  unfold countDown
  split
  · next h => simp [h]
  · next h =>
    have h0 : count.toNat ≠ 0 := fun hc => h (UInt8.toNat_inj.1 hc)
    have hle : (1 : UInt8) ≤ count := by
      rw [UInt8.le_iff_toNat_le]
      simp only [UInt8.reduceToNat]
      omega
    rw [UInt8.toNat_sub_of_le _ _ hle]
    rfl

end Timers

end Chip8
