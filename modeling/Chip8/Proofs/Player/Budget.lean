import Chip8.Player.Budget

/-!
# What frames add up to

A single frame makes a sixtieth of the rate, rounded down or up. Since what the division leaves over
is carried into the next frame, the rounding does not add up: after any number of frames as many
steps were made as the rate says, with one rounding at the end.

* `spent` — the steps of a number of frames, taken together;
* `div_le_cycles`, `cycles_le` — the steps of one frame;
* `due_eq` — at most rates nothing is cut off at the ceiling;
* `spent_conserves`, `spent_eq` — steps made and what is left over, after any number of frames;
* `spent_add_le` — at the others as well, there are never more than the rate says;
* `cycles_are_conserved` — all of this for a budget that nothing was taken from.
-/

namespace Chip8.Budget

/-- The steps of the next frames, taken together. -/
def spent (b : Budget) : (frames : Nat) → Nat
  | 0 => 0
  | frames + 1 => b.cycles + b.take.spent frames

variable {b : Budget}

@[simp] theorem rate_takeAll (b : Budget) (frames : Nat) : (b.takeAll frames).rate = b.rate := by
  induction frames generalizing b with
  | zero => rfl
  | succ frames ih => exact ih b.take

/-- What is left over stays below a step. -/
theorem remainder_takeAll_lt (h : b.remainder < framesPerSecond) (frames : Nat) :
    (b.takeAll frames).remainder < framesPerSecond := by
  induction frames generalizing b with
  | zero => exact h
  | succ frames ih => exact ih b.remainder_take_lt

/-- A frame makes a sixtieth of the rate, rounded down, or more. -/
theorem div_le_cycles (b : Budget) : b.rate.toNat / framesPerSecond ≤ b.cycles := by
  have hrate : b.rate.toNat ≤ ceiling := Nat.le_of_lt_succ b.rate.toNat_lt
  exact Nat.div_le_div_right (Nat.le_min.2 ⟨Nat.le_add_right _ _, hrate⟩)

/-- What earlier frames left over is worth at most one step more. -/
theorem cycles_le (h : b.remainder < framesPerSecond) :
    b.cycles ≤ b.rate.toNat / framesPerSecond + 1 :=
  calc
    b.due / framesPerSecond ≤ (b.rate.toNat + b.remainder) / framesPerSecond :=
      Nat.div_le_div_right (Nat.min_le_left _ _)
    _ ≤ (b.rate.toNat + framesPerSecond) / framesPerSecond :=
      Nat.div_le_div_right (Nat.add_le_add_left (Nat.le_of_lt h) _)
    _ = b.rate.toNat / framesPerSecond + 1 := Nat.add_div_right _ (by decide)

/-- With a step of room below the ceiling nothing is cut off. -/
theorem due_eq (hrate : b.rate.toNat ≤ 0x100000000 - 60) (h : b.remainder < framesPerSecond) :
    b.due = b.rate.toNat + b.remainder := by
  have h60 : b.remainder < 60 := h
  rw [due, ceiling]
  omega

/-- **Nothing is lost** over any number of frames. -/
theorem spent_conserves (hrate : b.rate.toNat ≤ 0x100000000 - 60)
    (h : b.remainder < framesPerSecond) (frames : Nat) :
    framesPerSecond * b.spent frames + (b.takeAll frames).remainder =
      frames * b.rate.toNat + b.remainder := by
  induction frames generalizing b with
  | zero => simp only [spent, takeAll, Nat.mul_zero, Nat.zero_mul]
  | succ frames ih =>
    have hfirst : framesPerSecond * b.cycles + b.take.remainder = b.rate.toNat + b.remainder := by
      rw [take_conserves, due_eq hrate h]
    have hrest := ih (b := b.take) hrate b.remainder_take_lt
    rw [rate_take] at hrest
    rw [spent, takeAll, Nat.mul_add, Nat.succ_mul]
    omega

/-- **The steps of a number of frames** are rounded once, not in each frame. -/
theorem spent_eq (hrate : b.rate.toNat ≤ 0x100000000 - 60) (h : b.remainder < framesPerSecond)
    (frames : Nat) :
    b.spent frames = (frames * b.rate.toNat + b.remainder) / framesPerSecond := by
  rw [← spent_conserves hrate h, Nat.mul_add_div (by decide),
    Nat.div_eq_of_lt (remainder_takeAll_lt h frames), Nat.add_zero]

/-- What is cut off at the ceiling is never made up for. -/
theorem spent_add_le (b : Budget) (frames : Nat) :
    framesPerSecond * b.spent frames + (b.takeAll frames).remainder ≤
      frames * b.rate.toNat + b.remainder := by
  induction frames generalizing b with
  | zero => simp only [spent, takeAll, Nat.mul_zero, Nat.zero_mul, Nat.le_refl]
  | succ frames ih =>
    have hfirst : framesPerSecond * b.cycles + b.take.remainder ≤ b.rate.toNat + b.remainder := by
      rw [take_conserves]
      exact Nat.min_le_left _ _
    have hrest := ih b.take
    rw [rate_take] at hrest
    rw [spent, takeAll, Nat.mul_add, Nat.succ_mul]
    omega

/-- At the highest rate the ceiling cuts off what would make up another step. -/
example : (ofRate 0xFFFFFFFF).spent 4 + 1 = 4 * (0xFFFFFFFF : UInt32).toNat / 60 := by decide

/-- **Cycles are conserved.** Take a budget of any rate, and any number of frames. They make no more
steps than the rate says; the sum that the next frame divides is at least the rate and fits in 32
bits, less than a step is left over, and that frame makes at least a sixtieth of the rate. With a
step of room below the ceiling they make just as many, rounded once, the next frame makes a sixtieth
of the rate, rounded down or up, and the next sixty make the rate. -/
theorem cycles_are_conserved (rate : UInt32) (frames : Nat) :
    (ofRate rate).spent frames ≤ frames * rate.toNat / 60 ∧
    let b := (ofRate rate).takeAll frames
    (rate.toNat ≤ b.due ∧ b.due < UInt32.size ∧ b.remainder < 60 ∧ rate.toNat / 60 ≤ b.cycles) ∧
    (rate.toNat ≤ UInt32.size - 60 →
      (ofRate rate).spent frames = frames * rate.toNat / 60 ∧
        b.remainder = frames * rate.toNat % 60 ∧
        (b.cycles = rate.toNat / 60 ∨ b.cycles = rate.toNat / 60 + 1) ∧
        b.spent 60 = rate.toNat) := by
  have hle : 60 * (ofRate rate).spent frames + ((ofRate rate).takeAll frames).remainder ≤
      frames * rate.toNat + 0 := spent_add_le _ _
  refine ⟨by omega, ?_⟩
  intro b
  have hrate : b.rate = rate := rate_takeAll _ _
  have hremainder : b.remainder < 60 := remainder_takeAll_lt (Nat.zero_lt_succ 59) frames
  have hlow : rate.toNat / 60 ≤ b.cycles := hrate ▸ b.div_le_cycles
  refine ⟨⟨?_, ?_, hremainder, hlow⟩, fun hroom => ?_⟩
  · have hlt := rate.toNat_lt
    rw [due, ceiling, hrate]
    omega
  · exact Nat.lt_succ_of_le (Nat.min_le_right _ _)
  · have hsum : 60 * (ofRate rate).spent frames + b.remainder = frames * rate.toNat + 0 :=
      spent_conserves hroom (Nat.zero_lt_succ 59) frames
    have hhigh : b.cycles ≤ rate.toNat / 60 + 1 := hrate ▸ cycles_le hremainder
    have hsecond : b.spent 60 = (60 * rate.toNat + b.remainder) / 60 := by
      rw [← hrate] at hroom ⊢
      exact spent_eq hroom hremainder 60
    refine ⟨by omega, by omega, by omega, ?_⟩
    rw [hsecond]
    omega

/-- At 700 steps a second, seven frames make 81 steps and leave 40 sixtieths of a step, and the
sixty behind them make 700. -/
theorem seven_hundred_are_conserved :
    (700 : UInt32).toNat ≤ UInt32.size - 60 ∧ (ofRate 700).spent 7 = 81 ∧
      ((ofRate 700).takeAll 7).remainder = 40 ∧ ((ofRate 700).takeAll 7).spent 60 = 700 := by
  have hroom : (700 : UInt32).toNat ≤ UInt32.size - 60 := by decide
  obtain ⟨-, -, h⟩ := cycles_are_conserved 700 7
  obtain ⟨hspent, hremainder, -, hsecond⟩ := h hroom
  exact ⟨hroom, hspent, hremainder, hsecond⟩

end Chip8.Budget
