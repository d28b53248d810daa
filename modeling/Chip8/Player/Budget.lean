/-!
# The cycle budget

A machine makes `rate` steps a second, and a second has sixty frames. `Budget.take` says how many
steps the next frame makes; what the division leaves over is carried into the frame behind it, so
that

* a frame makes a sixtieth of the rate, rounded up or down;
* nothing is lost: sixty times the steps of a frame plus what is left over is the rate plus what
  was left over before (`take_conserves`), as long as that sum fits in 32 bits.
-/

namespace Chip8

/-- A rate of steps a second, and what earlier frames left over. -/
structure Budget where
  /-- steps a second -/
  rate : UInt32
  /-- sixtieths of a step that no frame has made yet -/
  remainder : Nat
deriving DecidableEq, Repr

namespace Budget

/-- Frames in a second. -/
def framesPerSecond : Nat := 60

/-- The largest sum that a frame divides. -/
def ceiling : Nat := 0xFFFFFFFF

/-- Nothing is left over yet. -/
def ofRate (rate : UInt32) : Budget := ⟨rate, 0⟩

/-- The sum that the next frame divides. -/
def due (b : Budget) : Nat := min (b.rate.toNat + b.remainder) ceiling

/-- The steps of the next frame. -/
def cycles (b : Budget) : Nat := b.due / framesPerSecond

/-- The budget after the next frame. -/
def take (b : Budget) : Budget := { b with remainder := b.due % framesPerSecond }

/-- The budget after a number of frames. -/
def takeAll (b : Budget) : Nat → Budget
  | 0 => b
  | n + 1 => b.take.takeAll n

/-- The budget in a report. -/
def text (b : Budget) : String :=
  s!"CycleBudget \x7b cycles_per_second: {b.rate.toNat}, remainder: {b.remainder} \x7d"

@[simp] theorem rate_take (b : Budget) : b.take.rate = b.rate := rfl

theorem remainder_take_lt (b : Budget) : b.take.remainder < framesPerSecond :=
  Nat.mod_lt _ (by decide)

/-- Steps made and what is left over add up to what was due. -/
theorem take_conserves (b : Budget) :
    framesPerSecond * b.cycles + b.take.remainder = b.due :=
  Nat.div_add_mod b.due framesPerSecond

end Budget

end Chip8
