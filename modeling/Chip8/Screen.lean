import Chip8.Fault

/-!
# The screen

A `Screen` is 32 rows of 64 pixels, each of them a byte, one if the pixel is lit and zero if it is
not, together with a flag that something has changed since the host last drew the screen. Nothing in
the type keeps a byte from being another number, and a place that the screen does not have is
refused: that neither ever matters is proved of the machine.

* `pixel`, `setPixel` — look at a pixel and set it, where there is one;
* `plot` — go over a sprite bit by bit, with the start taken modulo the size of the screen, up to
  the right and to the lower edge: a set bit flips the pixel below it;
* `text` — the lit pixels as a picture.
-/

namespace Chip8

/-- A row of pixels, from left to right. -/
abbrev Row := Vector UInt8 64

/-- The screen of the machine. -/
structure Screen where
  /-- the pixels, from the top row to the bottom row -/
  rows : Vector Row 32
  /-- something changed since the host last drew the screen -/
  redraw : Bool
deriving DecidableEq

namespace Screen

/-- Pixels in a row. -/
def width : Nat := 64

/-- Rows on the screen. -/
def height : Nat := 32

/-- No pixel is lit and nothing has changed. -/
def blank : Screen := ⟨Vector.replicate 32 (Vector.replicate 64 0), false⟩

/-- Turn all pixels off. -/
def clear (_ : Screen) : Screen := ⟨Vector.replicate 32 (Vector.replicate 64 0), true⟩

/-- Note that the host has drawn the screen. -/
def markDrawn (s : Screen) : Screen := { s with redraw := false }

/-! ## One pixel -/

/-- The pixel at column `x` and row `y`, if the screen has it. -/
def pixel? (s : Screen) (x y : Nat) : Option UInt8 := s.rows[y]?.bind (·[x]?)

/-- The pixel at column `x` and row `y` is lit; outside of the screen no pixel is. -/
def lit (s : Screen) (x y : Nat) : Bool := s.pixel? x y == some 1

/-- The pixel at column `x` and row `y`. -/
def pixel (s : Screen) (x y : Nat) : Except Failure UInt8 :=
  match s.pixel? x y with
  | some value => .ok value
  | none => .error (.breach (.pixel x y))

/-- Set the pixel at column `x` and row `y`. -/
def setPixel (s : Screen) (x y : Nat) (value : UInt8) : Except Failure Screen :=
  if h : x < 64 ∧ y < 32 then .ok { s with rows := s.rows.set y (s.rows[y].set x value) }
  else .error (.breach (.pixel x y))

/-! ## Sprites -/

/-- A screen in the course of drawing. -/
structure Sketch where
  /-- the screen as it is by now -/
  screen : Screen
  /-- a lit pixel was flipped -/
  hit : Bool

namespace Sketch

/-- Add a bit to a pixel, after a look at it: a set bit flips the pixel. -/
def blend (p : Sketch) (x y : Nat) (bit : UInt8) : Except Failure Sketch := do
  let old ← p.screen.pixel x y
  let screen ← p.screen.setPixel x y (old ^^^ bit)
  return ⟨screen, p.hit || (old == 1 && bit == 1)⟩

/-- Go over the last `n` bits of a byte that has its first bit at column `left`, up to the right
edge. -/
def plotByte (byte : UInt8) (left row : Nat) : (n : Nat) → Sketch → Except Failure Sketch
  | 0, p => return p
  | n + 1, p => do
    if width ≤ left + (7 - n) then return p
    else plotByte byte left row n (← p.blend (left + (7 - n)) row (byte >>> .ofNat n &&& 1))

/-- Go over the rows of a sprite from `top` on, down to the lower edge. -/
def plotRows (left : Nat) : (top : Nat) → List UInt8 → Sketch → Except Failure Sketch
  | _, [], p => return p
  | top, byte :: rest, p => do
    if height ≤ top then return p
    else plotRows left (top + 1) rest (← plotByte byte left top 8 p)

end Sketch

/-- Draw a sprite with its upper left corner at `(x, y)` modulo the size of the screen, and tell
whether a lit pixel was flipped. -/
def plot (s : Screen) (x y : UInt8) (sprite : List UInt8) : Except Failure Sketch := do
  let p ← Sketch.plotRows (x.toNat % width) (y.toNat % height) sprite ⟨s, false⟩
  return { p with screen := { p.screen with redraw := true } }

/-! ## Pictures in text -/

/-- A row in text, one piece of text for each pixel. -/
def rowText (on off : String) (row : Row) : String :=
  String.join (row.toList.map fun value => if value = 1 then on else off)

/-- The screen in text, a line of `#` and `.` for each row. -/
def text (s : Screen) : String :=
  String.join (s.rows.toList.map fun row => rowText "#" "." row ++ "\n")

/-- The screen in text under a line that shows the flag. -/
def report (s : Screen) : String :=
  s!"Framebuffer (redraw: {s.redraw})\n" ++ s.text

end Screen

end Chip8
