import Chip8.Keypad
import Chip8.Terminal.Key

/-!
# The keypad on a keyboard

The sixteen keys of the machine lie on the left of the keyboard, in four rows of four. A terminal
tells when a key goes down but not when it comes up, so a key counts as held for a while after its
last press. Time is an argument, in milliseconds from some fixed moment.
-/

namespace Chip8.Terminal

/-- The characters of the keyboard that stand for the keys of the machine, in order. -/
def layout : List Char :=
  ['1', '2', '3', '4', 'q', 'w', 'e', 'r', 'a', 's', 'd', 'f', 'z', 'x', 'c', 'v']

/-- The key of the machine that a key of the keyboard stands for. Capital letters count as small
ones. -/
def Key.pad? : Key → Option Nat
  | .char c => layout.idxOf? c.toLower
  | _ => none

/-- When each key of the machine was last pressed. -/
structure HeldKeys where
  /-- the time of the last press, by number of the key -/
  pressedAt : Vector (Option Nat) 16
deriving DecidableEq

namespace HeldKeys

/-- How long a key counts as held. -/
def holdTime : Nat := 250

/-- No key was ever pressed. -/
def none : HeldKeys := ⟨Vector.replicate 16 Option.none⟩

/-- Note that a key of the keyboard is pressed. -/
def press (h : HeldKeys) (now : Nat) (key : Key) : HeldKeys :=
  match key.pad? with
  | some k => ⟨h.pressedAt.setIfInBounds k (some now)⟩
  | Option.none => h

/-- The keys that count as held. -/
def keypad (h : HeldKeys) (now : Nat) : Keypad :=
  ⟨h.pressedAt.map fun at? => at?.any fun time => now - time < holdTime⟩

end HeldKeys

end Chip8.Terminal
