import Chip8.Player.Basic

/-!
# A host without a screen

A `Monitor` obeys a player's calls by remembering them: how often it was told to draw, what it
drew last, and whether the tone is on.
-/

namespace Chip8

/-- What a player last told its host. -/
structure Monitor where
  /-- how many pictures were drawn -/
  framesDrawn : Nat
  /-- the last picture, if there was one -/
  lastFrame : Option Screen
  /-- the tone is on -/
  tone : Bool
deriving DecidableEq

namespace Monitor

/-- A monitor that was told nothing. -/
def silent : Monitor := ⟨0, none, false⟩

/-- Obey a call. -/
def obey (m : Monitor) : HostCall → Monitor
  | .readKeys => m
  | .draw screen => { m with framesDrawn := m.framesDrawn + 1, lastFrame := some screen }
  | .tone on => { m with tone := on }

/-- Obey calls in order. -/
def obeyAll (m : Monitor) (calls : List HostCall) : Monitor := calls.foldl obey m

@[simp] theorem obeyAll_nil (m : Monitor) : m.obeyAll [] = m := rfl

@[simp] theorem obeyAll_cons (m : Monitor) (c : HostCall) (cs : List HostCall) :
    m.obeyAll (c :: cs) = (m.obey c).obeyAll cs := rfl

@[simp] theorem obeyAll_append (m : Monitor) (cs ds : List HostCall) :
    m.obeyAll (cs ++ ds) = (m.obeyAll cs).obeyAll ds :=
  List.foldl_append

end Monitor

end Chip8
