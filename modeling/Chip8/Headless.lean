import Chip8.Machine.Summary
import Chip8.Options.Settings
import Chip8.Player.Basic
import Chip8.Text.Quoted

/-!
# Running without a screen

A run without a screen makes frames with no key held until the program reaches a breakpoint or
fails, or until the limit on frames is reached. Its last event tells how many frames were
completed, those that ended at a breakpoint or a failure not counted, and summarises the machine.

* `Headless.start` — the run that settings ask for;
* `Headless.advance` — one frame of it, or its end;
* `Headless.play` — a number of frames.
-/

namespace Chip8

/-- A run without a screen. -/
structure Headless where
  /-- the player -/
  player : Player
  /-- the frames completed so far, counted in 64 bits -/
  frames : UInt64
  /-- stop when so many frames are completed -/
  limit : Option UInt64

namespace Headless

/-- A rate of zero stands for the usual one. -/
def effectiveRate (rate : UInt32) : UInt32 :=
  if rate = 0 then Settings.defaultRate else rate

/-- The run that settings ask for, given the content of the file they name. -/
def start (settings : Settings) (content : Option (List UInt8)) (dice : Dice) : Setup Headless :=
  let setup := (Machine.startFile content settings.dialect dice).play
    (effectiveRate settings.rate) settings.verbosity
  { result := setup.result.map fun player => ⟨player, 0, settings.maxFrames⟩
    log := settings.verbosity.select (.opening (Text.quoted settings.file) :: setup.log) }

/-- The limit on frames is reached. -/
def expired (r : Headless) : Bool := r.limit.any (· ≤ r.frames)

/-- The last event of a run. -/
def farewell (r : Headless) : List Event :=
  r.player.verbosity.select [.stopped r.frames r.player.machine.summary]

/-- Where a run stands. -/
inductive Progress
  /-- another frame can be made -/
  | going (run : Headless) (log : List Event)
  /-- the run is over, for the failure that is named if there is one -/
  | over (run : Headless) (failure : Option Failure) (log : List Event)

/-- Make a frame, unless the run is over before it. -/
def advance (r : Headless) : Progress :=
  if r.expired then .over r none r.farewell
  else
    let turn := r.player.frame .released
    let after := { r with player := turn.player }
    match turn.result with
    | .error e => .over after (some e) (turn.log ++ after.farewell)
    | .ok (.breakpoint _) => .over after none (turn.log ++ after.farewell)
    | .ok _ => .going { after with frames := r.frames + 1 } turn.log

/-- Go on for at most `fuel` frames, with what the journal was told before. -/
def play (r : Headless) (log : List Event) : (fuel : Nat) → Progress
  | 0 => .going r log
  | fuel + 1 =>
    match r.advance with
    | .over last failure news => .over last failure (log ++ news)
    | .going next news => play next (log ++ news) fuel

end Headless

end Chip8
