import Chip8.Machine.Step
import Chip8.Player.Budget

/-!
# The player

A `Player` runs a machine for a host that calls once for every frame, sixty times a second. A
frame

1. takes over the keys that the host reports;
2. makes the steps that the budget allows, ending early at a breakpoint, which pauses the player,
   and ending at once at a failure;
3. counts the timers down and turns the tone on or off;
4. has the screen drawn if it changed.

What the player asks of its host is a list of `HostCall`s in order, part of the result of the
frame. A paused player does nothing and asks nothing.
-/

namespace Chip8

/-- Something a player asks of its host. -/
inductive HostCall
  /-- tell which keys are held -/
  | readKeys
  /-- show the screen -/
  | draw (screen : Screen)
  /-- start or stop the tone -/
  | tone (on : Bool)
deriving DecidableEq

/-- What a frame did. -/
inductive FrameOutcome
  /-- it made all of its steps -/
  | ran (cycles : Nat)
  /-- nothing, since the player is paused -/
  | paused
  /-- it paused the player at a breakpoint, its last step -/
  | breakpoint (cycles : Nat)
deriving DecidableEq, Repr

/-- A machine that runs frame by frame. -/
structure Player where
  /-- the machine -/
  machine : Machine
  /-- the steps it makes in a frame -/
  budget : Budget
  /-- frames do nothing -/
  paused : Bool
  /-- the frames until the tone stops; zero when there is none -/
  toneFrames : Nat
  /-- the journal that is kept -/
  verbosity : Level

namespace Player

/-- How many frames a tone sounds, the one that starts it included. -/
def toneLength : Nat := 25

/-- A player about to run its first frame, which makes its steps at a rate. -/
def ofMachine (machine : Machine) (rate : UInt32) (verbosity : Level) : Player where
  machine := machine
  budget := .ofRate rate
  paused := false
  toneFrames := 0
  verbosity := verbosity

/-! ## Pausing -/

/-- What became of an attempt to pause a player or to let it run. -/
structure Switch where
  /-- the player was not in that state already -/
  changed : Bool
  /-- the player afterwards -/
  player : Player
  /-- the events in order -/
  log : List Event

/-- Stop running frames. -/
def pause (p : Player) : Switch :=
  if p.paused then ⟨false, p, []⟩
  else ⟨true, { p with paused := true }, p.verbosity.select [.paused p.machine.pc]⟩

/-- Run frames again. -/
def resume (p : Player) : Switch :=
  if p.paused then ⟨true, { p with paused := false }, p.verbosity.select [.resumed p.machine.pc]⟩
  else ⟨false, p, []⟩

/-- Stop running frames, or run them again. -/
def toggle (p : Player) : Switch := if p.paused then p.resume else p.pause

/-! ## The steps of a frame -/

/-- Why the steps of a frame ended. -/
inductive Stop
  /-- all were made -/
  | finished
  /-- the last of `cycles` steps was a breakpoint -/
  | breakpoint (cycles : Nat)
  /-- a step failed -/
  | failed (failure : Failure)

/-- The steps of a frame as a whole. -/
structure Spin where
  /-- why they ended -/
  stop : Stop
  /-- the machine afterwards -/
  machine : Machine
  /-- the events in order -/
  log : Array Event

/-- Make up to `left` steps when `done` were made already and `log` was told of them. -/
def spin (kept : Level) (done : Nat) (log : Array Event) (m : Machine) : (left : Nat) → Spin
  | 0 => ⟨.finished, m, log⟩
  | left + 1 =>
    let report := m.step
    let log := log ++ kept.select report.log
    match report.result with
    | .error e => ⟨.failed e, report.machine, log⟩
    | .ok .breakpoint => ⟨.breakpoint (done + 1), report.machine, log⟩
    | .ok _ => spin kept (done + 1) log report.machine left

/-! ## The end of a frame -/

/-- Start the tone when a beep starts, and count it down. -/
def sound (beep : Bool) (frames : Nat) : Nat × List HostCall :=
  let started := if beep then toneLength else frames
  let calls := if beep then [.tone true] else []
  match started with
  | 0 => (0, calls)
  | left + 1 => (left, if left = 0 then calls ++ [.tone false] else calls)

/-- Count the timers down, with the tone that goes with it. -/
def tick (p : Player) : Player × List HostCall :=
  let (frames, calls) := sound p.machine.timers.beeps p.toneFrames
  ({ p with machine := p.machine.tick, toneFrames := frames }, calls)

/-- Have the screen drawn if it changed. -/
def present (p : Player) : Player × List HostCall :=
  if p.machine.screen.redraw then
    ({ p with machine := p.machine.markDrawn }, [.draw p.machine.screen])
  else (p, [])

/-- What follows the steps of a frame that did not fail. -/
def close (p : Player) : Player × List HostCall :=
  let (ticked, tones) := p.tick
  let (shown, draws) := ticked.present
  (shown, tones ++ draws)

/-! ## Frames -/

/-- What became of a frame. -/
structure Turn where
  /-- what it did, or the failure it ended at -/
  result : Except Failure FrameOutcome
  /-- the player afterwards -/
  player : Player
  /-- what the host was asked for, in order -/
  calls : List HostCall
  /-- the events in order -/
  log : List Event

/-- The player about to make the steps of a frame while some keys are held. -/
def arm (p : Player) (keys : Keypad) : Player :=
  { p with machine := { p.machine with keypad := keys }, budget := p.budget.take }

/-- Run a frame while some keys are held. -/
def frame (p : Player) (keys : Keypad) : Turn :=
  if p.paused then ⟨.ok .paused, p, [], []⟩
  else
    let armed := p.arm keys
    let steps := spin p.verbosity 0 #[] armed.machine p.budget.cycles
    let stepped := { armed with machine := steps.machine }
    match steps.stop with
    | .failed e => ⟨.error e, stepped, [.readKeys], steps.log.toList⟩
    | .finished =>
      let (closed, calls) := stepped.close
      ⟨.ok (.ran p.budget.cycles), closed, .readKeys :: calls, steps.log.toList⟩
    | .breakpoint cycles =>
      let halt := stepped.pause
      let (closed, calls) := halt.player.close
      ⟨.ok (.breakpoint cycles), closed, .readKeys :: calls, steps.log.toList ++ halt.log⟩

end Player

/-- A player for the machine of a setup. -/
def Setup.play (s : Setup Machine) (rate : UInt32) (verbosity : Level) : Setup Player :=
  match s.result with
  | .ok m => ⟨.ok (.ofMachine m rate verbosity), s.log ++ [.running rate]⟩
  | .error e => ⟨.error e, s.log⟩

end Chip8
