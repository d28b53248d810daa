import Chip8.Machine.Summary
import Chip8.Machine.Window
import Chip8.Options.Settings
import Chip8.Player.Basic
import Chip8.Terminal.HeldKeys
import Chip8.Terminal.Paint

/-!
# Playing in a terminal

A `Session` is a player with the keys of its keyboard. It runs in passes, one for each frame:
first the keys pressed since the last pass are handled in order, then a frame runs.

* Escape ends the session at once, without a frame.
* `p` pauses the player or lets it run again, and the status is shown anew.
* Any other key may stand for a key of the machine.

A breakpoint shows the status as well, and a failure ends the session. The status of a paused
session is the state of its machine; that of a running one is a line of help.
-/

namespace Chip8.Terminal

/-- A player with the keys of its keyboard. -/
structure Session where
  /-- the player -/
  player : Player
  /-- the keys of the machine -/
  held : HeldKeys

namespace Session

/-- What the keys do. -/
def help : String := "1234 QWER ASDF ZXCV: keypad   p: pause   Esc: quit"

/-- The text below the screen. -/
def statusText (p : Player) : String :=
  if p.paused then
    "PAUSED   " ++ help ++ "\n" ++ p.machine.summary ++ p.machine.window.text
  else help

/-- The session that settings ask for, given the content of the file they name. Of the journal only
failures are kept. -/
def start (settings : Settings) (content : Option (List UInt8)) (dice : Dice) : Setup Session :=
  let setup := (Machine.startFile content settings.dialect dice).play settings.rate .error
  { result := setup.result.map fun player => ⟨player, .none⟩
    log := Level.error.select (.opening (Text.quoted settings.file) :: setup.log) }

/-- What a session shows before its first pass. -/
def greeting : List Paint := [.opening, .status help]

/-! ## Keys -/

/-- The keys of a pass, handled. -/
structure Handled where
  /-- the session afterwards -/
  session : Session
  /-- what is shown -/
  paints : List Paint
  /-- the events in order -/
  log : List Event
  /-- escape was pressed; the keys behind it were not handled -/
  quit : Bool

/-- Handle the keys of a pass in order. -/
def handle (s : Session) (now : Nat) : List Key → Handled
  | [] => ⟨s, [], [], false⟩
  | .escape :: _ => ⟨s, [], [], true⟩
  | .char 'p' :: keys =>
    let switch := s.player.toggle
    let rest := handle { s with player := switch.player } now keys
    { rest with
      paints := .status (statusText switch.player) :: rest.paints
      log := switch.log ++ rest.log }
  | key :: keys => handle { s with held := s.held.press now key } now keys

/-! ## Passes -/

/-- What a session does for a call of its player. -/
def paintOf : HostCall → Option Paint
  | .draw screen => some (.picture screen)
  | .tone true => some .bell
  | .tone false | .readKeys => none

/-- How a pass left its session. -/
inductive Ending
  /-- another pass follows -/
  | none
  /-- the person ended it -/
  | quit
  /-- a failure ended it -/
  | failed (failure : Failure)
deriving DecidableEq

/-- A pass as a whole. -/
structure Pass where
  /-- the session afterwards -/
  session : Session
  /-- what is shown -/
  paints : List Paint
  /-- the events in order -/
  log : List Event
  /-- whether the session is over -/
  ending : Ending

/-- Handle the keys of a pass and run its frame. -/
def pass (s : Session) (now : Nat) (keys : List Key) : Pass :=
  let handled := s.handle now keys
  if handled.quit then ⟨handled.session, handled.paints ++ [.closing], handled.log, .quit⟩
  else
    let turn := handled.session.player.frame (handled.session.held.keypad now)
    let after := { handled.session with player := turn.player }
    let paints := handled.paints ++ turn.calls.filterMap paintOf
    let log := handled.log ++ turn.log
    match turn.result with
    | .error e => ⟨after, paints ++ [.closing], log, .failed e⟩
    | .ok (.breakpoint _) => ⟨after, paints ++ [.status (statusText after.player)], log, .none⟩
    | .ok _ => ⟨after, paints, log, .none⟩

end Session

end Chip8.Terminal
