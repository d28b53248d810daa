import Chip8.Headless
import Chip8.Terminal.KeyQueue
import Chip8.Terminal.Session

/-!
# The command line

The program runs without a screen, or in the terminal if its first argument is `--terminal`. All
that is decided here is when things happen: sixty frames a second, events on the standard error,
pictures on the standard output.
-/

namespace Chip8.Program

/-- The length of a frame in milliseconds, rounded down. -/
def frameLength : Nat := 1000 / Budget.framesPerSecond

/-- How the program is called. -/
def usage : String :=
  "usage: chip8 [--terminal] [-c RATE] [--max-frames N] [--shift-uses-vy] [--keep-index] " ++
    "[-v] PROGRAM"

/-- Write events. -/
def report (log : List Event) : IO Unit := do
  for event in log do
    IO.eprintln event.line

/-- The content of a file, if it can be read. -/
def readProgram (file : String) : IO (Option (List UInt8)) := do
  try
    return some (← IO.FS.readBinFile file).toList
  catch _ =>
    return none

/-- Dice that differ from run to run. -/
def newDice : IO Dice := do
  let bytes ← IO.getRandomBytes 8
  return .ofSeed (bytes.toList.foldl (fun seed byte => seed * 256 + byte.toUInt64) 0)

/-- Wait until a frame that began at `start` is over. -/
def waitFrame (start : Nat) : IO Unit := do
  let spent := (← IO.monoMsNow) - start
  if spent < frameLength then
    IO.sleep (UInt32.ofNat (frameLength - spent))

/-- End with an error. -/
def fail (tag : String) : IO UInt32 := do
  IO.eprintln ("Error: " ++ tag)
  return 1

/-- The tag of a failure. No program in memory causes a breach, so none is expected here. -/
def failureTag : Failure → String
  | .fault fault => fault.tag
  | .breach _ => "internal error"

/-- End because the command line was not read. -/
def refuse : Options.Stop → IO UInt32
  | .help => do
    IO.println usage
    return 0
  | .usage => do
    IO.eprintln usage
    return 1

/-! ## Without a screen -/

/-- Make frames until the run is over. -/
partial def runFrames (run : Headless) : IO UInt32 := do
  let start ← IO.monoMsNow
  match run.advance with
  | .going next log =>
    report log
    waitFrame start
    runFrames next
  | .over _ failure log =>
    report log
    match failure with
    | none => return 0
    | some e => fail (failureTag e)

/-- Run without a screen. -/
def runHeadless (args : List String) : IO UInt32 := do
  match Settings.read Settings.headlessTable args with
  | .error stop => refuse stop
  | .ok settings =>
    let setup := Headless.start settings (← readProgram settings.file) (← newDice)
    report setup.log
    match setup.result with
    | .error e => fail e.tag
    | .ok run => runFrames run

/-! ## In the terminal -/

/-- The key that a byte from the keyboard stands for, if it stands for one. -/
def keyOfByte (byte : UInt8) : Option Terminal.Key :=
  if byte = 27 then some .escape
  else if byte = 10 ∨ byte = 13 then some .enter
  else if byte = 9 then some .tab
  else if byte = 127 then some .backspace
  else if byte < 128 then some (.char (Char.ofNat byte.toNat))
  else none

/-- Add the keys of the keyboard to a queue until there are no more. -/
partial def listen (keyboard : IO.FS.Stream) (queue : IO.Ref Terminal.KeyQueue) : IO Unit := do
  let bytes ← keyboard.read 1
  unless bytes.isEmpty do
    for key in bytes.toList.filterMap keyOfByte do
      queue.modify fun q => q.push key
    listen keyboard queue

/-- Show things in the terminal. -/
def paintAll (paints : List Terminal.Paint) : IO Unit := do
  let terminal ← IO.getStdout
  for paint in paints do
    terminal.putStr paint.text
  terminal.flush

/-- Make passes until the session is over. -/
partial def runPasses (queue : IO.Ref Terminal.KeyQueue) (session : Terminal.Session) :
    IO UInt32 := do
  let start ← IO.monoMsNow
  let keys ← queue.modifyGet fun q => q.drain
  let pass := session.pass start keys
  paintAll pass.paints
  report pass.log
  match pass.ending with
  | .none =>
    waitFrame start
    runPasses queue pass.session
  | .quit => return 0
  | .failed e => fail (failureTag e)

/-- Run in the terminal. -/
def runTerminal (args : List String) : IO UInt32 := do
  match Settings.read Settings.terminalTable args with
  | .error stop => refuse stop
  | .ok settings =>
    let setup := Terminal.Session.start settings (← readProgram settings.file) (← newDice)
    report setup.log
    match setup.result with
    | .error e => fail e.tag
    | .ok session =>
      paintAll Terminal.Session.greeting
      let queue ← IO.mkRef Terminal.KeyQueue.empty
      let _ ← IO.asTask (listen (← IO.getStdin) queue) Task.Priority.dedicated
      runPasses queue session

end Chip8.Program

/-- Run a program without a screen, or in the terminal if that is asked for first. -/
def main (args : List String) : IO UInt32 :=
  match args with
  | "--terminal" :: rest => Chip8.Program.runTerminal rest
  | _ => Chip8.Program.runHeadless args
