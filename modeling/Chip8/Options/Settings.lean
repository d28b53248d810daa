import Chip8.Journal
import Chip8.Options.Grammar

/-!
# The settings of a run

`Settings` is what a command line asks for. Two tables of options exist: that of a run without a
screen and that of a run in a terminal, which lacks the limit on frames and the journal.
`Settings.read` reads a command line against either of them.
-/

namespace Chip8

/-- What a command line asks for. -/
structure Settings where
  /-- steps a second -/
  rate : UInt32
  /-- stop after so many frames -/
  maxFrames : Option UInt64
  /-- the dialect of the program -/
  dialect : Dialect
  /-- the journal that is written -/
  verbosity : Level
  /-- the file that holds the program -/
  file : String
deriving DecidableEq

namespace Settings

open Options

/-- Steps a second when the command line does not say. -/
def defaultRate : UInt32 := 700

/-- `--cycles-per-second` or `-c`: steps a second. -/
def rateEntry : Entry := ⟨"cycles-per-second", some 'c', true, false⟩

/-- `--max-frames`: stop after so many frames. -/
def maxFramesEntry : Entry := ⟨"max-frames", none, true, false⟩

/-- `--shift-uses-vy`: shifts read their second register. -/
def shiftEntry : Entry := ⟨"shift-uses-vy", none, false, false⟩

/-- `--keep-index`: storing and loading registers leaves the index alone. -/
def keepIndexEntry : Entry := ⟨"keep-index", none, false, false⟩

/-- `--verbose` or `-v`: write more of the journal, once for each level. -/
def verboseEntry : Entry := ⟨"verbose", some 'v', false, true⟩

/-- The options of a run without a screen. -/
def headlessTable : List Entry :=
  [rateEntry, maxFramesEntry, shiftEntry, keepIndexEntry, verboseEntry]

/-- The options of a run in a terminal. -/
def terminalTable : List Entry := [rateEntry, shiftEntry, keepIndexEntry]

/-- The journal that a number of requests for more amounts to; the count is kept in a byte. -/
def verbosityOf (requests : Nat) : Level :=
  match requests % 256 with
  | 0 => .warn
  | 1 => .info
  | 2 => .debug
  | _ => .trace

/-- The value of an option that holds a number below `bound`: `none` if the option is absent. An
option without a value stands for `fallback`. -/
def numberOf (items : List Item) (e : Entry) (bound : Nat) (fallback : Option Nat) :
    Except Stop (Option Nat) :=
  match items.find? (·.option? == some e) with
  | some (.valued _ text) =>
    match readNat bound text with
    | some n => .ok (some n)
    | none => .error .usage
  | some _ =>
    match fallback with
    | some n => .ok (some n)
    | none => .error .usage
  | none => .ok none

/-- The settings that the items of a command line ask for. -/
def ofItems (table : List Entry) (items : List Item) : Except Stop Settings := do
  unless givenOnce table items do throw .usage
  let rate ← numberOf items rateEntry UInt32.size (some defaultRate.toNat)
  let maxFrames ← numberOf items maxFramesEntry UInt64.size none
  match items.filterMap fun | .operand text => some text | _ => none with
  | [file] =>
    return {
      rate := (rate.map UInt32.ofNat).getD defaultRate
      maxFrames := maxFrames.map UInt64.ofNat
      dialect := ⟨items.contains (.bare shiftEntry), !items.contains (.bare keepIndexEntry)⟩
      verbosity := verbosityOf (items.count (.bare verboseEntry))
      file }
  | _ => throw .usage

/-- Read a command line against a table of options. -/
def read (table : List Entry) (args : List String) : Except Stop Settings := do
  ofItems table (← scan table 1 none args)

end Settings

end Chip8
