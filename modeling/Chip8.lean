import Chip8.Machine.Command
import Chip8.Main
import Chip8.Monitor
import Chip8.Proofs.Machine.Apply
import Chip8.Proofs.CallStack
import Chip8.Proofs.Screen
import Chip8.Proofs.Plot
import Chip8.Proofs.Instruction.Range
import Chip8.Proofs.Machine.Execute
import Chip8.Proofs.Machine.Flow
import Chip8.Proofs.Machine.Step
import Chip8.Proofs.Machine.Fits
import Chip8.Proofs.Machine.Obey
import Chip8.Proofs.Machine.Paint
import Chip8.Proofs.Atomicity
import Chip8.Proofs.Play
import Chip8.Proofs.Integrity
import Chip8.Proofs.Redraw
import Chip8.Proofs.Halting
import Chip8.Proofs.Player.Frame
import Chip8.Proofs.Player.View
import Chip8.Proofs.Machine.Sound
import Chip8.Proofs.Safety
import Chip8.Proofs.Poller
import Chip8.Proofs.Calls
import Chip8.Proofs.Instruction.Table
import Chip8.Proofs.Failing
import Chip8.Proofs.Footprint
import Chip8.Proofs.Machine.Blind
import Chip8.Proofs.Player.Budget
import Chip8.Proofs.Player.Pace
import Chip8.Proofs.Player.Session
import Chip8.Proofs.Player.Pausing
import Chip8.Proofs.Player.Tone
import Chip8.Proofs.Player.Clock
import Chip8.Proofs.Player.Failure
import Chip8.Proofs.Machine.Lockstep
import Chip8.Proofs.Dialects
import Chip8.Proofs.DeadState
import Chip8.Proofs.Journal
import Chip8.Proofs.Headless
import Chip8.Proofs.IndexFlag
import Chip8.Proofs.Drawing
import Chip8.Proofs.Arithmetic
import Chip8.Proofs.Counter
import Chip8.Proofs.Requests
import Chip8.Proofs.Transfer
import Chip8.Proofs.Window
import Chip8.Proofs.Terminal.Session
import Chip8.Proofs.Terminal.Status
import Chip8.Proofs.Terminal.Hosts
import Chip8.Proofs.Loading
import Chip8.Proofs.Terminal.Delivery
