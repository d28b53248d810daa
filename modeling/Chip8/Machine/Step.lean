import Chip8.Instruction.Decode
import Chip8.Machine.Execute

/-!
# Stepping

`Machine.step` is one turn of fetch, decode and execute. Waiting for a key, it only looks at the
keypad; halted, it only says so. Any fault halts the machine, with the program counter still at
the instruction that failed.
-/

namespace Chip8.Machine

/-- Fetch, decode and execute the instruction at the program counter. -/
def cycle (m : Machine) : Report Outcome :=
  match m.memory.fetch m.pc with
  | .error fault => ⟨.error (.fault fault), m, []⟩
  | .ok word =>
    match Instruction.decode word with
    | .error fault => ⟨.error (.fault fault), m, []⟩
    | .ok i =>
      let report := m.execute i
      { report with log := .decoded m.pc word i :: report.log }

/-- Halt the machine if it ran into a fault. -/
def settle (report : Report Outcome) : Report Outcome :=
  match report.result with
  | .error (.fault fault) =>
    { report with
      machine := { report.machine with status := .halted }
      log := report.log ++ [.halting report.machine.pc fault] }
  | _ => report

/-- One step of the machine. The timers are left alone. -/
def step (m : Machine) : Report Outcome :=
  match m.status with
  | .halted => ⟨.error (.fault .halted), m, []⟩
  | .awaitingKey x => settle (m.run (Exec.poll x) [])
  | .running => settle m.cycle

end Chip8.Machine
