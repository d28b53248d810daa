import Chip8.Machine.Command
import Chip8.Proofs.Machine.Flow

/-!
# What a command comes to

A host may at any time have a machine make a step, carry out instructions of the host's own choice,
load a program, start anew, and poke whatever a debugger can reach. Most of these commands leave the
picture, the status and the call stack alone; `Machine.Obeys` lists those that do not, so that a
statement about every command needs no look at the others.

* `Command.instructions`, `Command.InRange` — the instructions that a command brings along, and that
  the registers they name exist;
* `Machine.obeys` — obeying a command goes one of the ways of `Obeys`;
* `Machine.executeAll_induction`, `Machine.error_of_executeAll` — a list of instructions keeps what
  each of them keeps, and fails as one of them does;
* `Machine.start_eq_ok_iff` — which programs can be started, and what starting them gives;
* `Machine.Booted`, `Machine.Reachable` — the machines that were just set up, and those that
  commands bring about from there.
-/

namespace Chip8

namespace Command

/-- The instructions that a command brings along. -/
def instructions : Command → List Instruction
  | execute i => [i]
  | executeAll is => is
  | _ => []

/-- The registers of the instructions that a command brings along exist. -/
def InRange (c : Command) : Prop :=
  ∀ i ∈ c.instructions, ∀ x ∈ i.registers, x < 16

-- given as a term: a search could also settle on going through all bytes instead of those named
instance (c : Command) : Decidable c.InRange :=
  @List.decidableBAll Instruction (fun i => ∀ x ∈ i.registers, x < 16)
    (fun i => List.decidableBAll (· < 16) i.registers) c.instructions

end Command

namespace Machine

variable {m : Machine}

@[simp] theorem machine_ofReport {α : Type} (reply : α → Reply) (report : Report α) :
    (ofReport reply report).machine = report.machine := by
  rw [ofReport]
  split <;> rfl

@[simp] theorem log_ofReport {α : Type} (reply : α → Reply) (report : Report α) :
    (ofReport reply report).log = report.log := by
  rw [ofReport]
  split <;> rfl

/-- A report that is answered as a failure is one. -/
theorem error_of_ofReport {α : Type} (reply : α → Reply) {report : Report α} {e : Failure}
    (hreply : ∀ a, reply a ≠ .failed e) (h : (ofReport reply report).reply = .failed e) :
    report.result = .error e := by
  rw [ofReport] at h
  split at h
  · exact absurd h (hreply _)
  · next f hf =>
    cases h
    exact hf

@[simp] theorem obeyAll_nil : m.obeyAll [] = m := rfl

@[simp] theorem obeyAll_cons (c : Command) (rest : List Command) :
    m.obeyAll (c :: rest) = (m.obey c).machine.obeyAll rest := rfl

/-! ## One command -/

/-- Obeying a command leaves a machine. -/
inductive Obeys (m : Machine) : Command → Machine → Prop
  /-- a step is made -/
  | step : Obeys m .step m.step.machine
  /-- an instruction is carried out -/
  | execute {i : Instruction} : Obeys m (.execute i) (m.execute i).machine
  /-- instructions are carried out in order -/
  | executeAll {is : List Instruction} : Obeys m (.executeAll is) (m.executeAll is).machine
  /-- the machine starts anew -/
  | reset : Obeys m .reset m.reset
  /-- the host has drawn the screen -/
  | markDrawn : Obeys m .markDrawn m.markDrawn
  /-- a debugger changes the call stack, which becomes no deeper than it may be -/
  | restack {c : Command} {stack : CallStack} (hd : m.stack.depth ≤ 16 → stack.depth ≤ 16) :
      Obeys m c { m with stack }
  /-- the picture, the status and the call stack stay as they are -/
  | keep {c : Command} {n : Machine} (hscreen : n.screen = m.screen) (hstatus : n.status = m.status)
      (hstack : n.stack = m.stack) : Obeys m c n

theorem obeys_replaceStack {c : Command} {stack : Option CallStack}
    (hd : ∀ s, stack = some s → m.stack.depth ≤ 16 → s.depth ≤ 16) :
    m.Obeys c (m.replaceStack stack).machine := by
  rcases stack with _ | s
  · exact .keep rfl rfl rfl
  · exact .restack (hd s rfl)

/-- **Obeying a command** goes one of the ways of `Obeys`. -/
theorem obeys (m : Machine) (c : Command) : m.Obeys c (m.obey c).machine := by
  cases c with
  | step =>
    rw [obey, machine_ofReport]
    exact .step
  | execute i =>
    rw [obey, machine_ofReport]
    exact .execute
  | executeAll is =>
    rw [obey, machine_ofReport]
    exact .executeAll
  | load program =>
    rw [obey, load]
    rcases m.memory.loadProgram program with e | memory
    · exact .keep rfl rfl rfl
    · exact .keep rfl rfl rfl
  | reset => exact .reset
  | markDrawn => exact .markDrawn
  | setDepth depth =>
    refine obeys_replaceStack ?_
    intro s hs _
    rw [CallStack.setDepth?] at hs
    split at hs
    · next hle =>
      cases hs
      exact hle
    · cases hs
  | setSlot slot site =>
    refine obeys_replaceStack ?_
    intro s hs hd
    rw [CallStack.setSlot?] at hs
    split at hs
    · cases hs
      exact hd
    · cases hs
  | tick | press key | release key | setKeypad keypad | setRegister x value | setIndex value
  | setCounter value | setDelay value | setSound value => exact .keep rfl rfl rfl

/-! ## Several instructions -/

/-- What holds of a machine and is kept by each instruction of a list is kept by the list, whether
it fails or not. -/
theorem executeAll_induction {P : Machine → Prop} {is : List Instruction} (h₀ : P m)
    (hexec : ∀ n, ∀ i ∈ is, P n → P (n.execute i).machine) : P (m.executeAll is).machine := by
  induction is generalizing m with
  | nil => exact h₀
  | cons i rest ih =>
    have hi : P (m.execute i).machine := hexec m i List.mem_cons_self h₀
    simp only [executeAll]
    split
    · exact hi
    · exact ih hi fun n j hj => hexec n j (List.mem_cons_of_mem i hj)

/-- A list of instructions fails as one of its instructions does. -/
theorem error_of_executeAll {P : Machine → Prop} {is : List Instruction} {e : Failure} (h₀ : P m)
    (hexec : ∀ n, ∀ i ∈ is, P n → P (n.execute i).machine)
    (h : (m.executeAll is).result = .error e) :
    ∃ n, ∃ i ∈ is, P n ∧ (n.execute i).result = .error e := by
  induction is generalizing m with
  | nil => cases h
  | cons i rest ih =>
    simp only [executeAll] at h
    split at h
    · next f hf =>
      cases h
      exact ⟨m, i, List.mem_cons_self, h₀, hf⟩
    · obtain ⟨n, j, hj, hn, hr⟩ := ih (hexec m i List.mem_cons_self h₀)
        (fun n j hj => hexec n j (List.mem_cons_of_mem i hj)) h
      exact ⟨n, j, List.mem_cons_of_mem i hj, hn, hr⟩

/-! ## Histories -/

/-- A program can be started exactly if it fits, and is then in the memory of a machine that is
otherwise as booted. -/
theorem start_eq_ok_iff {program : List UInt8} {dialect : Dialect} {dice : Dice} :
    (start program dialect dice).result = .ok m ↔
      program.length ≤ 3232 ∧
        m = { boot dialect dice with
          memory := Memory.initial.put Memory.programStart program } := by
  rw [start]
  constructor
  · intro h
    split at h
    · next loaded hl =>
      cases h
      obtain ⟨memory, hm, rfl⟩ := map_eq_ok_iff.1 hl
      obtain ⟨hle, rfl⟩ := Memory.loadProgram_eq_ok_iff.1 hm
      exact ⟨hle, rfl⟩
    · cases h
  · rintro ⟨hle, rfl⟩
    rw [load, Memory.loadProgram_eq_ok_iff.2 ⟨hle, rfl⟩]
    rfl

/-- A program that fits can be started. -/
theorem exists_start {program : List UInt8} (h : program.length ≤ 3232) (dialect : Dialect)
    (dice : Dice) : ∃ m, (start program dialect dice).result = .ok m :=
  ⟨_, start_eq_ok_iff.2 ⟨h, rfl⟩⟩

/-- A machine that was just set up, with or without a program. -/
inductive Booted : Machine → Prop
  /-- without a program -/
  | bare (dialect : Dialect) (dice : Dice) : Booted (boot dialect dice)
  /-- with a program -/
  | program {program : List UInt8} {dialect : Dialect} {dice : Dice} {m : Machine}
      (h : (start program dialect dice).result = .ok m) : Booted m
  /-- with the content of a file -/
  | file {content : Option (List UInt8)} {dialect : Dialect} {dice : Dice} {m : Machine}
      (h : (startFile content dialect dice).result = .ok m) : Booted m

/-- Commands whose registers exist bring the machine about. -/
inductive Reachable : Machine → Prop
  /-- no command was given yet -/
  | booted {m : Machine} (h : Booted m) : Reachable m
  /-- one more command was obeyed -/
  | obey {m : Machine} (h : Reachable m) (c : Command) (hc : c.InRange) :
      Reachable (m.obey c).machine

theorem Reachable.obeyAll (h : Reachable m) (commands : List Command)
    (hc : ∀ c ∈ commands, c.InRange) : Reachable (m.obeyAll commands) := by
  induction commands generalizing m with
  | nil => exact h
  | cons c rest ih =>
    rw [obeyAll_cons]
    exact ih (h.obey c (hc c List.mem_cons_self)) fun d hd => hc d (List.mem_cons_of_mem c hd)

end Machine

end Chip8
