import Chip8.Proofs.Instruction.Range
import Chip8.Proofs.Machine.Execute

/-!
# What a step comes to

A step carries out the instruction that is due: the one at the program counter, or the key wait that
the machine is in. `Machine.Steps m r n` says that a step of `m` has the result `r` and leaves `n`,
and as for `Machine.Executes` its constructors are all the ways this can go.

* `Machine.current` — the instruction at the program counter;
* `Machine.due` — the instruction that the next step carries out, or why there is none;
* `Machine.step_of_due` — a step carries out the instruction that is due;
* `Machine.steps` — a step goes one of the ways of `Steps`;
* `Machine.executes_of_step`, `Machine.step_of_executes` — what a successful step carries out;
* `Machine.step_fault_iff` — the faults of a step.
-/

namespace Chip8.Machine

/-- The instruction at the program counter. -/
def current (m : Machine) : Except Fault Instruction :=
  (m.memory.fetch m.pc).bind Instruction.decode

/-- The instruction that the next step carries out. -/
def due (m : Machine) : Except Fault Instruction :=
  match m.status with
  | .running => m.current
  | .awaitingKey x => .ok (.awaitKey x)
  | .halted => .error .halted

/-- A step has a result and leaves a machine. -/
inductive Steps (m : Machine) : Except Failure Outcome → Machine → Prop
  /-- no instruction is due -/
  | idle {f : Fault} (hd : m.due = .error f) :
      Steps m (.error (.fault f)) { m with status := .halted }
  /-- the instruction that is due is carried out -/
  | carried {i : Instruction} {o : Outcome} {n : Machine} (hd : m.due = .ok i)
      (he : m.Executes i (.ok o) n) : Steps m (.ok o) n
  /-- the instruction that is due is at fault -/
  | faulted {i : Instruction} {f : Fault} {n : Machine} (hd : m.due = .ok i)
      (he : m.Executes i (.error (.fault f)) n) :
      Steps m (.error (.fault f)) { n with status := .halted }
  /-- the instruction that is due asks for something that only a caller can have brought about -/
  | breached {i : Instruction} {b : Breach} {n : Machine} (hd : m.due = .ok i)
      (he : m.Executes i (.error (.breach b)) n) : Steps m (.error (.breach b)) n

variable {m : Machine} {i : Instruction}

/-- The instruction at the program counter is in range. -/
theorem inRange_of_current (h : m.current = .ok i) : i.InRange := by
  rw [current] at h
  rcases hw : m.memory.fetch m.pc with f | w
  · rw [hw] at h
    cases h
  · rw [hw] at h
    exact Instruction.inRange_of_decode h

/-- The registers of the instruction that is due exist. -/
theorem registers_lt_of_due (hx : ∀ x, m.status = .awaitingKey x → x < 16) (h : m.due = .ok i) :
    ∀ x ∈ i.registers, x < 16 := by
  rw [due] at h
  split at h
  · exact (inRange_of_current h).1
  · next x hs =>
    cases h
    intro y hy
    obtain rfl : y = x := List.mem_singleton.1 hy
    exact hx y hs
  · cases h

/-- Why no instruction is due. -/
theorem fault_of_due {f : Fault} (h : m.due = .error f) :
    f = .halted ∨ f = .counterOutOfRange m.pc ∨ ∃ w, f = .unknownOpcode w := by
  rw [due] at h
  split at h
  · rcases bind_eq_error_iff.1 h with hw | ⟨w, -, hi⟩
    · rw [Memory.fetch] at hw
      split at hw <;> cases hw
      exact .inr (.inl rfl)
    · rw [Instruction.decode] at hi
      split at hi <;> cases hi
      exact .inr (.inr ⟨w, rfl⟩)
  · cases h
  · exact .inl (Except.error.inj h).symm

/-- Looking for a key again is carrying out the key wait again. -/
theorem run_poll {x : UInt8} (hs : m.status = .awaitingKey x) :
    m.run (Exec.poll x) [] = m.execute (.awaitKey x) := by
  have hm : { m with status := .awaitingKey x } = m := by rw [← hs]
  simp only [execute, run, Exec.perform, EStateM.run_bind, EStateM.run_modify, hm, reduceCtorEq,
    if_false]

/-- To halt the machine does not change what a report says. -/
@[simp] theorem result_settle (report : Report Outcome) :
    (settle report).result = report.result := by
  rw [settle]
  split <;> rfl

/-- A step with no instruction due halts the machine. -/
theorem step_of_due_error {f : Fault} (hd : m.due = .error f) :
    m.step.result = .error (.fault f) ∧ m.step.machine = { m with status := .halted } := by
  rw [due] at hd
  rcases hs : m.status with - | x | - <;> simp only [hs] at hd
  · rcases bind_eq_error_iff.1 hd with hw | ⟨w, hw, hi⟩
    · simp only [step, hs, cycle, hw]
      exact ⟨rfl, rfl⟩
    · simp only [step, hs, cycle, hw, hi]
      exact ⟨rfl, rfl⟩
  · cases hd
  · cases hd
    have hm : { m with status := .halted } = m := by rw [← hs]
    rw [hm, step, hs]
    exact ⟨rfl, rfl⟩

/-- A step with an instruction due carries it out; only the journal is told more. -/
theorem step_of_due {i : Instruction} (hd : m.due = .ok i) :
    ∃ log, m.step = settle { m.execute i with log } := by
  rw [due] at hd
  rcases hs : m.status with - | x | - <;> simp only [hs] at hd
  · obtain ⟨w, hw, hi⟩ := bind_eq_ok_iff.1 hd
    simp only [step, hs, cycle, hw, hi]
    exact ⟨_, rfl⟩
  · cases hd
    simp only [step, hs, run_poll hs]
    exact ⟨_, rfl⟩
  · cases hd

/-- **A step** goes one of the ways of `Steps`. -/
theorem steps (hx : ∀ x, m.status = .awaitingKey x → x < 16) :
    m.Steps m.step.result m.step.machine := by
  rcases hd : m.due with f | i
  · obtain ⟨hr, hm⟩ := step_of_due_error hd
    rw [hr, hm]
    exact .idle hd
  · obtain ⟨log, hs⟩ := step_of_due hd
    have he := executes (m := m) (registers_lt_of_due hx hd)
    rw [hs]
    generalize m.execute i = report at he ⊢
    obtain ⟨result, n, told⟩ := report
    rcases result with (f | b) | o
    · exact .faulted hd he
    · exact .breached hd he
    · exact .carried hd he

/-- A successful step carries out the instruction that is due. -/
theorem executes_of_step {o : Outcome} (hx : ∀ x, m.status = .awaitingKey x → x < 16)
    (hd : m.due = .ok i) (h : m.step.result = .ok o) : m.Executes i (.ok o) m.step.machine := by
  have hs := steps hx
  rw [h] at hs
  generalize m.step.machine = n at hs
  cases hs with
  | carried hd' he =>
    obtain rfl := Except.ok.inj (hd.symm.trans hd')
    exact he

/-- The outcome of the instruction that is due is that of the step. -/
theorem step_of_executes {o : Outcome} {n : Machine} (hx : ∀ x, m.status = .awaitingKey x → x < 16)
    (hd : m.due = .ok i) (he : m.Executes i (.ok o) n) :
    m.step.result = .ok o ∧ m.step.machine = n := by
  obtain ⟨log, hs⟩ := step_of_due hd
  obtain ⟨hr, hn⟩ := he.unique (executes (registers_lt_of_due hx hd))
  rw [hs]
  generalize m.execute i = report at hr hn ⊢
  obtain ⟨result, left, told⟩ := report
  cases hr
  exact ⟨rfl, hn⟩

/-- **The faults of a step** are that no instruction is due, and that the instruction that is due
cannot have its effect. -/
theorem step_fault_iff {f : Fault} (hx : ∀ x, m.status = .awaitingKey x → x < 16) :
    m.step.result = .error (.fault f) ↔
      m.due = .error f ∨ ∃ i, m.due = .ok i ∧ m.apply i = .error (.fault f) := by
  constructor
  · intro h
    have hs := steps hx
    rw [h] at hs
    generalize m.step.machine = n at hs
    cases hs with
    | idle hd => exact .inl hd
    | faulted hd he =>
      cases he with
      | refused hk ha => exact .inr ⟨_, hd, ha⟩
      | overrun hk ha hm => cases (breach_of_moveOn hm).2
      | stuck hi hl hp => exact absurd hp Addr.ahead_ne_fault
  · rintro (hd | ⟨i, hd, ha⟩)
    · exact (step_of_due_error hd).1
    · obtain ⟨log, hs⟩ := step_of_due hd
      have he := executes (m := m) (registers_lt_of_due hx hd)
      rw [hs, result_settle]
      exact he.result_of_refused ha

end Chip8.Machine
