import Chip8.Proofs.Machine.Step

/-!
# Faults change nothing

An instruction that is at fault leaves the machine as it was, and a step that is at fault only halts
it: what a debugger finds after a crash is the state in which the crash happened, with the program
counter at the failing instruction. What fails without a fault has asked for an address beyond
sixteen bits, which is left to the caller to avoid.

`fault_changes_nothing` states this for single instructions, for steps, and for a machine that has
halted.
-/

namespace Chip8.Machine

/-- **Faults are atomic.** With at most sixteen calls open, an instruction whose registers exist and
that is at fault leaves the machine as it was; a step of a running machine that is at fault halts it
and changes nothing else; a failure of either that is no fault is a sum that does not fit in sixteen
bits; and a step of a halted machine says so and changes nothing. -/
theorem fault_changes_nothing (m : Machine) (hd : m.stack.depth ≤ 16) :
    (∀ i : Instruction, (∀ x ∈ i.registers, x < 16) →
      (∀ f, (m.execute i).result = .error (.fault f) → (m.execute i).machine = m) ∧
      ∀ b, (m.execute i).result = .error (.breach b) → b.Overflows) ∧
    (m.status = .running →
      (∀ f, m.step.result = .error (.fault f) →
        m.step.machine = { m with status := .halted }) ∧
      ∀ b, m.step.result = .error (.breach b) → b.Overflows) ∧
    (m.status = .halted → m.step.result = .error (.fault .halted) ∧ m.step.machine = m) := by
  refine ⟨?_, ?_, ?_⟩
  · intro i hr
    have he := executes (m := m) hr
    refine ⟨?_, ?_⟩
    · intro f h
      rw [h] at he
      exact he.eq_of_fault
    · intro b h
      rw [h] at he
      exact he.overflows_of_breach hd hr
  · intro hs
    have hx : ∀ x, m.status = .awaitingKey x → x < 16 := by
      intro x hx
      cases hs.symm.trans hx
    have hst := steps hx
    generalize m.step.machine = n at hst ⊢
    refine ⟨?_, ?_⟩
    · intro f h
      rw [h] at hst
      cases hst with
      | idle hdue => rfl
      | faulted hdue he => rw [he.eq_of_fault]
    · intro b h
      rw [h] at hst
      cases hst with
      | breached hdue he => exact he.overflows_of_breach hd (registers_lt_of_due hx hdue)
  · intro hs
    rw [step, hs]
    exact ⟨rfl, rfl⟩

/-- A machine whose program counter ran off the end of memory, asked for a step, for a return, and
for another step. -/
theorem lost_machine_changes_nothing :
    let m : Machine := { boot {} .loaded with pc := 0xFFF }
    m.step.result = .error (.fault (.counterOutOfRange 0xFFF)) ∧
      m.step.machine = { m with status := .halted } ∧
      (m.execute .leave).result = .error (.fault (.stackUnderflow 0xFFF)) ∧
      (m.execute .leave).machine = m ∧ m.step.machine.step.machine = m.step.machine := by
  intro m
  have hd : m.stack.depth ≤ 16 := by decide
  have hd' : m.step.machine.stack.depth ≤ 16 := by decide
  obtain ⟨hexecute, hstep, -⟩ := fault_changes_nothing m hd
  obtain ⟨-, -, hhalted⟩ := fault_changes_nothing m.step.machine hd'
  exact ⟨rfl, (hstep rfl).1 _ rfl, rfl, (hexecute .leave nofun).1 _ rfl, (hhalted rfl).2⟩

end Chip8.Machine
