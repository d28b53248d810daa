import Chip8.Proofs.Dialects
import Chip8.Proofs.Failing

/-!
# The flag of adding to the index

`FX1E` adds a register to the index and tells in the flag that the sum is past the addresses of
memory. The index has sixteen bits, though, and addresses have twelve, so the sum can also leave the
index itself. It is cut down to sixteen bits before it is looked at, and what is left then is small
again: the flag tells of a sum that leaves memory, unless it leaves the index as well.

* `toNat_index_add`, `lt_index_add_iff` — what is left of a sum, and when it is past memory;
* `index_flag_tells` — adding to the index, on each machine that a program can bring about;
* `Climbing`, `Climbing.turn`, `Climbing.play` — a program that adds to the index without end, one
  turn of its loop and many of them;
* `wrapped_index_is_not_flagged` — it brings the index to where the flag fails to tell.
-/

namespace Chip8

namespace Machine

variable {m n : Machine} {x : UInt8}

/-! ## The sum -/

/-- What the index keeps of a sum. -/
theorem toNat_index_add (m : Machine) (x : UInt8) :
    (m.index + (m.reg x).toUInt16).toNat = (m.index.toNat + (m.reg x).toNat) % 0x10000 := by
  rw [UInt16.toNat_add, UInt8.toNat_toUInt16]

/-- What the index keeps of a sum is past memory if the sum is, and if all of it is kept. -/
theorem lt_index_add_iff (m : Machine) (x : UInt8) :
    0xFFF < m.index + (m.reg x).toUInt16 ↔
      0xFFF < m.index.toNat + (m.reg x).toNat ∧ m.index.toNat + (m.reg x).toNat < 0x10000 := by
  have hindex := m.index.toNat_lt
  have hvalue := (m.reg x).toNat_lt
  have hlimit : (0xFFF : UInt16).toNat = 0xFFF := rfl
  rw [UInt16.lt_iff_toNat_lt, toNat_index_add, hlimit]
  omega

/-! ## Carrying it out -/

/-- Adding to the index is carried out wherever there is a next word, and it changes the index and
the flag. -/
theorem exists_execute_addIndex (hx : x < 16) (hpc : m.pc.toNat + 2 < 0x10000) :
    (m.execute (.addIndex x)).result = .ok (.executed (.addIndex x)) ∧
      ∃ pc, (m.execute (.addIndex x)).machine =
        { { m with index := m.index + (m.reg x).toUInt16 }.setFlag
            (0xFFF < m.index + (m.reg x).toUInt16) with pc } := by
  obtain ⟨pc, hmachine, hresult⟩ := exists_execute (m := m) (i := .addIndex x)
    (by simp [Instruction.registers, hx]) nofun rfl rfl
  exact ⟨(hresult hpc).1, pc, hmachine⟩

/-! ## A program that leaves the index -/

/-- Set the first register to 255, and add it to the index without end. -/
def climber : List UInt8 := [0x60, 0xFF, 0xF0, 0x1E, 0x12, 0x02]

/-- The machine is at the start of the loop, and the loop was gone through a number of times. -/
structure Climbing (turns : Nat) (m : Machine) : Prop where
  /-- the loop is in memory -/
  loop : ∀ k < 4, m.memory.get? (0x202 + k) = climber[2 + k]?
  /-- the machine makes steps -/
  status : m.status = .running
  /-- the next of them is the first of the loop -/
  pc : m.pc = 0x202
  /-- the first register was set -/
  value : m.reg 0 = 0xFF
  /-- and added to the index each time -/
  index : m.index.toNat = 255 * turns

variable {turns : Nat}

/-- **One turn of the loop**, as long as the sum does not leave the index. -/
theorem Climbing.turn (h : m.Climbing turns) (hlt : turns < 257) :
    m.step.machine.step.machine.Climbing (turns + 1) := by
  -- the first step adds to the index, the second jumps back
  have hfirst : m.step.machine =
      { { m with index := m.index + (m.reg 0).toUInt16 }.setFlag
          (0xFFF < m.index + (m.reg 0).toUInt16) with pc := 0x204 } := by
    have hfetch : m.memory.fetch 0x202 = .ok (.ofBytes 0xF0 0x1E) :=
      Instruction.fetch_of_get? (h.loop 0 (by decide)) (h.loop 1 (by decide))
    have hdue : m.due = .ok (.addIndex 0) := by
      rw [due_of_running h.status, current, h.pc, hfetch]
      rfl
    have hk : ∀ x, Instruction.addIndex 0 ≠ .awaitKey x := by rintro _ ⟨⟩
    refine (step_of_executes (not_awaiting_of_running h.status) hdue (.done hk rfl ?_)).2
    show (m.pc.ahead 2).map _ = _
    rw [h.pc]
    rfl
  have hsecond : m.step.machine.step.machine = { m.step.machine with pc := 0x202 } := by
    have hstatus : m.step.machine.status = .running := by
      rw [hfirst]
      exact h.status
    have hfetch : m.memory.fetch 0x204 = .ok (.ofBytes 0x12 0x02) :=
      Instruction.fetch_of_get? (h.loop 2 (by decide)) (h.loop 3 (by decide))
    have hdue : m.step.machine.due = .ok (.jump 0x202) := by
      rw [due_of_running hstatus, hfirst]
      show (m.memory.fetch 0x204).bind _ = _
      rw [hfetch]
      rfl
    have hk : ∀ x, Instruction.jump 0x202 ≠ .awaitKey x := by rintro _ ⟨⟩
    exact (step_of_executes (not_awaiting_of_running hstatus) hdue (.done hk rfl rfl)).2
  rw [hsecond, hfirst]
  refine ⟨h.loop, h.status, rfl, ?_, ?_⟩
  · exact (reg_setFlag_of_ne _ _ (by decide)).trans h.value
  · have hsum := toNat_index_add m 0
    rw [h.value, h.index] at hsum
    show (m.index + (m.reg 0).toUInt16).toNat = _
    rw [h.value, hsum]
    show (255 * turns + 255) % 0x10000 = _
    omega

/-- **Many turns of the loop.** -/
theorem Climbing.play (h : m.Climbing turns) (more : Nat) (hle : turns + more ≤ 257) :
    (m.play (.replicate (2 * more) .step)).Climbing (turns + more) := by
  induction more generalizing m turns with
  | zero => exact h
  | succ more ih =>
    have hnext := ih (h.turn (by omega)) (by omega)
    rw [Nat.mul_succ, List.replicate_succ, List.replicate_succ, play_cons, play_cons,
      machine_act_step, machine_act_step]
    rwa [Nat.add_right_comm] at hnext

/-- The program gets to its loop with its first step. -/
theorem climbing_start (h : (start climber {} .loaded).result = .ok m) :
    m.step.machine.Climbing 0 := by
  obtain ⟨-, rfl⟩ := start_eq_ok_iff.1 h
  exact ⟨by decide +kernel, by decide +kernel, by decide +kernel, by decide +kernel,
    by decide +kernel⟩

/-- The machine of that program, with its loop gone through a number of times. -/
theorem exists_climbing (turns : Nat) (hle : turns ≤ 257) :
    ∃ m₀, (start climber {} .loaded).result = .ok m₀ ∧
      ∃ actions, (m₀.play actions).Climbing turns := by
  obtain ⟨m₀, h⟩ := exists_start (by decide : climber.length ≤ 3232) {} .loaded
  have hclimb := (climbing_start h).play turns (by omega)
  rw [Nat.zero_add] at hclimb
  refine ⟨m₀, h, .step :: .replicate (2 * turns) .step, ?_⟩
  rwa [play_cons, machine_act_step]

/-! ## The flag -/

/-- **The flag of adding to the index.** On each machine that a program can bring about, `FX1E` is
carried out, the index keeps sixteen bits of its sum with the register, and no register is set but
the flag. The flag is set exactly if the sum is past memory and all of it is kept, so it tells
whether the sum is past memory exactly if the sum does not leave the index. -/
theorem index_flag_tells {program : List UInt8} {dialect : Dialect} {dice : Dice} {m₀ : Machine}
    (h : (start program dialect dice).result = .ok m₀) (actions : List Action) {x : UInt8}
    (hx : x < 16) :
    let m := m₀.play actions
    let report := m.execute (.addIndex x)
    let sum := m.index.toNat + (m.reg x).toNat
    report.result = .ok (.executed (.addIndex x)) ∧
      report.machine.index.toNat = sum % 0x10000 ∧
      (∀ y, y ≠ Exec.flag → report.machine.reg y = m.reg y) ∧
      report.machine.reg Exec.flag = (decide (0xFFF < sum ∧ sum < 0x10000)).toUInt8 ∧
      (report.machine.reg Exec.flag = (decide (0xFFF < sum)).toUInt8 ↔ sum < 0x10000) := by
  intro m report sum
  have hpc : m.pc.toNat ≤ 0x10FE := (sound_play h actions).pc_le
  obtain ⟨hresult, pc, hmachine⟩ : report.result = _ ∧ ∃ pc, report.machine = _ :=
    exists_execute_addIndex hx (by omega)
  have hflag : report.machine.reg Exec.flag = (decide (0xFFF < sum ∧ sum < 0x10000)).toUInt8 := by
    rw [hmachine]
    refine (reg_setRegister _ (by decide) _).trans (congrArg Bool.toUInt8 ?_)
    exact decide_eq_decide.2 (lt_index_add_iff m x)
  refine ⟨hresult, ?_, fun y hy => ?_, hflag, ?_⟩
  · rw [hmachine]
    exact toNat_index_add m x
  · rw [hmachine]
    exact reg_setFlag_of_ne _ _ hy
  · rw [hflag]
    by_cases hkept : sum < 0x10000
    · simp only [hkept, and_true]
    · -- the sum is past memory, but what is left of it is not
      have hpast : 0xFFF < sum := by omega
      simp only [hkept, hpast, and_false, decide_false, decide_true, iff_false]
      decide

/-- The seventeenth turn of the loop brings the index past memory, and the flag tells. -/
theorem seventeenth_turn_is_flagged :
    ∃ m₀, (start climber {} .loaded).result = .ok m₀ ∧ (0 : UInt8) < 16 ∧ ∃ actions,
      (m₀.play actions).index.toNat = 4080 ∧ (m₀.play actions).reg 0 = 255 ∧
      ((m₀.play actions).execute (.addIndex 0)).machine.index.toNat = 4335 ∧
      ((m₀.play actions).execute (.addIndex 0)).machine.reg Exec.flag = 1 := by
  obtain ⟨m₀, h, actions, hclimb⟩ := exists_climbing 16 (by decide)
  obtain ⟨-, hindex, -, hflag, -⟩ := index_flag_tells h actions (x := 0) (by decide)
  rw [hclimb.index, hclimb.value] at hindex hflag
  exact ⟨m₀, h, by decide, actions, hclimb.index, hclimb.value, hindex, hflag⟩

/-- **A sum that leaves the index is not flagged**, though it is past memory. The loop gets there in
its turn number 258. -/
theorem wrapped_index_is_not_flagged :
    ¬∀ (program : List UInt8) (dialect : Dialect) (dice : Dice) (m₀ : Machine),
      (start program dialect dice).result = .ok m₀ → ∀ (actions : List Action) (x : UInt8), x < 16 →
        let m := m₀.play actions
        let sum := m.index.toNat + (m.reg x).toNat
        (m.execute (.addIndex x)).machine.reg Exec.flag = (decide (0xFFF < sum)).toUInt8 := by
  intro hall
  obtain ⟨m₀, h, actions, hclimb⟩ := exists_climbing 257 (by decide)
  have hclaim := hall climber {} .loaded m₀ h actions 0 (by decide)
  have hpc : (m₀.play actions).pc.toNat + 2 < 0x10000 := by
    rw [hclimb.pc]
    decide
  obtain ⟨-, pc, hmachine⟩ := exists_execute_addIndex (x := 0) (by decide) hpc
  have hkept : ¬0xFFF < (m₀.play actions).index + ((m₀.play actions).reg 0).toUInt16 := by
    rw [lt_index_add_iff, hclimb.index, hclimb.value]
    decide
  have hflag : ((m₀.play actions).execute (.addIndex 0)).machine.reg Exec.flag = 0 := by
    rw [hmachine, decide_eq_false hkept]
    exact reg_setRegister _ (by decide) _
  simp only [hflag, hclimb.index, hclimb.value] at hclaim
  exact absurd hclaim (by decide)

end Machine

end Chip8
