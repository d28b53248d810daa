import Chip8.Proofs.Machine.Execute

/-!
# The way of the program counter

Where a program goes on is told by the table alone. Four instructions place the program counter. All
others move it by one word, or by two if they skip one, apart from the key wait, which stays where
it is until a key is held. The six instructions that skip come in pairs with opposite conditions, so
of each pair exactly one skips, whatever the machine is like.

* `Machine.skips` — the conditions of the table;
* `Machine.Sends` — where an instruction sends the program counter;
* `Sends.unique` — it sends it to one place;
* `pc_of_apply`, `Flows.sends` — effects that leave the program counter to the table or place it;
* `Executes.sends` — an instruction that is carried out;
* `counter_follows_table` — all of it, with what can keep an instruction from being carried out.
-/

namespace Chip8

/-- Two instructions skip on opposite conditions. -/
inductive Instruction.Opposite : Instruction → Instruction → Prop
  /-- `3XNN` and `4XNN` -/
  | const {x value : UInt8} : Opposite (.skipEqConst x value) (.skipNeConst x value)
  /-- `5XY0` and `9XY0` -/
  | reg {x y : UInt8} : Opposite (.skipEqReg x y) (.skipNeReg x y)
  /-- `EX9E` and `EXA1` -/
  | key {x : UInt8} : Opposite (.skipHeld x) (.skipFree x)

namespace Machine

/-- The instruction is one that skips, and its condition holds. -/
def skips (m : Machine) : Instruction → Bool
  | .skipEqConst x value => m.reg x == value
  | .skipNeConst x value => m.reg x != value
  | .skipEqReg x y => m.reg x == m.reg y
  | .skipNeReg x y => m.reg x != m.reg y
  | .skipHeld x => m.keypad.isHeld (m.reg x)
  | .skipFree x => !m.keypad.isHeld (m.reg x)
  | _ => false

/-- Where an instruction sends the program counter. -/
inductive Sends (m : Machine) : Instruction → Nat → Prop
  /-- to the target -/
  | jump {target : Addr} : Sends m (.jump target) target.toNat
  /-- to the target -/
  | call {target : Addr} : Sends m (.call target) target.toNat
  /-- to the sum with the first register -/
  | offset {base : Addr} : Sends m (.jumpOffset base) (base.toNat + (m.reg 0).toNat)
  /-- behind the newest open call -/
  | leave {site : Addr} (hs : m.stack.active.getLast? = some site) : Sends m .leave (site.toNat + 2)
  /-- nowhere, as long as no key is held -/
  | wait {x : UInt8} (hl : ∀ key, m.keypad.isHeld key = false) : Sends m (.awaitKey x) m.pc.toNat
  /-- over the next word -/
  | skip {i : Instruction} (hs : m.skips i = true) : Sends m i (m.pc.toNat + 4)
  /-- to the next word -/
  | next {i : Instruction} (hi : i.isControlFlow = false) (hs : m.skips i = false)
      (hl : ∀ x, i = .awaitKey x → ∃ key, m.keypad.isHeld key = true) : Sends m i (m.pc.toNat + 2)

variable {m n : Machine} {i j : Instruction} {o : Outcome}

/-- **An instruction sends the program counter to one place.** -/
theorem Sends.unique {a b : Nat} (ha : m.Sends i a) (hb : m.Sends i b) : a = b := by
  cases ha with
  | skip hs =>
    cases hb with
    | skip => rfl
    | next hi hs' => cases hs.symm.trans hs'
    | jump | call | offset | leave | wait => cases hs
  | next hi hs hl =>
    cases hb with
    | next => rfl
    | skip hs' => cases hs.symm.trans hs'
    | jump | call | offset | leave => cases hi
    | wait hnone =>
      obtain ⟨key, hkey⟩ := hl _ rfl
      cases (hnone key).symm.trans hkey
  | wait hnone =>
    cases hb with
    | wait => rfl
    | skip hs => cases hs
    | next hi hs hl =>
      obtain ⟨key, hkey⟩ := hl _ rfl
      cases (hnone key).symm.trans hkey
  | leave hsite =>
    cases hb with
    | leave hsite' => rw [Option.some.inj (hsite.symm.trans hsite')]
    | skip hs => cases hs
    | next hi => cases hi
  | jump | call | offset =>
    cases hb with
    | skip hs => cases hs
    | next hi => cases hi
    | _ => rfl

/-! ## Effects -/

/-- Of two opposite instructions, each skips on its condition, and one condition is the negation of
the other. -/
theorem apply_of_opposite (h : i.Opposite j) :
    m.apply i = m.skipIf (m.skips i) ∧ m.apply j = m.skipIf (m.skips j) ∧
      m.skips j = !m.skips i := by
  cases h with
  | const | reg | key => exact ⟨rfl, rfl, by simp [skips, bne]⟩

/-- If its condition holds, such an instruction has the effect of moving on by a word, and no effect
otherwise. -/
theorem run_effect_of_skipIf (hr : ∀ x ∈ i.registers, x < 16)
    (h : m.apply i = m.skipIf (m.skips i)) :
    EStateM.run (Exec.effect i) m = EStateM.run (Exec.skipIf (m.skips i)) m := by
  rw [Exec.run_effect m hr, h, Exec.run_skipIf]

theorem pc_of_skipIf {condition : Bool} (h : m.skipIf condition = .ok n) :
    n.pc.toNat = m.pc.toNat + if condition then 2 else 0 := by
  cases condition
  · cases h
    rfl
  · obtain ⟨pc, hp, rfl⟩ := map_eq_ok_iff.1 h
    exact Addr.ahead_eq_ok_iff.1 hp

theorem pc_of_sameCourse (hs : m.skips i = false) (h : m.SameCourse n) :
    n.pc.toNat = m.pc.toNat + if m.skips i then 2 else 0 := by
  rw [hs, h.pc]
  rfl

/-- **The effect** of an instruction that does not place the program counter moves it by a word if
the instruction skips. -/
theorem pc_of_apply (hi : i.isControlFlow = false) (h : m.apply i = .ok n) :
    n.pc.toNat = m.pc.toNat + if m.skips i then 2 else 0 := by
  cases i
  case leave | jump | call | jumpOffset => cases hi
  case skipEqConst | skipNeConst | skipEqReg | skipNeReg | skipHeld | skipFree =>
    exact pc_of_skipIf h
  case draw | storeDecimal | storeRegisters =>
    obtain ⟨a, -, rfl⟩ := map_eq_ok_iff.1 h
    exact pc_of_sameCourse rfl ⟨rfl, rfl, rfl, rfl, rfl⟩
  case loadRegisters x =>
    obtain ⟨values, -, rfl⟩ := map_eq_ok_iff.1 h
    exact pc_of_sameCourse rfl ((sameCourse_setFirstRegs values).trans (sameCourse_moveIndex _))
  all_goals
    cases h
    exact pc_of_sameCourse rfl ⟨rfl, rfl, rfl, rfl, rfl⟩

/-- **The effect** of an instruction that places the program counter is what the table says. -/
theorem Flows.sends {a : Nat} (hf : m.Flows i n) (hi : i.isControlFlow = true)
    (hpc : n.pc.toNat = a) : m.Sends i a := by
  cases hf with
  | @leave site _ _ hs hp =>
    obtain rfl : site.toNat + 2 = a := (Addr.ahead_eq_ok_iff.1 hp).symm.trans hpc
    refine .leave ?_
    rw [CallStack.active_pop hs, List.getLast?_concat]
  | call =>
    obtain rfl := hpc
    exact .call
  | jump =>
    obtain rfl := hpc
    exact .jump
  | @offset base _ hp =>
    obtain rfl : base.toNat + (m.reg 0).toNat = a := (Addr.ahead_eq_ok_iff.1 hp).symm.trans hpc
    exact .offset
  | skip hi' | stay hi' => cases hi.symm.trans hi'

/-- **Carrying out an instruction** sends the program counter where the table says. -/
theorem Executes.sends {a : Nat} (he : m.Executes i (.ok o) n) (hpc : n.pc.toNat = a) :
    m.Sends i a := by
  cases he with
  | done hk ha hm =>
    obtain ⟨pc, rfl, hmoved⟩ := pc_of_moveOn hm
    have hmoved := hpc.symm.trans hmoved
    by_cases hi : i.isControlFlow = true
    · rw [if_pos hi, Nat.add_zero] at hmoved
      exact (flows ha).sends hi hmoved.symm
    · rw [if_neg hi, pc_of_apply (Bool.eq_false_iff.2 hi) ha] at hmoved
      rw [hmoved]
      cases hs : m.skips i
      · exact .next (Bool.eq_false_iff.2 hi) hs fun x hx => absurd hx (hk x)
      · exact .skip hs
  | waits hi hl =>
    obtain rfl := hi
    obtain rfl := hpc
    exact .wait (Keypad.lowest?_eq_none_iff.1 hl)
  | @takes x key pc hi hl hp =>
    obtain rfl := hi
    obtain rfl : m.pc.toNat + 2 = a := (Addr.ahead_eq_ok_iff.1 hp).symm.trans hpc
    exact .next rfl rfl fun _ _ => ⟨key, (Keypad.lowest?_eq_some_iff.1 hl).1⟩

/-- With the program counter and the open calls in memory, no instruction of the table leaves the
addresses of sixteen bits. -/
theorem Executes.not_breach {b : Breach} (hpc : m.pc.toNat ≤ 4094) (hd : m.stack.depth ≤ 16)
    (hsites : ∀ site ∈ m.stack.active, site.toNat ≤ 4094) (hi : i.InRange) :
    ¬m.Executes i (.error (.breach b)) n := by
  have hahead {a : Addr} {distance : Nat} {e : Failure} (h : a.ahead distance = .error e) :
      0x10000 ≤ a.toNat + distance := (Addr.ahead_eq_error_iff.1 h).1
  intro he
  cases he with
  | refused hk ha =>
    cases refuses hd hi.1 ha with
    | @site site stack _ hs hp =>
      have hsite : site.toNat ≤ 4094 := hsites site (by simp [CallStack.active_pop hs])
      have := hahead hp
      omega
    | @offset base _ hp =>
      have hbase : base.toNat < 4096 := hi.2.1 base rfl
      have hreg := (m.reg 0).toNat_lt
      have := hahead hp
      omega
    | skip hi' hp =>
      have := hahead hp
      omega
  | @overrun m₁ _ hk ha hm =>
    obtain ⟨hlt, -⟩ := breach_of_moveOn hm
    have hcf : i.isControlFlow = false := by
      refine Bool.eq_false_iff.2 fun hcf => ?_
      rw [moveOn, if_pos hcf] at hm
      cases hm
    have hsum := pc_of_apply hcf ha
    split at hsum <;> omega
  | stuck hi' hl hp =>
    have := hahead hp
    omega

/-- **The program counter follows the table.** An instruction that is carried out sends it to the
place that the table names, with nothing added, and unless the machine was put by hand where no
program brings it, only a fault keeps an instruction from being carried out. Of two instructions
with opposite conditions exactly one has the effect of skipping a word, whatever the machine is
like, and with a number that is no key it is the one that skips without the key. -/
theorem counter_follows_table (m : Machine) :
    (∀ (i : Instruction) (o : Outcome), (∀ x ∈ i.registers, x < 16) →
      (m.execute i).result = .ok o →
        ∀ a, m.Sends i a ↔ (m.execute i).machine.pc.toNat = a) ∧
    (m.pc.toNat ≤ 4094 → m.stack.depth ≤ 16 → (∀ site ∈ m.stack.active, site.toNat ≤ 4094) →
      ∀ i : Instruction, i.InRange → ∀ b, (m.execute i).result ≠ .error (.breach b)) ∧
    (∀ i j : Instruction, i.Opposite j → (∀ x ∈ i.registers, x < 16) →
      EStateM.run (Exec.effect i) m = EStateM.run (Exec.skipIf (m.skips i)) m ∧
      EStateM.run (Exec.effect j) m = EStateM.run (Exec.skipIf (m.skips j)) m ∧
      m.skips j = !m.skips i) ∧
    ∀ x, 16 ≤ m.reg x → m.skips (.skipFree x) = true := by
  refine ⟨?_, ?_, ?_, ?_⟩
  · intro i o hr h a
    have he := executes (m := m) hr
    rw [h] at he
    exact ⟨(he.sends rfl).unique, he.sends⟩
  · intro hpc hd hsites i hi b h
    have he := executes (m := m) hi.1
    rw [h] at he
    exact Executes.not_breach hpc hd hsites hi he
  · intro i j hij hr
    obtain ⟨happly, happly', hopposite⟩ := apply_of_opposite (m := m) hij
    have hr' : ∀ x ∈ j.registers, x < 16 := by cases hij <;> exact hr
    exact ⟨run_effect_of_skipIf hr happly, run_effect_of_skipIf hr' happly', hopposite⟩
  · intro x hx
    rw [skips, Keypad.isHeld_of_le _ hx]
    rfl

/-- A register holds a number that is no key, and a key is held. -/
theorem no_key_is_free :
    let m := (boot {} .loaded).obeyAll [.setRegister 3 0x42, .press 2]
    m.skips (.skipFree 3) = true ∧ m.skips (.skipHeld 3) = false ∧
      (m.execute (.skipFree 3)).machine.pc.toNat = 0x204 ∧
      (m.execute (.skipHeld 3)).machine.pc.toNat = 0x202 ∧
      ∀ b, (m.execute .leave).result ≠ .error (.breach b) := by
  intro m
  have hr : ∀ x ∈ [(3 : UInt8)], x < 16 := by simp
  have hpc : m.pc.toNat = 0x200 := by decide +kernel
  obtain ⟨hsends, hbreach, hopposite, hfree⟩ := counter_follows_table m
  have hskips : m.skips (.skipFree 3) = true := hfree 3 (by decide +kernel)
  have hstays : m.skips (.skipHeld 3) = false := by
    obtain ⟨-, -, hnot⟩ := hopposite _ _ (.key (x := 3)) hr
    simpa only [Bool.not_eq_true'] using hnot.symm.trans hskips
  refine ⟨hskips, hstays, ?_, ?_, ?_⟩
  · rw [(hsends (.skipFree 3) _ hr rfl _).1 (.skip hskips), hpc]
  · rw [(hsends (.skipHeld 3) _ hr rfl _).1 (.next rfl hstays nofun), hpc]
  · have hnone : m.stack.active = [] := rfl
    have hleave : Instruction.leave.InRange := ⟨nofun, nofun, by decide⟩
    exact hbreach (by rw [hpc]; decide) (by decide) (by rw [hnone]; exact nofun) .leave hleave

end Machine

end Chip8
