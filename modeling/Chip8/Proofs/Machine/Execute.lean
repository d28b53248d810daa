import Chip8.Proofs.Machine.Flow

/-!
# What carrying out an instruction comes to

`Machine.Executes m i r n` says that carrying out `i` on `m` has the result `r` and leaves `n`. Its
constructors are all the ways this can go, each with the conditions under which it does, so a case
split on `Machine.executes` replaces looking into `Machine.execute`.

* `executes` — carrying out an instruction goes one of the ways of `Executes`;
* `pc_of_moveOn`, `breach_of_moveOn` — the way to the next word;
* `Executes.unique` — the ways exclude each other;
* `exists_execute` — what stays in place is the effect;
* `Executes.result_of_refused` — what cannot have its effect fails;
* `Executes.eq_of_fault`, `Executes.overflows_of_breach` — the two ways of failing.
-/

namespace Chip8

/-- The outcome of an instruction that was carried out without waiting. -/
def Instruction.outcome (i : Instruction) : Outcome :=
  if i = .breakpoint then .breakpoint else .executed i

/-- A sum of an address and a distance does not fit in sixteen bits. -/
def Breach.Overflows (b : Breach) : Prop :=
  ∃ a distance, b = .address a distance ∧ 0x10000 ≤ a.toNat + distance

namespace Machine

/-- The machine behind an instruction: at the next word, unless the instruction placed the program
counter itself. -/
def moveOn (m : Machine) (i : Instruction) : Except Failure Machine :=
  if i.isControlFlow then .ok m else m.advance

/-- Carrying out an instruction has a result and leaves a machine. -/
inductive Executes (m : Machine) (i : Instruction) : Except Failure Outcome → Machine → Prop
  /-- the instruction has its effect and is left behind -/
  | done {m₁ m₂ : Machine} (hk : ∀ x, i ≠ .awaitKey x) (ha : m.apply i = .ok m₁)
      (hm : m₁.moveOn i = .ok m₂) : Executes m i (.ok i.outcome) m₂
  /-- the instruction cannot have its effect -/
  | refused {e : Failure} (hk : ∀ x, i ≠ .awaitKey x) (ha : m.apply i = .error e) :
      Executes m i (.error e) m
  /-- there is no next word to move on to -/
  | overrun {m₁ : Machine} {e : Failure} (hk : ∀ x, i ≠ .awaitKey x) (ha : m.apply i = .ok m₁)
      (hm : m₁.moveOn i = .error e) : Executes m i (.error e) m₁
  /-- no key is held -/
  | waits {x : UInt8} (hi : i = .awaitKey x) (hl : m.keypad.lowest? = none) :
      Executes m i (.ok .awaitingKey) { m with status := .awaitingKey x }
  /-- the lowest held key goes into the register -/
  | takes {x key : UInt8} {pc : Addr} (hi : i = .awaitKey x) (hl : m.keypad.lowest? = some key)
      (hp : m.pc.ahead 2 = .ok pc) :
      Executes m i (.ok (.executed i)) { m.setRegister x key with pc, status := .running }
  /-- a key is held, but there is no next word to move on to -/
  | stuck {x key : UInt8} {e : Failure} (hi : i = .awaitKey x)
      (hl : m.keypad.lowest? = some key) (hp : m.pc.ahead 2 = .error e) :
      Executes m i (.error e) { m.setRegister x key with status := .awaitingKey x }

variable {m n : Machine} {i : Instruction}

/-- Running the way to the next word is `Machine.moveOn`. -/
theorem run_moveOn (o : Outcome) :
    EStateM.run (do
      unless i.isControlFlow do Exec.advance
      return o) m =
      match m.moveOn i with
      | .ok next => .ok o next
      | .error e => .error e m := by
  rw [moveOn]
  cases i.isControlFlow
  · simp only [Bool.false_eq_true, if_false, EStateM.run_bind, Exec.run_advance]
    rcases m.advance with e | next <;> rfl
  · rfl

/-- Moving on adds a word, unless the instruction placed the program counter itself. -/
theorem pc_of_moveOn (h : m.moveOn i = .ok n) :
    ∃ pc, n = { m with pc } ∧ pc.toNat = m.pc.toNat + if i.isControlFlow then 0 else 2 := by
  rw [moveOn] at h
  split at h
  · next hi =>
    cases h
    exact ⟨m.pc, rfl, by rw [if_pos hi]; rfl⟩
  · next hi =>
    obtain ⟨pc, hp, rfl⟩ := map_eq_ok_iff.1 h
    exact ⟨pc, rfl, by rw [if_neg hi]; exact Addr.ahead_eq_ok_iff.1 hp⟩

/-- Moving on fails only past the last address, and never with a fault. -/
theorem breach_of_moveOn {e : Failure} (h : m.moveOn i = .error e) :
    0x10000 ≤ m.pc.toNat + 2 ∧ e = .breach (.address m.pc 2) := by
  rw [moveOn] at h
  split at h
  · cases h
  · exact Addr.ahead_eq_error_iff.1 (map_eq_error_iff.1 h)

/-- Carrying out an instruction other than the key wait is its effect and the way to the next
word. -/
theorem perform_eq (hk : ∀ x, i ≠ .awaitKey x) :
    Exec.perform i = do
      Exec.effect i
      unless i.isControlFlow do Exec.advance
      return i.outcome := by
  cases i
  case awaitKey x => exact absurd rfl (hk x)
  all_goals rfl

/-- **Carrying out an instruction** whose registers exist goes one of the ways of `Executes`. -/
theorem executes (hr : ∀ x ∈ i.registers, x < 16) :
    m.Executes i (m.execute i).result (m.execute i).machine := by
  by_cases hw : ∃ x, i = .awaitKey x
  · obtain ⟨x, rfl⟩ := hw
    have hx : x < 16 := hr x (by simp [Instruction.registers])
    simp only [execute, run, Exec.perform, Exec.poll, EStateM.run_bind, EStateM.run_modify,
      EStateM.run_get]
    rcases hl : m.keypad.lowest? with _ | key
    · exact .waits rfl hl
    · simp only [EStateM.run_bind, Exec.run_setReg _ hx, Exec.run_advance, advance, pc_setRegister]
      rcases hp : m.pc.ahead 2 with e | pc
      · exact .stuck rfl hl hp
      · exact .takes rfl hl hp
  · -- all others have their effect first and then move on
    have hk : ∀ x, i ≠ .awaitKey x := fun x hx => hw ⟨x, hx⟩
    rw [execute, run, perform_eq hk, EStateM.run_bind, Exec.run_effect m hr]
    rcases ha : m.apply i with e | m₁
    · exact .refused hk ha
    · simp only [Exec.fallback]
      rw [run_moveOn]
      rcases hm : m₁.moveOn i with e | m₂
      · exact .overrun hk ha hm
      · exact .done hk ha hm

/-- What the journal is told of an instruction has nothing to do with how it goes. -/
theorem log_execute : (m.execute i).log = if i = .breakpoint then [.breakpoint m.pc] else [] := by
  rw [execute, run]
  split <;> rfl

/-- **The ways of `Executes` exclude each other**, so there is one result, and one machine that is
left. -/
theorem Executes.unique {r r' : Except Failure Outcome} {n' : Machine} (he : m.Executes i r n)
    (he' : m.Executes i r' n') : r' = r ∧ n' = n := by
  cases he with
  | done hk ha hm =>
    cases he' with
    | done hk' ha' hm' =>
      cases ha.symm.trans ha'
      cases hm.symm.trans hm'
      exact ⟨rfl, rfl⟩
    | refused hk' ha' => cases ha.symm.trans ha'
    | overrun hk' ha' hm' =>
      cases ha.symm.trans ha'
      cases hm.symm.trans hm'
    | waits hi | takes hi | stuck hi => exact absurd hi (hk _)
  | refused hk ha =>
    cases he' with
    | refused hk' ha' =>
      cases ha.symm.trans ha'
      exact ⟨rfl, rfl⟩
    | done hk' ha' | overrun hk' ha' => cases ha.symm.trans ha'
    | waits hi | takes hi | stuck hi => exact absurd hi (hk _)
  | overrun hk ha hm =>
    cases he' with
    | overrun hk' ha' hm' =>
      cases ha.symm.trans ha'
      cases hm.symm.trans hm'
      exact ⟨rfl, rfl⟩
    | done hk' ha' hm' =>
      cases ha.symm.trans ha'
      cases hm.symm.trans hm'
    | refused hk' ha' => cases ha.symm.trans ha'
    | waits hi | takes hi | stuck hi => exact absurd hi (hk _)
  | waits hi hl =>
    cases he' with
    | waits hi' hl' =>
      cases hi.symm.trans hi'
      exact ⟨rfl, rfl⟩
    | takes hi' hl' | stuck hi' hl' => cases hl.symm.trans hl'
    | done hk | refused hk | overrun hk => exact absurd hi (hk _)
  | takes hi hl hp =>
    cases he' with
    | takes hi' hl' hp' =>
      cases hi.symm.trans hi'
      cases hl.symm.trans hl'
      cases hp.symm.trans hp'
      exact ⟨rfl, rfl⟩
    | waits hi' hl' => cases hl.symm.trans hl'
    | stuck hi' hl' hp' => cases hp.symm.trans hp'
    | done hk | refused hk | overrun hk => exact absurd hi (hk _)
  | stuck hi hl hp =>
    cases he' with
    | stuck hi' hl' hp' =>
      cases hi.symm.trans hi'
      cases hl.symm.trans hl'
      cases hp.symm.trans hp'
      exact ⟨rfl, rfl⟩
    | waits hi' hl' => cases hl.symm.trans hl'
    | takes hi' hl' hp' => cases hp.symm.trans hp'
    | done hk | refused hk | overrun hk => exact absurd hi (hk _)

/-- An instruction that has its effect leaves that behind, wherever the program counter goes. -/
theorem exists_execute (hr : ∀ x ∈ i.registers, x < 16) (hk : ∀ x, i ≠ .awaitKey x)
    (hi : i.isControlFlow = false) (ha : m.apply i = .ok n) :
    ∃ pc, (m.execute i).machine = { n with pc } ∧
      (n.pc.toNat + 2 < 0x10000 →
        (m.execute i).result = .ok i.outcome ∧ pc.toNat = n.pc.toNat + 2) := by
  have he := executes (m := m) hr
  rcases hm : n.moveOn i with f | k
  · obtain ⟨hpc, -⟩ := breach_of_moveOn hm
    obtain ⟨-, hmachine⟩ := (Executes.overrun hk ha hm).unique he
    exact ⟨n.pc, hmachine, fun hlt => absurd hpc (Nat.not_le.2 hlt)⟩
  · obtain ⟨hresult, hmachine⟩ := (Executes.done hk ha hm).unique he
    obtain ⟨pc, rfl, hpc⟩ := pc_of_moveOn hm
    rw [hi] at hpc
    exact ⟨pc, hmachine, fun _ => ⟨hresult, hpc⟩⟩

/-! ## Ways of failing -/

/-- An instruction that is at fault leaves the machine as it was. -/
theorem Executes.eq_of_fault {f : Fault} (he : m.Executes i (.error (.fault f)) n) : n = m := by
  cases he with
  | refused hk ha => rfl
  | overrun hk ha hm => cases (breach_of_moveOn hm).2
  | stuck hi hl hp => exact absurd hp Addr.ahead_ne_fault

/-- An instruction that cannot have its effect has no other result. -/
theorem Executes.result_of_refused {e : Failure} {r : Except Failure Outcome}
    (he : m.Executes i r n) (ha : m.apply i = .error e) : r = .error e := by
  have hk : ∀ x, i ≠ .awaitKey x := by
    rintro x rfl
    cases ha
  obtain ⟨hr, -⟩ := (Executes.refused hk ha).unique he
  exact hr

/-- Only a sum that does not fit in sixteen bits makes an address fail to be moved on. -/
theorem overflows_of_ahead {a : Addr} {distance : Nat} {b : Breach}
    (h : a.ahead distance = .error (.breach b)) : b.Overflows := by
  obtain ⟨hlt, hb⟩ := Addr.ahead_eq_error_iff.1 h
  exact ⟨a, distance, Failure.breach.inj hb, hlt⟩

/-- An instruction that fails without a fault has left the addresses of sixteen bits. -/
theorem Executes.overflows_of_breach {b : Breach} (hd : m.stack.depth ≤ 16)
    (hr : ∀ x ∈ i.registers, x < 16) (he : m.Executes i (.error (.breach b)) n) : b.Overflows := by
  cases he with
  | refused hk ha =>
    cases refuses hd hr ha with
    | site hs hp => exact overflows_of_ahead hp
    | offset hp => exact overflows_of_ahead hp
    | skip hi hp => exact overflows_of_ahead hp
  | overrun hk ha hm =>
    obtain ⟨hlt, hb⟩ := breach_of_moveOn hm
    exact ⟨_, _, Failure.breach.inj hb, hlt⟩
  | stuck hi hl hp => exact overflows_of_ahead hp

end Machine

end Chip8
