import Chip8.Proofs.Halting
import Chip8.Proofs.Instruction.Table
import Chip8.Proofs.Machine.Sound

/-!
# When a step fails

Whether the next step of a running machine fails, and with which fault, can be told from the word at
the program counter, the depth of the call stack and the index, without carrying anything out. There
are five reasons (`Machine.Fails`), of which no two hold at once. A sixth way of not succeeding is
no fault: a return to one of the last two addresses has no place to go on at. No program brings this
about, since it cannot make a call from there, but a debugger can write such an address into the
call stack.

* `Machine.StandsAt` — the instruction at the program counter, going by the table;
* `Machine.Fails`, `Machine.Strands` — why a step does not succeed;
* `step_fault_iff_fails`, `step_breach_iff_strands` — what makes a step not succeed;
* `Fails.unique` — the reasons exclude each other;
* `step_fails_exactly` — a step succeeds without halting the machine if there is no such reason.
-/

namespace Chip8

namespace CallStack

variable {s : CallStack} {site : Addr}

/-- Closing a call gives back where the newest one came from. -/
theorem pop_of_getLast? (pc : Addr) (hd : s.depth ≤ 16) (h : s.active.getLast? = some site) :
    ∃ t, s.pop pc = .ok (site, t) := by
  rcases hp : s.pop pc with e | ⟨newest, t⟩
  · obtain ⟨h0, -⟩ := (pop_eq_error_iff hd).1 hp
    rw [(active_eq_nil_iff hd).2 h0] at h
    cases h
  · rw [active_pop hp, List.getLast?_concat] at h
    cases h
    exact ⟨t, rfl⟩

end CallStack

/-- Only a sprite without rows is a span without bytes. -/
theorem Instruction.draw_of_span? {i : Instruction} (h : i.span? = some 0) :
    ∃ x y, i = .draw x y 0 := by
  cases i <;> simp only [span?, reduceCtorEq, Option.some.injEq, Nat.add_one_ne_zero] at h
  case draw x y height => exact ⟨x, y, by rw [UInt8.toNat_inj.1 (h.trans UInt8.toNat_zero.symm)]⟩

namespace Machine

/-- The word at the program counter is the table entry of an instruction whose operands fit. -/
structure StandsAt (m : Machine) (i : Instruction) : Prop where
  /-- the operands fit -/
  inRange : i.InRange
  /-- its word is at the program counter -/
  fetched : m.memory.fetch m.pc = .ok i.encode

/-- Why the next step of a running machine fails. -/
inductive Fails (m : Machine) : Fault → Prop
  /-- the program counter is past the last word -/
  | counter (h : 4094 < m.pc.toNat) : Fails m (.counterOutOfRange m.pc)
  /-- the word at the program counter is in no row of the table -/
  | opcode {w : Word} (hw : m.memory.fetch m.pc = .ok w)
      (hi : ∀ i : Instruction, i.InRange → i.encode ≠ w) : Fails m (.unknownOpcode w)
  /-- a return with no call open -/
  | underflow (hi : m.StandsAt .leave) (h : m.stack.depth = 0) : Fails m (.stackUnderflow m.pc)
  /-- a call with sixteen calls open -/
  | overflow {target : Addr} (hi : m.StandsAt (.call target)) (h : m.stack.depth = 16) :
      Fails m (.stackOverflow m.pc)
  /-- the bytes at the index reach past the end of memory -/
  | span {i : Instruction} {length : Nat} (hi : m.StandsAt i) (hs : i.span? = some length)
      (h0 : length ≠ 0) (h : 4096 < m.index.toNat + length) :
      Fails m (.addressOutOfBounds (m.index.toNat + length - 1))

/-- The machine stands at a return to one of the last two addresses, with nothing behind it. -/
def Strands (m : Machine) : Prop :=
  m.StandsAt .leave ∧ ∃ site, m.stack.active.getLast? = some site ∧ 0xFFFE ≤ site.toNat

variable {m : Machine} {i : Instruction} {f : Fault}

/-! ## The instruction that is due -/

theorem current_eq_ok_iff : m.current = .ok i ↔ m.StandsAt i := by
  rw [current, bind_eq_ok_iff]
  constructor
  · rintro ⟨w, hw, hi⟩
    obtain ⟨hrange, rfl⟩ := Instruction.decode_eq_ok_iff.1 hi
    exact ⟨hrange, hw⟩
  · rintro ⟨hrange, hw⟩
    exact ⟨_, hw, Instruction.decode_eq_ok_iff.2 ⟨hrange, rfl⟩⟩

/-- A machine stands at the instruction that the two bytes at the program counter are decoded to. -/
theorem standsAt_of_get? {high low : UInt8} (hhigh : m.memory.get? m.pc.toNat = some high)
    (hlow : m.memory.get? (m.pc.toNat + 1) = some low)
    (hi : Instruction.decode? (.ofBytes high low) = some i) : m.StandsAt i where
  inRange := Instruction.inRange_of_decode? hi
  fetched := by
    rw [Instruction.encode_of_decode? hi]
    exact Instruction.fetch_of_get? hhigh hlow

theorem due_of_running (hs : m.status = .running) : m.due = m.current := by rw [due, hs]

theorem not_awaiting_of_running (hs : m.status = .running) :
    ∀ x, m.status = .awaitingKey x → x < 16 := by
  intro x hx
  cases hs.symm.trans hx

/-- No instruction is at the program counter for one of the first two reasons. -/
theorem fails_of_current (h : m.current = .error f) : m.Fails f := by
  rcases bind_eq_error_iff.1 h with hw | ⟨w, hw, hi⟩
  · obtain ⟨hpc, rfl⟩ := Memory.fetch_eq_error_iff.1 hw
    exact .counter hpc
  · obtain ⟨rfl, hnone⟩ := Instruction.decode_eq_error_iff.1 hi
    exact .opcode hw hnone

/-- An instruction at the program counter is at fault for one of the other three. -/
theorem fails_of_apply (hd : m.stack.depth ≤ 16) (hz : ∀ x y, ¬m.StandsAt (.draw x y 0))
    (hi : m.StandsAt i) (h : m.apply i = .error (.fault f)) : m.Fails f := by
  cases refuses hd hi.inRange.1 h with
  | underflow h0 => exact .underflow hi h0
  | overflow h16 => exact .overflow hi h16
  | @span _ length hs hlt =>
    refine .span hi hs ?_ hlt
    rintro rfl
    obtain ⟨x, y, rfl⟩ := Instruction.draw_of_span? hs
    exact hz x y hi
  | site hs hp | offset hp | skip hi hp => exact absurd hp Addr.ahead_ne_fault

/-- **The faults of a step** are those that can be told beforehand. -/
theorem step_fault_iff_fails (hs : m.status = .running) (hd : m.stack.depth ≤ 16)
    (hz : ∀ x y, ¬m.StandsAt (.draw x y 0)) :
    m.step.result = .error (.fault f) ↔ m.Fails f := by
  rw [step_fault_iff (not_awaiting_of_running hs), due_of_running hs]
  constructor
  · rintro (hf | ⟨i, hi, ha⟩)
    · exact fails_of_current hf
    · exact fails_of_apply hd hz (current_eq_ok_iff.1 hi) ha
  · intro h
    -- an instruction is at fault exactly if it is refused, and the first two reasons leave none
    have hrefused {i : Instruction} (hi : m.StandsAt i) (href : m.Refuses i (.fault f)) :
        ∃ i, m.current = .ok i ∧ m.apply i = .error (.fault f) :=
      ⟨i, current_eq_ok_iff.2 hi, (apply_fault_iff hd hi.inRange.1).2 href⟩
    cases h with
    | counter hpc =>
      have hfetch : m.memory.fetch m.pc = .error (.counterOutOfRange m.pc) :=
        Memory.fetch_eq_error_iff.2 ⟨hpc, rfl⟩
      exact .inl (bind_eq_error_iff.2 (.inl hfetch))
    | opcode hw hnone =>
      have hdecode := Instruction.decode_eq_error_iff.2 ⟨rfl, hnone⟩
      exact .inl (bind_eq_error_iff.2 (.inr ⟨_, hw, hdecode⟩))
    | underflow hi h0 => exact .inr (hrefused hi (.underflow h0))
    | overflow hi h16 => exact .inr (hrefused hi (.overflow h16))
    | span hi hspan h0 hlt => exact .inr (hrefused hi (.span hspan hlt))

/-- The reasons exclude each other, since a step has one result. -/
theorem Fails.unique {g : Fault} (hs : m.status = .running) (hd : m.stack.depth ≤ 16)
    (hz : ∀ x y, ¬m.StandsAt (.draw x y 0)) (hf : m.Fails f) (hg : m.Fails g) : f = g := by
  have hresult := (step_fault_iff_fails hs hd hz).2 hf
  rw [(step_fault_iff_fails hs hd hz).2 hg] at hresult
  cases hresult
  rfl

/-! ## Returns with nothing behind them -/

theorem ahead_two_eq_error_iff {site : Addr} {e : Failure} :
    site.ahead 2 = .error e ↔ 0xFFFE ≤ site.toNat ∧ e = .breach (.address site 2) := by
  rw [Addr.ahead_eq_error_iff]
  exact and_congr_left fun _ => ⟨fun h => by omega, fun h => by omega⟩

/-- A return with nothing behind it has no effect. -/
theorem Strands.apply (h : m.Strands) (hd : m.stack.depth ≤ 16) :
    ∃ b, m.apply .leave = .error (.breach b) := by
  obtain ⟨-, site, hsite, hle⟩ := h
  obtain ⟨t, hp⟩ := CallStack.pop_of_getLast? m.pc hd hsite
  have hahead := ahead_two_eq_error_iff.2 ⟨hle, rfl⟩
  exact ⟨_, bind_eq_error_iff.2 (.inr ⟨_, hp, map_eq_error_iff.2 hahead⟩)⟩

/-- **A step neither succeeds nor is at fault** exactly if it is such a return. -/
theorem step_breach_iff_strands (hs : m.status = .running) (hd : m.stack.depth ≤ 16) :
    (∃ b, m.step.result = .error (.breach b)) ↔ m.Strands := by
  constructor
  · rintro ⟨b, hb⟩
    have hsteps := steps (not_awaiting_of_running hs)
    rw [hb] at hsteps
    generalize m.step.machine = n at hsteps
    cases hsteps with
    | breached hdue he =>
      rw [due_of_running hs] at hdue
      obtain ⟨rfl, site, stack, hp, hahead⟩ := leave_of_breach hd hdue he
      have hsite : m.stack.active.getLast? = some site := by
        rw [CallStack.active_pop hp, List.getLast?_concat]
      exact ⟨current_eq_ok_iff.1 hdue, site, hsite, (ahead_two_eq_error_iff.1 hahead).1⟩
  · intro h
    obtain ⟨b, ha⟩ := h.apply hd
    have hdue : m.due = .ok .leave := by
      rw [due_of_running hs]
      exact current_eq_ok_iff.2 h.1
    obtain ⟨log, hlog⟩ := step_of_due hdue
    have he := executes (m := m) h.1.inRange.1
    refine ⟨b, ?_⟩
    rw [hlog, result_settle]
    exact he.result_of_refused ha

/-! ## Steps -/

/-- A successful step does not halt the machine. -/
theorem not_halted_of_step {o : Outcome} (hs : m.status = .running)
    (h : m.step.result = .ok o) : m.step.machine.status ≠ .halted := by
  have hsteps := steps (not_awaiting_of_running hs)
  rw [h] at hsteps
  generalize m.step.machine = n at hsteps ⊢
  cases hsteps with
  | carried hdue he =>
    intro hn
    cases hs.symm.trans (he.halted_iff.1 hn).1

/-- **When a step fails.** With at most sixteen calls open, the next step of a running machine that
does not stand at a sprite without rows is at fault for exactly the reasons of `Fails`, with the
fault that goes with the reason, and there is no more than one. If there is none, it succeeds and
leaves a machine that has not halted, unless the machine stands at a return with nothing behind it,
and exactly then it has neither outcome nor fault. -/
theorem step_fails_exactly {m : Machine} (hs : m.status = .running) (hd : m.stack.depth ≤ 16)
    (hz : ∀ x y, ¬m.StandsAt (.draw x y 0)) :
    (∀ f, m.step.result = .error (.fault f) ↔ m.Fails f) ∧
    (∀ f g, m.Fails f → m.Fails g → f = g) ∧
    ((∃ b, m.step.result = .error (.breach b)) ↔ m.Strands) ∧
    ((∀ f, ¬m.Fails f) → ¬m.Strands →
      ∃ o, m.step.result = .ok o ∧ m.step.machine.status ≠ .halted) := by
  refine ⟨fun f => step_fault_iff_fails hs hd hz, fun f g hf hg => hf.unique hs hd hz hg,
    step_breach_iff_strands hs hd, ?_⟩
  intro hfails hstrands
  rcases hr : m.step.result with (f | b) | o
  · exact absurd ((step_fault_iff_fails hs hd hz).1 hr) (hfails f)
  · exact absurd ((step_breach_iff_strands hs hd).1 ⟨b, hr⟩) hstrands
  · exact ⟨o, rfl, not_halted_of_step hs hr⟩

/-- A machine does not stand at two instructions. -/
theorem StandsAt.unique {j : Instruction} (hi : m.StandsAt i) (hj : m.StandsAt j) : i = j :=
  Except.ok.inj ((current_eq_ok_iff.2 hi).symm.trans (current_eq_ok_iff.2 hj))

/-- A machine that is to store two registers at the last address of memory. -/
theorem store_past_memory_fails :
    let m := (boot {} .loaded).obeyAll [.load [0xF1, 0x55], .setIndex 0xFFF]
    m.status = .running ∧ m.stack.depth ≤ 16 ∧ (∀ x y, ¬m.StandsAt (.draw x y 0)) ∧
      m.Fails (.addressOutOfBounds 0x1000) ∧
      m.step.result = .error (.fault (.addressOutOfBounds 0x1000)) := by
  intro m
  have hhigh : m.memory.get? m.pc.toNat = some 0xF1 := by decide +kernel
  have hlow : m.memory.get? (m.pc.toNat + 1) = some 0x55 := by decide +kernel
  have hi : m.StandsAt (.storeRegisters 1) := standsAt_of_get? hhigh hlow (by decide +kernel)
  have hz : ∀ x y, ¬m.StandsAt (.draw x y 0) := fun x y h => nomatch hi.unique h
  have hfails : m.Fails (.addressOutOfBounds 0x1000) := .span hi rfl (by decide) (by decide)
  have hd : m.stack.depth ≤ 16 := by decide
  exact ⟨rfl, hd, hz, hfails, ((step_fails_exactly rfl hd hz).1 _).2 hfails⟩

/-- **A poked return has no outcome.** A debugger writes the last address there is into the call
stack of a machine that stands at a return. There is no reason for the next step to fail, and all
the same it does not succeed. -/
theorem poked_return_has_no_outcome :
    ¬∀ m : Machine, m.status = .running → m.stack.depth ≤ 16 →
      (∀ x y, ¬m.StandsAt (.draw x y 0)) →
      (∀ f, m.step.result = .error (.fault f) ↔ m.Fails f) ∧
      ((∀ f, ¬m.Fails f) → ∃ o, m.step.result = .ok o ∧ m.step.machine.status ≠ .halted) := by
  intro h
  let m := (boot {} .loaded).obeyAll [.load [0x00, 0xEE], .setSlot 0 0xFFFF, .setDepth 1]
  have hhigh : m.memory.get? m.pc.toNat = some 0x00 := by decide +kernel
  have hlow : m.memory.get? (m.pc.toNat + 1) = some 0xEE := by decide +kernel
  have hi : m.StandsAt .leave := standsAt_of_get? hhigh hlow (by decide +kernel)
  have hz : ∀ x y, ¬m.StandsAt (.draw x y 0) := fun x y hdraw => nomatch hi.unique hdraw
  have hstrands : m.Strands := ⟨hi, 0xFFFF, by decide +kernel, by decide⟩
  have hd : m.stack.depth ≤ 16 := by decide
  obtain ⟨b, hb⟩ := (step_breach_iff_strands rfl hd).2 hstrands
  obtain ⟨hfault, hsuccess⟩ := h m rfl hd hz
  -- a fault would be the result of the step in place of `b`
  have hfails : ∀ f, ¬m.Fails f := fun f hf => nomatch hb.symm.trans ((hfault f).2 hf)
  obtain ⟨o, ho, -⟩ := hsuccess hfails
  cases hb.symm.trans ho

end Machine

end Chip8
