import Chip8.Proofs.Machine.Step
import Chip8.Proofs.Play

/-!
# The machines that a program can bring about

A program moves its program counter by words, by jumps to addresses of twelve bits with at most a
byte added, and by returns behind calls, and it was fetched where it made those calls. No single one
of these bounds is kept without the others, so `Machine.Sound` holds them together: the program
counter, the addresses on the call stack, its depth, and the fact that a machine waiting for a key
stands at the key wait.

* `Sound.current_of_due` — the instruction that is due is the one at the program counter;
* `Sound.step`, `Sound.step_ne_breach` — a step keeps a machine sound and never breaches;
* `Sound.eq_of_error` — a step that fails only halts it;
* `sound_play` — so does each game on a machine that has just been started.
-/

namespace Chip8

/-- At most sixteen calls are open, and each slot holds an address that was fetched from. -/
structure CallStack.Sound (s : CallStack) : Prop where
  /-- the call stack does not overflow -/
  depth_le : s.depth ≤ 16
  /-- a word lies at the address in each slot -/
  slots_le : ∀ k (h : k < 16), s.slots[k].toNat ≤ 0xFFE

namespace CallStack.Sound

variable {s t : CallStack} {site pc : Addr}

theorem empty : CallStack.empty.Sound where
  depth_le := by decide
  slots_le := by
    intro k h
    simp only [CallStack.empty, Vector.getElem_replicate]
    decide

theorem push (h : s.Sound) (hs : site.toNat ≤ 0xFFE) (hp : s.push site = .ok t) : t.Sound := by
  obtain ⟨hd, rfl⟩ := push_eq_ok_iff.1 hp
  refine ⟨hd, ?_⟩
  intro k hk
  rw [Vector.getElem_set]
  split
  · exact hs
  · exact h.slots_le k hk

theorem pop (h : s.Sound) (hp : s.pop pc = .ok (site, t)) : t.Sound ∧ site.toNat ≤ 0xFFE := by
  obtain ⟨hd, hs, hsite⟩ := pop_eq_ok_iff.1 hp
  have hle := h.depth_le
  have hlt : t.depth < 16 := by omega
  rw [Vector.getElem?_eq_getElem hlt] at hsite
  refine ⟨⟨by omega, ?_⟩, ?_⟩
  · rw [hs]
    exact h.slots_le
  · rw [← Option.some.inj hsite]
    exact h.slots_le _ hlt

end CallStack.Sound

namespace Machine

/-- What holds of each machine that a program can bring about. -/
structure Sound (m : Machine) : Prop where
  /-- the program counter is at most where a jump with an offset leads -/
  pc_le : m.pc.toNat ≤ 0x10FE
  /-- so is the call stack -/
  stack : m.stack.Sound
  /-- a machine that waits for a key stands at the key wait -/
  awaits : ∀ x, m.status = .awaitingKey x → m.current = .ok (.awaitKey x)

variable {m n : Machine} {i : Instruction} {e : Failure}

/-- A whole word lies at the program counter if an instruction does. -/
theorem pc_le_of_current (h : m.current = .ok i) : m.pc.toNat ≤ 0xFFE := by
  obtain ⟨w, hw, -⟩ := bind_eq_ok_iff.1 h
  have hlt : m.pc.toNat + 1 < 4096 := Memory.lt_size_of_fetch hw
  omega

/-- The instruction that is due is the one at the program counter. -/
theorem Sound.current_of_due (h : m.Sound) (hd : m.due = .ok i) : m.current = .ok i := by
  rw [due] at hd
  split at hd
  · exact hd
  · next x hs =>
    cases hd
    exact h.awaits x hs
  · cases hd

/-- The register that a machine waits for exists. -/
theorem Sound.awaits_lt (h : m.Sound) : ∀ x, m.status = .awaitingKey x → x < 16 := by
  intro x hs
  exact (inRange_of_current (h.awaits x hs)).1 x (List.mem_singleton.2 rfl)

/-! ## One effect -/

/-- Moving on from an address of twelve bits is never refused. -/
theorem ahead_ne_error {a : Addr} {d : Nat} (ha : a.toNat ≤ 0x1000) (hd : d ≤ 256) :
    a.ahead d ≠ .error e := by
  intro h
  obtain ⟨hlt, -⟩ := Addr.ahead_eq_error_iff.1 h
  omega

/-- What an effect leaves of a sound machine when the instruction lies at the program counter. -/
theorem Sound.flows (h : m.Sound) (hi : m.current = .ok i) (hf : m.Flows i n) :
    n.stack.Sound ∧ n.status = m.status ∧
      n.pc.toNat ≤ if i.isControlFlow then 0x10FE else 0x1000 := by
  have hpc := pc_le_of_current hi
  have hrange := inRange_of_current hi
  -- only a return looks at the call stack, and only a jump with an offset goes past `0x1000`
  cases hf with
  | @leave site pc stack hs hp =>
    obtain ⟨hstack, hsite⟩ := h.stack.pop hs
    have hsum := Addr.ahead_eq_ok_iff.1 hp
    refine ⟨hstack, rfl, ?_⟩
    simp only [Instruction.isControlFlow, if_true]
    omega
  | @call target stack hs =>
    have ht : target < 4096 := hrange.2.1 target rfl
    have ht' : target.toNat < 4096 := ht
    refine ⟨h.stack.push hpc hs, rfl, ?_⟩
    simp only [Instruction.isControlFlow, if_true]
    omega
  | @jump target =>
    have ht : target < 4096 := hrange.2.1 target rfl
    have ht' : target.toNat < 4096 := ht
    refine ⟨h.stack, rfl, ?_⟩
    simp only [Instruction.isControlFlow, if_true]
    omega
  | @offset base pc hp =>
    have hb : base < 4096 := hrange.2.1 base rfl
    have hb' : base.toNat < 4096 := hb
    have hv := (m.reg 0).toNat_lt
    have hsum := Addr.ahead_eq_ok_iff.1 hp
    refine ⟨h.stack, rfl, ?_⟩
    simp only [Instruction.isControlFlow, if_true]
    omega
  | @skip _ pc hcf hp =>
    have hsum := Addr.ahead_eq_ok_iff.1 hp
    refine ⟨h.stack, rfl, ?_⟩
    simp only [hcf, Bool.false_eq_true, if_false]
    omega
  | stay hcf hsame =>
    refine ⟨?_, hsame.status, ?_⟩
    · rw [hsame.stack]
      exact h.stack
    · rw [hsame.pc, hcf]
      simp only [Bool.false_eq_true, if_false]
      omega

/-! ## One instruction -/

/-- Carrying out the instruction at the program counter keeps a machine sound. -/
theorem Sound.executes {o : Outcome} (h : m.Sound) (hi : m.current = .ok i)
    (he : m.Executes i (.ok o) n) : n.Sound := by
  have hpc := pc_le_of_current hi
  cases he with
  | @done m₁ _ hk ha hm =>
    obtain ⟨hstack, hstatus, hpc₁⟩ := h.flows hi (Machine.flows ha)
    obtain ⟨pc, rfl, hsum⟩ := pc_of_moveOn hm
    refine ⟨?_, hstack, ?_⟩
    · show pc.toNat ≤ 0x10FE
      cases hcf : i.isControlFlow <;>
        simp only [hcf, if_true, Bool.false_eq_true, if_false] at hpc₁ hsum <;> omega
    · -- only the key wait starts to wait
      intro x hx
      rw [h.awaits x (hstatus.symm.trans hx)] at hi
      cases hi
      exact absurd rfl (hk x)
  | @waits x hw hl =>
    subst hw
    refine ⟨h.pc_le, h.stack, ?_⟩
    intro y hy
    cases hy
    exact hi
  | @takes x key pc hw hl hp =>
    have hsum := Addr.ahead_eq_ok_iff.1 hp
    refine ⟨?_, h.stack, ?_⟩
    · show pc.toNat ≤ 0x10FE
      omega
    · intro y hy
      cases hy

/-- What is not control flow takes the program counter no further than to the next word. -/
theorem Flows.pc_le (hf : m.Flows i n) (hi : i.isControlFlow = false) :
    n.pc.toNat ≤ m.pc.toNat + 2 := by
  cases hf with
  | leave | call | jump | offset => cases hi
  | @skip _ pc hcf hp =>
    have hsum : pc.toNat = m.pc.toNat + 2 := Addr.ahead_eq_ok_iff.1 hp
    exact Nat.le_of_eq hsum
  | stay hcf hsame =>
    rw [hsame.pc]
    exact Nat.le_add_right _ _

/-- Of the instructions that lie at the program counter, only a return can leave the addresses of
sixteen bits: it does if there is nothing behind the newest call. -/
theorem leave_of_breach {b : Breach} (hd : m.stack.depth ≤ 16) (hi : m.current = .ok i)
    (he : m.Executes i (.error (.breach b)) n) :
    i = .leave ∧ ∃ site stack, m.stack.pop m.pc = .ok (site, stack) ∧
      site.ahead 2 = .error (.breach b) := by
  have hpc := pc_le_of_current hi
  cases he with
  | refused hk ha =>
    cases refuses hd (inRange_of_current hi).1 ha with
    | site hs hp => exact ⟨rfl, _, _, hs, hp⟩
    | @offset base _ hp =>
      have hb : base < 4096 := (inRange_of_current hi).2.1 base rfl
      have hb' : base.toNat < 4096 := hb
      have hv := (m.reg 0).toNat_lt
      exact absurd hp (ahead_ne_error (by omega) (by omega))
    | skip hcf hp => exact absurd hp (ahead_ne_error (by omega) (by decide))
  | overrun hk ha hm =>
    rcases hcf : i.isControlFlow with - | -
    · have hle := (Machine.flows ha).pc_le hcf
      have hlt := (breach_of_moveOn hm).1
      omega
    · rw [moveOn, if_pos hcf] at hm
      cases hm
  | stuck hw hl hp => exact absurd hp (ahead_ne_error (by omega) (by decide))

/-- Carrying out the instruction at the program counter never leaves the addresses of sixteen
bits. -/
theorem Sound.not_breach {b : Breach} (h : m.Sound) (hi : m.current = .ok i) :
    ¬m.Executes i (.error (.breach b)) n := by
  intro he
  obtain ⟨-, site, stack, hs, hp⟩ := leave_of_breach h.stack.depth_le hi he
  obtain ⟨-, hsite⟩ := h.stack.pop hs
  exact ahead_ne_error (by omega) (by decide) hp

/-! ## One step, and a game -/

/-- A sound machine stays sound when it halts. -/
theorem Sound.halt (h : m.Sound) : Sound { m with status := .halted } :=
  ⟨h.pc_le, h.stack, fun x hx => by cases hx⟩

/-- **A step keeps a machine sound.** -/
theorem Sound.step (h : m.Sound) : m.step.machine.Sound := by
  have hs := steps h.awaits_lt
  generalize m.step.result = r at hs
  generalize m.step.machine = n at hs
  cases hs with
  | idle hd => exact h.halt
  | carried hd he => exact h.executes (h.current_of_due hd) he
  | faulted hd he =>
    rw [he.eq_of_fault]
    exact h.halt
  | breached hd he => exact absurd he (h.not_breach (h.current_of_due hd))

/-- **A step of a sound machine never breaches.** -/
theorem Sound.step_ne_breach (h : m.Sound) (b : Breach) : m.step.result ≠ .error (.breach b) := by
  intro hb
  have hs := steps h.awaits_lt
  rw [hb] at hs
  cases hs with
  | breached hd he => exact h.not_breach (h.current_of_due hd) he

/-- A step that fails does nothing but halt a sound machine. -/
theorem Sound.eq_of_error (h : m.Sound) (he : m.step.result = .error e) :
    m.step.machine = { m with status := .halted } := by
  have hs := steps h.awaits_lt
  rw [he] at hs
  generalize m.step.machine = n at hs
  cases hs with
  | idle hd => rfl
  | faulted hd hi => rw [hi.eq_of_fault]
  | breached hd hi => exact absurd hi (h.not_breach (h.current_of_due hd))

theorem Sound.act (h : m.Sound) (a : Action) : (m.act a).machine.Sound := by
  cases a
  case step =>
    rw [machine_act_step]
    exact h.step
  all_goals exact ⟨h.pc_le, h.stack, h.awaits⟩

/-- A machine that has just been started is sound. -/
theorem sound_start {program : List UInt8} {dialect : Dialect} {dice : Dice}
    (h : (start program dialect dice).result = .ok m) : m.Sound := by
  obtain ⟨-, rfl⟩ := start_eq_ok_iff.1 h
  refine ⟨?_, .empty, fun x hx => by cases hx⟩
  show (UInt16.ofNat Memory.programStart).toNat ≤ 0x10FE
  decide

/-- The machines that are asked for a step are as sound as the first one. -/
theorem Sound.of_mem_asked {actions : List Action} (h : m.Sound) (hn : n ∈ m.asked actions) :
    n.Sound := by
  obtain ⟨earlier, rfl⟩ := exists_play_of_mem_asked hn
  exact play_induction h (fun _ a hm => hm.act a) earlier

/-- **Each game is played on sound machines.** -/
theorem sound_play {program : List UInt8} {dialect : Dialect} {dice : Dice}
    (h : (start program dialect dice).result = .ok m) (actions : List Action) :
    (m.play actions).Sound :=
  play_induction (sound_start h) (fun _ a hm => hm.act a) actions

end Machine

end Chip8
