import Chip8.Proofs.Machine.Fits
import Chip8.Proofs.Machine.Paint
import Chip8.Proofs.Play

/-!
# No host breaks the machine

A debugger may place the program counter and the index anywhere, put any address into any slot of
the call stack, and carry out any instruction at any time. The bounds on addresses that programs
keep to do not survive this. What does survive is that at most sixteen calls are open, that a
machine waits only for registers that exist, and that its pixels are zeros and ones
(`Machine.Intact`), and this is enough: a host that names existing registers never makes the machine
use an index out of its bounds. The one thing it can provoke is an address beyond sixteen bits.

* `Intact.execute`, `Intact.step`, `Intact.obey` — instructions, steps and commands keep a machine
  intact;
* `Reachable.intact` — so each machine that commands bring about is intact;
* `Carries.fits`, `Intact.overflows_of_obey` — obeying a command uses no index out of its bounds,
  and says so;
* `commands_in_bounds` — all of this after any list of commands.
-/

namespace Chip8.Machine

/-- What holds of a machine whatever its host does to it. -/
structure Intact (m : Machine) : Prop where
  /-- the call stack does not overflow -/
  depth_le : m.stack.depth ≤ 16
  /-- the register that the machine waits for exists -/
  awaits_lt : ∀ x, m.status = .awaitingKey x → x < 16
  /-- each pixel is zero or one -/
  binary : m.screen.Binary

variable {m n k : Machine} {i : Instruction} {c : Command} {b : Breach}

theorem intact_boot (dialect : Dialect) (dice : Dice) : (boot dialect dice).Intact where
  depth_le := Nat.zero_le 16
  awaits_lt := nofun
  binary := Screen.binary_blank

/-! ## One instruction, and one step -/

/-- An effect keeps a machine intact, wherever the program counter goes from there. -/
theorem Intact.apply (h : m.Intact) (ha : m.apply i = .ok n) (pc : Addr) :
    Intact { n with pc } where
  depth_le := by
    show n.stack.depth ≤ 16
    exact (flows ha).depth_le h.depth_le
  awaits_lt := fun x hx => h.awaits_lt x ((flows ha).status.symm.trans hx)
  binary := (paints ha).binary h.binary

/-- A machine that starts to wait for an existing register is intact. -/
theorem Intact.await {x : UInt8} (h : m.Intact) (hx : x < 16) :
    Intact { m with status := .awaitingKey x } where
  depth_le := h.depth_le
  awaits_lt := by
    intro y hy
    cases hy
    exact hx
  binary := h.binary

/-- Carrying out an instruction keeps a machine intact, whether it fails or not. -/
theorem Intact.executes {r : Except Failure Outcome} (h : m.Intact)
    (hr : ∀ x ∈ i.registers, x < 16) (he : m.Executes i r n) : n.Intact := by
  cases he with
  | done hk ha hm =>
    obtain ⟨pc, rfl, -⟩ := pc_of_moveOn hm
    exact h.apply ha pc
  | refused hk ha => exact h
  | overrun hk ha hm => exact h.apply ha _
  | waits hi hl =>
    subst hi
    exact h.await (hr _ (List.mem_singleton.2 rfl))
  | takes hi hl hp => exact ⟨h.depth_le, nofun, h.binary⟩
  | @stuck x key _ hi hl hp =>
    subst hi
    have hset : (m.setRegister x key).Intact := ⟨h.depth_le, h.awaits_lt, h.binary⟩
    exact hset.await (hr _ (List.mem_singleton.2 rfl))

theorem Intact.execute (h : m.Intact) (hr : ∀ x ∈ i.registers, x < 16) :
    (m.execute i).machine.Intact :=
  h.executes hr (Machine.executes hr)

/-- **A step keeps a machine intact.** -/
theorem Intact.step (h : m.Intact) : m.step.machine.Intact := by
  have hs := steps h.awaits_lt
  generalize m.step.result = r at hs
  generalize m.step.machine = n at hs
  cases hs with
  | idle hd => exact ⟨h.depth_le, nofun, h.binary⟩
  | carried hd he => exact h.executes (registers_lt_of_due h.awaits_lt hd) he
  | faulted hd he =>
    rw [he.eq_of_fault]
    exact ⟨h.depth_le, nofun, h.binary⟩
  | breached hd he => exact h.executes (registers_lt_of_due h.awaits_lt hd) he

/-! ## One command, and a history -/

/-- **A command keeps a machine intact.** -/
theorem Intact.obey (h : m.Intact) (hc : c.InRange) : (m.obey c).machine.Intact := by
  have ho := m.obeys c
  generalize (m.obey c).machine = n at ho ⊢
  cases ho with
  | step => exact h.step
  | execute => exact h.execute (hc _ (List.mem_singleton.2 rfl))
  | executeAll => exact executeAll_induction h fun _ i hi hn => hn.execute (hc i hi)
  | reset => exact intact_boot _ _
  | markDrawn => exact ⟨h.depth_le, h.awaits_lt, h.binary.markDrawn⟩
  | restack hd => exact ⟨hd h.depth_le, h.awaits_lt, h.binary⟩
  | keep hscreen hstatus hstack =>
    refine ⟨?_, ?_, ?_⟩
    · rw [hstack]
      exact h.depth_le
    · rw [hstatus]
      exact h.awaits_lt
    · rw [hscreen]
      exact h.binary

/-- An action keeps a machine intact. -/
theorem Intact.act (h : m.Intact) (a : Action) : (m.act a).machine.Intact := by
  refine h.obey ?_
  cases a <;> exact fun _ hi => nomatch hi

/-- A machine that was just set up is intact. -/
theorem Booted.intact (h : Booted m) : m.Intact := by
  cases h with
  | bare dialect dice => exact intact_boot dialect dice
  | program hm =>
    obtain ⟨-, rfl⟩ := start_eq_ok_iff.1 hm
    exact ⟨Nat.zero_le 16, nofun, Screen.binary_blank⟩
  | @file content dialect dice _ hm =>
    rcases content with _ | program
    · cases hm
    · obtain ⟨-, rfl⟩ := start_eq_ok_iff.1 hm
      exact ⟨Nat.zero_le 16, nofun, Screen.binary_blank⟩

/-- **Each machine that commands bring about is intact.** -/
theorem Reachable.intact (h : Reachable m) : m.Intact := by
  induction h with
  | booted h => exact h.intact
  | obey h c hc ih => exact ih.obey hc

/-! ## Indices -/

/-- While it obeys `c`, the machine `m` carries out `i` on `n`, which leaves `k`. -/
inductive Carries : Machine → Command → Machine → Instruction → Machine → Prop
  /-- the instruction of a step -/
  | step {m : Machine} {i : Instruction} {o : Outcome} (hd : m.due = .ok i)
      (hr : m.step.result = .ok o) : Carries m .step m i m.step.machine
  /-- a single instruction -/
  | execute {m : Machine} {i : Instruction} {o : Outcome} (hr : (m.execute i).result = .ok o) :
      Carries m (.execute i) m i (m.execute i).machine
  /-- the first of several instructions -/
  | first {m : Machine} {i : Instruction} {rest : List Instruction} {o : Outcome}
      (hr : (m.execute i).result = .ok o) :
      Carries m (.executeAll (i :: rest)) m i (m.execute i).machine
  /-- another of several instructions, behind a first one that did not fail -/
  | later {m n k : Machine} {i j : Instruction} {rest : List Instruction} {o : Outcome}
      (hr : (m.execute i).result = .ok o)
      (h : Carries (m.execute i).machine (.executeAll rest) n j k) :
      Carries m (.executeAll (i :: rest)) n j k

/-- Each instruction that a command has an intact machine carry out uses no index out of its
bounds. -/
theorem Carries.fits (hcarry : Carries m c n i k) (h : m.Intact) (hc : c.InRange) : n.Fits i k := by
  induction hcarry with
  | step hd hr => exact fits_of_step h.depth_le h.awaits_lt hd hr
  | execute hr => exact fits_of_execute h.depth_le (hc _ (List.mem_singleton.2 rfl)) hr
  | first hr => exact fits_of_execute h.depth_le (hc _ List.mem_cons_self) hr
  | @later m n k i j rest o hr hrest ih =>
    -- the rest is carried out on the machine that the first instruction leaves, which is intact
    exact ih (h.execute (hc i List.mem_cons_self)) fun j hj => hc j (List.mem_cons_of_mem i hj)

/-- An instruction that fails without a fault has left the addresses of sixteen bits. -/
theorem Intact.overflows_of_execute (h : m.Intact) (hr : ∀ x ∈ i.registers, x < 16)
    (hb : (m.execute i).result = .error (.breach b)) : b.Overflows := by
  have he := Machine.executes (m := m) hr
  rw [hb] at he
  exact he.overflows_of_breach h.depth_le hr

/-- A step that fails without a fault has left the addresses of sixteen bits. -/
theorem Intact.overflows_of_step (h : m.Intact) (hb : m.step.result = .error (.breach b)) :
    b.Overflows := by
  have hs := steps h.awaits_lt
  rw [hb] at hs
  generalize m.step.machine = n at hs
  cases hs with
  | breached hd he => exact he.overflows_of_breach h.depth_le (registers_lt_of_due h.awaits_lt hd)

/-- A command that fails without a fault has left the addresses of sixteen bits. -/
theorem Intact.overflows_of_obey (h : m.Intact) (hc : c.InRange)
    (hb : (m.obey c).reply = .failed (.breach b)) : b.Overflows := by
  cases c with
  | step => exact h.overflows_of_step (error_of_ofReport .outcome (fun _ => nofun) hb)
  | execute i =>
    have hr := error_of_ofReport .outcome (fun _ => nofun) hb
    exact h.overflows_of_execute (hc i (List.mem_singleton.2 rfl)) hr
  | executeAll is =>
    have hr := error_of_ofReport (fun _ => .done) (fun _ => nofun) hb
    obtain ⟨n, i, hi, hn, hr⟩ := error_of_executeAll h (fun _ i hi hn => hn.execute (hc i hi)) hr
    exact hn.overflows_of_execute (hc i hi) hr
  | load program =>
    rw [Machine.obey] at hb
    split at hb <;> cases hb
  | setDepth depth =>
    simp only [Machine.obey, replaceStack] at hb
    split at hb <;> cases hb
  | setSlot slot site =>
    simp only [Machine.obey, replaceStack] at hb
    split at hb <;> cases hb
  | reset | tick | press key | release key | setKeypad keypad | markDrawn | setRegister x value
  | setIndex value | setCounter value | setDelay value | setSound value => cases hb

/-- A program that is loaded ends inside of memory. -/
theorem program_le_of_obey {program : List UInt8} (h : (m.obey (.load program)).reply = .done) :
    Memory.programStart + program.length ≤ Memory.size := by
  rw [obey] at h
  split at h
  · next loaded hl =>
    obtain ⟨memory, hm, -⟩ := map_eq_ok_iff.1 hl
    obtain ⟨hle, -⟩ := Memory.loadProgram_eq_ok_iff.1 hm
    simp only [Memory.programRoom, Memory.programStart, Memory.size] at hle ⊢
    omega
  · cases h

/-- Obeying a command uses no index out of its bounds. -/
structure Within (m : Machine) (c : Command) : Prop where
  /-- what fails without a fault is a sum of addresses that does not fit in sixteen bits -/
  breach : ∀ b, (m.obey c).reply = .failed (.breach b) → b.Overflows
  /-- the indices of the instructions that are carried out -/
  carried : ∀ n i k, Carries m c n i k → n.Fits i k
  /-- the bytes of the instruction at the program counter -/
  word : ∀ w, m.memory.fetch m.pc = .ok w → m.pc.toNat + 1 < Memory.size
  /-- the bytes of a program that is loaded -/
  program : ∀ program, c = .load program → (m.obey c).reply = .done →
    Memory.programStart + program.length ≤ Memory.size

theorem Intact.within (h : m.Intact) (hc : c.InRange) : m.Within c where
  breach := fun _ hb => h.overflows_of_obey hc hb
  carried := fun _ _ _ hcarry => hcarry.fits h hc
  word := fun _ hw => Memory.lt_size_of_fetch hw
  program := by
    rintro program rfl hp
    exact program_le_of_obey hp

/-- **No host breaks the machine.** After any list of commands whose registers exist, at most
sixteen calls are open and the open calls can be listed, each pixel is zero or one, the register of
a key wait exists, and whatever command is next, obeying it uses no index out of its bounds. -/
theorem commands_in_bounds {m₀ : Machine} (h₀ : Booted m₀) (commands : List Command)
    (hc : ∀ c ∈ commands, c.InRange) :
    let m := m₀.obeyAll commands
    m.stack.depth ≤ 16 ∧ m.stack.active.length = m.stack.depth ∧
      (∀ column < Screen.width, ∀ row < Screen.height,
        m.screen.pixel? column row = some 0 ∨ m.screen.pixel? column row = some 1) ∧
      (∀ x, m.status = .awaitingKey x → x < 16) ∧ ∀ c, c.InRange → m.Within c := by
  intro m
  have hm : m.Intact := ((Reachable.booted h₀).obeyAll commands hc).intact
  exact ⟨hm.depth_le, CallStack.length_active hm.depth_le,
    fun _ hcol _ hrow => hm.binary.pixel? hcol hrow, hm.awaits_lt,
    fun _ hcom => hm.within hcom⟩

/-- A debugger that fills the call stack and puts the last address there is into its last slot: a
return from there stays in bounds and fails, since there is nothing behind that address. -/
theorem last_site_in_bounds :
    let m := (boot {} .loaded).obeyAll [.setDepth 16, .setSlot 15 0xFFFF]
    m.stack.depth = 16 ∧ m.Within (.execute .leave) ∧
      (m.obey (.execute .leave)).reply = .failed (.breach (.address 0xFFFF 2)) := by
  intro m
  have hc : ∀ c ∈ [Command.setDepth 16, .setSlot 15 0xFFFF], c.InRange := by decide
  obtain ⟨-, -, -, -, hwithin⟩ := commands_in_bounds (.bare {} .loaded) _ hc
  exact ⟨by decide, hwithin _ (by decide), by decide⟩

end Chip8.Machine
