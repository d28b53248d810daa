import Chip8.Proofs.Machine.Sound

/-!
# Waiting for a key is reading the key wait again

The key wait `FX0A` is described as an instruction that is executed again and again until a key is
held. The machine does not do that: it remembers that it waits and for which register, and while it
does it neither fetches nor decodes. A `Poller` is the machine of the description. It has no status
of waiting, fetches and decodes the word at its program counter in each step, and leaves the program
counter at the key wait as long as no key is held. Nor does it look for a key as the machine does:
its key is the minimum of those that are held.

* `Poller.key?_eq_some_iff` — the key of a poller is held, and no key below it is;
* `Machine.forget` — the poller in the state of a machine, whose waiting it does not know of;
* `Sound.forget_act` — an action does the same to both and gets the same answer;
* `poller_agrees` — so the two agree in each course of a game.
-/

namespace Chip8

/-- A machine that executes the key wait again instead of waiting. -/
structure Poller where
  /-- the bytes of program and data -/
  memory : Memory
  /-- the sixteen registers -/
  registers : Registers
  /-- the address register -/
  index : UInt16
  /-- the program counter -/
  pc : Addr
  /-- the open calls -/
  stack : CallStack
  /-- the two timers -/
  timers : Timers
  /-- the picture -/
  screen : Screen
  /-- the keys the program sees -/
  keypad : Keypad
  /-- a fault stopped it for good -/
  halted : Bool
  /-- the dialect, which never changes -/
  dialect : Dialect
  /-- the random bytes -/
  dice : Dice

/-- The poller in the state of a machine. All that is left of the status is whether it halted. -/
def Machine.forget (m : Machine) : Poller where
  memory := m.memory
  registers := m.registers
  index := m.index
  pc := m.pc
  stack := m.stack
  timers := m.timers
  screen := m.screen
  keypad := m.keypad
  halted := m.status = .halted
  dialect := m.dialect
  dice := m.dice

namespace Poller

/-- The running machine in the state of a poller. -/
def machine (p : Poller) : Machine where
  memory := p.memory
  registers := p.registers
  index := p.index
  pc := p.pc
  stack := p.stack
  timers := p.timers
  screen := p.screen
  keypad := p.keypad
  status := .running
  dialect := p.dialect
  dice := p.dice

/-- The least of the held keys. -/
def key? (p : Poller) : Option UInt8 := p.keypad.held.min?

/-- The key of a poller is held, and no key below it is. -/
theorem key?_eq_some_iff {p : Poller} {key : UInt8} :
    p.key? = some key ↔
      p.keypad.isHeld key = true ∧ ∀ other < key, p.keypad.isHeld other = false := by
  rw [key?, List.min?_eq_some_iff, Keypad.mem_held_iff]
  refine and_congr_right fun _ => ⟨fun hleast other hlt => ?_, fun hbelow other hmem => ?_⟩
  · refine Bool.eq_false_iff.2 fun hheld => ?_
    exact UInt8.not_le.2 hlt (hleast other (Keypad.mem_held_iff.2 hheld))
  · refine UInt8.not_lt.1 fun hlt => ?_
    cases (hbelow other hlt).symm.trans (Keypad.mem_held_iff.1 hmem)

/-- Carry out an instruction. Without a held key the key wait changes nothing, not even the program
counter; with one, the lowest goes into the register. All other instructions are those of the
machine. -/
def perform (p : Poller) : Instruction → Except Failure Outcome × Poller
  | .awaitKey x =>
    match p.key? with
    | none => (.ok .awaitingKey, p)
    | some key =>
      (.ok (.executed (.awaitKey x)),
        { p with registers := p.registers.setIfInBounds x.toNat key, pc := p.pc + 2 })
  | i => ((p.machine.execute i).result, (p.machine.execute i).machine.forget)

/-- Fetch, decode and carry out the instruction at the program counter, unless it halted before. -/
def step (p : Poller) : Except Failure Outcome × Poller :=
  if p.halted then (.error (.fault .halted), p)
  else
    match p.memory.fetch p.pc with
    | .error fault => (.error (.fault fault), { p with halted := true })
    | .ok word =>
      match Instruction.decode word with
      | .error fault => (.error (.fault fault), { p with halted := true })
      | .ok i =>
        match p.perform i with
        | (.error e, q) => (.error e, { q with halted := true })
        | (.ok o, q) => (.ok o, q)

/-- The answer to a step. -/
def answer : Except Failure Outcome → Reply
  | .ok o => .outcome o
  | .error e => .failed e

/-- What an action is answered, and the poller afterwards. -/
def act (p : Poller) : Action → Reply × Poller
  | .step => (answer p.step.1, p.step.2)
  | .tick => (.ticked p.timers.beeps, { p with timers := p.timers.tick })
  | .press key => (.done, { p with keypad := p.keypad.press key })
  | .release key => (.done, { p with keypad := p.keypad.release key })
  | .setKeypad keypad => (.done, { p with keypad })
  | .markDrawn => (.done, { p with screen := p.screen.markDrawn })

/-- The poller after a list of actions. -/
def play (p : Poller) (actions : List Action) : Poller :=
  actions.foldl (fun p a => (p.act a).2) p

end Poller

namespace Machine

variable {m : Machine} {i : Instruction}

/-! ## What a machine forgets -/

/-- Of two states of waiting or running, the poller knows no difference. -/
theorem forget_status {s : Status} (hm : m.status ≠ .halted) (hs : s ≠ .halted) :
    forget { m with status := s } = m.forget := by
  simp only [forget, hm, hs, decide_false]
theorem forget_halt : forget { m with status := .halted } = { m.forget with halted := true } := by
  simp only [forget, decide_true]

theorem machine_forget (h : m.status = .running) : m.forget.machine = m := by
  rw [forget, Poller.machine, ← h]

/-- The machine finds the key of the poller. -/
theorem key?_forget (m : Machine) : m.forget.key? = m.keypad.lowest? :=
  Option.ext fun _ => Poller.key?_eq_some_iff.trans Keypad.lowest?_eq_some_iff.symm

/-- No instruction is due on a machine that has halted. -/
theorem not_halted_of_due (hd : m.due = .ok i) : m.status ≠ .halted := by
  intro hs
  rw [due, hs] at hd
  cases hd

/-- Only a running machine carries out another instruction than the key wait. -/
theorem running_of_due (hd : m.due = .ok i) (hk : ∀ x, i ≠ .awaitKey x) : m.status = .running := by
  rw [due] at hd
  split at hd
  · assumption
  · next x hs =>
    cases hd
    exact absurd rfl (hk x)
  · cases hd

/-! ## One step -/

/-- The machine and the poller carry out the key wait with the same result. -/
theorem Sound.forget_awaitKey {x : UInt8} (h : m.Sound) (hd : m.due = .ok (.awaitKey x)) :
    m.forget.perform (.awaitKey x) =
      ((m.execute (.awaitKey x)).result, (m.execute (.awaitKey x)).machine.forget) := by
  have hi := h.current_of_due hd
  have hpc := pc_le_of_current hi
  have hm := not_halted_of_due hd
  have hkey := m.key?_forget
  have he := Machine.executes (m := m) (inRange_of_current hi).1
  generalize (m.execute (.awaitKey x)).result = r at he ⊢
  generalize (m.execute (.awaitKey x)).machine = n at he ⊢
  cases he with
  | done hk => exact absurd rfl (hk x)
  | refused hk => exact absurd rfl (hk x)
  | overrun hk => exact absurd rfl (hk x)
  | @waits y hw hl =>
    rw [Poller.perform, hkey, hl, forget_status (s := .awaitingKey y) hm nofun]
  | @takes y key pc hw hl hp =>
    cases hw
    obtain rfl := Addr.eq_of_ahead hp
    rw [Poller.perform, hkey, hl]
    simp only [forget, hm, decide_false, reduceCtorEq]
    rfl
  | stuck hw hl hp => exact absurd hp (ahead_ne_error (by omega) (by decide))

/-- The machine and the poller carry out the instruction that is due with the same result. -/
theorem Sound.forget_execute (h : m.Sound) (hd : m.due = .ok i) :
    m.forget.perform i = ((m.execute i).result, (m.execute i).machine.forget) := by
  by_cases hk : ∃ x, i = .awaitKey x
  · obtain ⟨x, rfl⟩ := hk
    exact h.forget_awaitKey hd
  · have hk' : ∀ x, i ≠ .awaitKey x := fun x hx => hk ⟨x, hx⟩
    rw [Poller.perform, machine_forget (running_of_due hd hk')]
    exact hk'

/-- Neither the machine nor the poller makes a step that has no instruction. -/
theorem forget_step_of_due_error {f : Fault} (hd : m.due = .error f) :
    m.forget.step = (.error (.fault f), { m.forget with halted := true }) := by
  rw [due] at hd
  rcases hs : m.status with - | x | - <;> simp only [hs] at hd
  · have hm : m.forget.halted = false := by simp only [forget, hs, reduceCtorEq, decide_false]
    rcases bind_eq_error_iff.1 hd with hw | ⟨w, hw, hi⟩
    · have hw' : m.forget.memory.fetch m.forget.pc = .error f := hw
      simp only [Poller.step, hm, Bool.false_eq_true, if_false, hw']
    · have hw' : m.forget.memory.fetch m.forget.pc = .ok w := hw
      simp only [Poller.step, hm, Bool.false_eq_true, if_false, hw', hi]
  · cases hd
  · cases hd
    have hm : m.forget.halted = true := by simp only [forget, hs, decide_true]
    rw [Poller.step, if_pos hm, ← hm]

/-- **One step.** The machine and the poller make the same. -/
theorem Sound.forget_step (h : m.Sound) :
    m.forget.step = (m.step.result, m.step.machine.forget) := by
  rcases hd : m.due with f | i
  · obtain ⟨hr, hn⟩ := step_of_due_error hd
    rw [hr, hn, forget_halt]
    exact forget_step_of_due_error hd
  · obtain ⟨w, hw, hi⟩ := bind_eq_ok_iff.1 (h.current_of_due hd)
    have hm : m.forget.halted = false := decide_eq_false (not_halted_of_due hd)
    have hw' : m.forget.memory.fetch m.forget.pc = .ok w := hw
    simp only [Poller.step, hm, Bool.false_eq_true, if_false, hw', hi, h.forget_execute hd]
    have hb := h.step_ne_breach
    obtain ⟨log, hs⟩ := step_of_due hd
    rw [hs] at hb ⊢
    generalize m.execute i = report at hb ⊢
    obtain ⟨result, n, told⟩ := report
    rcases result with (f | b) | o
    · simp only [settle, forget_halt]
    · exact absurd rfl (hb b)
    · rfl

/-- **One action** does the same to both, and gets the same answer. -/
theorem Sound.forget_act (h : m.Sound) (a : Action) :
    m.forget.act a = ((m.act a).reply, (m.act a).machine.forget) := by
  cases a with
  | step =>
    rw [Poller.act, h.forget_step, machine_act_step, Machine.act, Action.command, obey, ofReport]
    rcases m.step.result with e | o <;> rfl
  | tick | press key | release key | setKeypad keypad | markDrawn => rfl

/-! ## A game -/

/-- **A game** has the same course for both. -/
theorem Sound.forget_play (h : m.Sound) (actions : List Action) :
    (m.play actions).forget = m.forget.play actions := by
  -- soundness goes along: while it waits, the machine has to stand at the key wait
  induction actions generalizing m with
  | nil => rfl
  | cons a rest ih =>
    have hp : m.forget.play (a :: rest) = (m.forget.act a).2.play rest := rfl
    rw [play_cons, ih (h.act a), hp, h.forget_act a]

/-- **Waiting for a key is reading the key wait again.** In each course of a game the machine and
the poller are in the same state, whatever is done next gets the same answer from both, and the key
wait that the machine is in is the instruction at its program counter. What the poller takes for the
lowest held key is held while no key below it is, and it takes none only if none is held. -/
theorem poller_agrees {program : List UInt8} {dialect : Dialect} {dice : Dice} {m₀ : Machine}
    (h : (start program dialect dice).result = .ok m₀) (actions : List Action) :
    let m := m₀.play actions
    let p := m₀.forget.play actions
    m.forget = p ∧ (∀ a, (m.act a).reply = (p.act a).1) ∧
      (∀ x, m.status = .awaitingKey x → m.current = .ok (.awaitKey x)) ∧
      (∀ key, p.key? = some key ↔
        m.keypad.isHeld key = true ∧ ∀ other < key, m.keypad.isHeld other = false) ∧
      (p.key? = none ↔ ∀ key, m.keypad.isHeld key = false) := by
  intro m p
  have hm : m.Sound := sound_play h actions
  have hf : m.forget = p := (sound_start h).forget_play actions
  refine ⟨hf, ?_, hm.awaits, ?_, ?_⟩
  · intro a
    rw [← hf, hm.forget_act a]
  · intro key
    rw [← hf]
    exact Poller.key?_eq_some_iff
  · rw [← hf, key?_forget]
    exact Keypad.lowest?_eq_none_iff

/-- A program that consists of a key wait, after its first step: it waits, and of two keys that are
pressed the lower one is taken. -/
theorem key_wait_agrees :
    ∃ m₀, (start [0xF3, 0x0A] {} .loaded).result = .ok m₀ ∧
      let m := m₀.play [.step, .press 0xC, .press 5]
      let p := m₀.forget.play [.step, .press 0xC, .press 5]
      m.status = .awaitingKey 3 ∧ m.current = .ok (.awaitKey 3) ∧ m.forget = p ∧
        p.key? = some 5 ∧ m.keypad.isHeld 5 = true ∧ (m.act .step).reply = (p.act .step).1 := by
  obtain ⟨m₀, h, hs, hkey⟩ : ∃ m₀, (start [0xF3, 0x0A] {} .loaded).result = .ok m₀ ∧
      (m₀.play [.step, .press 0xC, .press 5]).status = .awaitingKey 3 ∧
      (m₀.forget.play [.step, .press 0xC, .press 5]).key? = some 5 :=
    ⟨_, start_eq_ok_iff.2 ⟨by decide, rfl⟩, by decide +kernel, by decide +kernel⟩
  obtain ⟨hforget, hreply, hcurrent, hlowest, -⟩ := poller_agrees h [.step, .press 0xC, .press 5]
  exact ⟨m₀, h, hs, hcurrent 3 hs, hforget, hkey, ((hlowest 5).1 hkey).1, hreply .step⟩

end Machine

end Chip8
