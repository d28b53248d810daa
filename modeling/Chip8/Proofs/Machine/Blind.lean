import Chip8.Proofs.Footprint
import Chip8.Proofs.Integrity

/-!
# What a program cannot see

The timers and the flag of the screen are there for the host, which counts the ones down and takes
the other back whenever it likes. A program sets all three, but it has only one instruction to look
at any of them: `FX07` reads the delay timer. So two machines that differ in nothing else make the
same steps, until one of the steps is an `FX07`.

* `Machine.SameGame` — what two machines agree on if a game stands at the same point on both;
* `Machine.Twins` — they also have the same keys held, so the game goes on alike;
* `Machine.hosted` — the machine after its host has meddled with the timers and the flag;
* `apply_hosted`, `Executes.hosted` — an effect, and an instruction that is carried out, do not
  depend on what the host did;
* `Executes.keypad_eq`, `keypad_of_step` — no instruction changes the keys;
* `Twins.step` — the game goes on with the same step on both machines.
-/

namespace Chip8.Machine

/-- A game stands at the same point on two machines: they agree on all but the timers, the flag of
the screen and the keys. -/
structure SameGame (m n : Machine) : Prop where
  /-- the same bytes are in memory -/
  memory : n.memory = m.memory
  /-- the registers hold the same values -/
  registers : n.registers = m.registers
  /-- the index is at the same address -/
  index : n.index = m.index
  /-- the same instruction is next -/
  pc : n.pc = m.pc
  /-- the slots of the call stacks hold the same addresses, and as many are in use -/
  stack : n.stack = m.stack
  /-- the same pixels are lit -/
  rows : n.screen.rows = m.screen.rows
  /-- they do the same when asked for a step -/
  status : n.status = m.status
  /-- they speak the same dialect -/
  dialect : n.dialect = m.dialect
  /-- the same random bytes are to come -/
  dice : n.dice = m.dice

/-- A game stands at the same point on two machines, and the same keys are held. -/
structure Twins (m n : Machine) : Prop extends m.SameGame n where
  /-- the same keys are held -/
  keypad : n.keypad = m.keypad

/-- The machine with timers and a flag of the host's. -/
def hosted (m : Machine) (timers : Timers) (redraw : Bool) : Machine :=
  { m with timers, screen := { m.screen with redraw } }

variable {m n k : Machine} {i : Instruction} {o : Outcome} {timers : Timers} {redraw : Bool}

namespace SameGame

theorem refl (m : Machine) : m.SameGame m := ⟨rfl, rfl, rfl, rfl, rfl, rfl, rfl, rfl, rfl⟩

theorem symm (h : m.SameGame n) : n.SameGame m :=
  ⟨h.memory.symm, h.registers.symm, h.index.symm, h.pc.symm, h.stack.symm, h.rows.symm,
    h.status.symm, h.dialect.symm, h.dice.symm⟩

theorem trans (h₁ : m.SameGame n) (h₂ : n.SameGame k) : m.SameGame k where
  memory := h₂.memory.trans h₁.memory
  registers := h₂.registers.trans h₁.registers
  index := h₂.index.trans h₁.index
  pc := h₂.pc.trans h₁.pc
  stack := h₂.stack.trans h₁.stack
  rows := h₂.rows.trans h₁.rows
  status := h₂.status.trans h₁.status
  dialect := h₂.dialect.trans h₁.dialect
  dice := h₂.dice.trans h₁.dice

/-- The game does not notice what the host does to the timers, the flag and the keys. -/
theorem hosted (m : Machine) (timers : Timers) (redraw : Bool) (keypad : Keypad) :
    m.SameGame { m.hosted timers redraw with keypad } :=
  ⟨rfl, rfl, rfl, rfl, rfl, rfl, rfl, rfl, rfl⟩

/-- A machine that agrees with an intact one is intact. -/
theorem intact (h : m.SameGame n) (hm : m.Intact) : n.Intact where
  depth_le := by
    rw [h.stack]
    exact hm.depth_le
  awaits_lt := by
    rw [h.status]
    exact hm.awaits_lt
  binary := hm.binary.congr h.rows

end SameGame

theorem Twins.refl (m : Machine) : m.Twins m := ⟨.refl m, rfl⟩

/-- All that is left to differ is what the host meddles with. -/
theorem Twins.eq_hosted (h : m.Twins n) : n = m.hosted n.timers n.screen.redraw := by
  obtain ⟨memory, registers, index, pc, stack, timers, ⟨rows, redraw⟩, keypad, status, dialect,
    dice⟩ := n
  obtain ⟨⟨rfl, rfl, rfl, rfl, rfl, hrows, rfl, rfl, rfl⟩, hkeypad⟩ := h
  cases hrows
  cases hkeypad
  rfl

/-! ## One instruction -/

/-- What is made of the same result in the same way is the same, up to what the host did. -/
theorem map_hosted {α : Type} (r : Except Failure α) {f g : α → Machine}
    (h : ∀ a, g a = (f a).hosted timers redraw) :
    r.map g = (r.map f).map (·.hosted timers redraw) := by
  rcases r with e | a
  · rfl
  · exact congrArg Except.ok (h a)

theorem advance_hosted :
    (m.hosted timers redraw).advance = m.advance.map (·.hosted timers redraw) :=
  map_hosted (m.pc.ahead 2) fun _ => rfl

theorem skipIf_hosted (condition : Bool) :
    (m.hosted timers redraw).skipIf condition =
      (m.skipIf condition).map (·.hosted timers redraw) := by
  cases condition
  · rfl
  · exact advance_hosted

theorem moveOn_hosted (i : Instruction) :
    (m.hosted timers redraw).moveOn i = (m.moveOn i).map (·.hosted timers redraw) := by
  rw [moveOn, moveOn]
  cases i.isControlFlow
  · exact advance_hosted
  · rfl

/-- **An effect does not depend on what the host did**, unless it is that of `FX07`. -/
theorem apply_hosted (timers : Timers) (redraw : Bool) (hi : ∀ x, i ≠ .readDelay x) :
    ∃ timers' redraw', (m.hosted timers redraw).apply i =
      (m.apply i).map (·.hosted timers' redraw') := by
  cases i
  case readDelay x => exact absurd rfl (hi x)
  case clearScreen => exact ⟨timers, true, rfl⟩
  case draw => exact ⟨timers, true, map_hosted _ fun _ => rfl⟩
  case setDelay x => exact ⟨{ timers with delay := m.reg x }, redraw, rfl⟩
  case setSound x => exact ⟨{ timers with sound := m.reg x }, redraw, rfl⟩
  case skipEqConst | skipNeConst | skipEqReg | skipNeReg | skipHeld | skipFree =>
    exact ⟨timers, redraw, skipIf_hosted _⟩
  case leave =>
    refine ⟨timers, redraw, ?_⟩
    show (m.stack.pop m.pc).bind _ = ((m.stack.pop m.pc).bind _).map _
    rcases m.stack.pop m.pc with e | ⟨site, stack⟩
    · rfl
    · exact map_hosted (site.ahead 2) fun _ => rfl
  case call | jumpOffset | storeDecimal | storeRegisters | loadRegisters =>
    exact ⟨timers, redraw, map_hosted _ fun _ => rfl⟩
  all_goals exact ⟨timers, redraw, rfl⟩

/-- **An instruction that is carried out** does what it does whatever the host did, unless it is
`FX07`. -/
theorem Executes.hosted (timers : Timers) (redraw : Bool) (hi : ∀ x, i ≠ .readDelay x)
    (he : m.Executes i (.ok o) n) :
    ∃ timers' redraw', (m.hosted timers redraw).Executes i (.ok o) (n.hosted timers' redraw') := by
  cases he with
  | done hk ha hm =>
    obtain ⟨timers', redraw', happly⟩ := apply_hosted (m := m) timers redraw hi
    rw [ha] at happly
    refine ⟨timers', redraw', .done hk happly ?_⟩
    rw [moveOn_hosted, hm]
    rfl
  | waits hw hl => exact ⟨timers, redraw, .waits hw hl⟩
  | takes hw hl hp => exact ⟨timers, redraw, .takes hw hl hp⟩

/-- No instruction changes the keys. -/
theorem Executes.keypad_eq (hr : ∀ x ∈ i.registers, x < 16) (he : m.Executes i (.ok o) n) :
    n.keypad = m.keypad :=
  Classical.byContradiction fun hne => nomatch he.writes hr .keypad hne

/-! ## One step -/

theorem due_hosted : (m.hosted timers redraw).due = m.due := rfl

/-- An instruction is due if a step succeeds. -/
theorem due_of_step (h : m.step.result = .ok o) : ∃ i, m.due = .ok i := by
  rcases hd : m.due with f | i
  · rw [(step_of_due_error hd).1] at h
    cases h
  · exact ⟨i, rfl⟩

/-- No step changes the keys. -/
theorem Intact.keypad_of_step (hm : m.Intact) (h : m.step.result = .ok o) :
    m.step.machine.keypad = m.keypad := by
  obtain ⟨i, hd⟩ := due_of_step h
  exact (executes_of_step hm.awaits_lt hd h).keypad_eq (registers_lt_of_due hm.awaits_lt hd)

/-- The outcome of reading the delay timer is that it was read. -/
theorem Executes.outcome_of_readDelay {x : UInt8} (he : m.Executes (.readDelay x) (.ok o) n) :
    o = .executed (.readDelay x) := by
  cases he with
  | done hk ha hm => rfl
  | waits hi | takes hi => cases hi

/-- **The game goes on with the same step** on two machines with the same keys, unless the step
reads the delay timer. -/
theorem Twins.step (h : m.Twins n) (hm : m.Intact) (ho : m.step.result = .ok o)
    (hblind : ∀ x, o ≠ .executed (.readDelay x)) :
    n.step.result = .ok o ∧ m.step.machine.Twins n.step.machine := by
  obtain ⟨i, hd⟩ := due_of_step ho
  have he := executes_of_step hm.awaits_lt hd ho
  have hi : ∀ x, i ≠ .readDelay x := by
    rintro x rfl
    exact hblind x he.outcome_of_readDelay
  obtain ⟨timers, redraw, he'⟩ := he.hosted n.timers n.screen.redraw hi
  have hn := h.intact hm
  rw [h.eq_hosted] at hn ⊢
  obtain ⟨hr, hmachine⟩ := step_of_executes hn.awaits_lt (due_hosted.trans hd) he'
  rw [hmachine]
  exact ⟨hr, .hosted m.step.machine timers redraw m.step.machine.keypad, rfl⟩

end Chip8.Machine
