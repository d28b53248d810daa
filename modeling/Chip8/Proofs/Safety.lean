import Chip8.Proofs.Machine.Fits
import Chip8.Proofs.Machine.Sound

/-!
# No program breaks the machine

Whatever bytes a program consists of, whatever it makes of itself while it runs, and whenever its
host asks for steps and ticks and reports keys: each number that the next step computes fits in its
type, and each index that it uses lies inside of what it indexes.

* `InBounds` — what the next step computes and uses;
* `Sound.inBounds` — a sound machine is in bounds;
* `play_in_bounds` — each game is played in bounds.
-/

namespace Chip8.Machine

/-- The next step computes no number beyond its type and uses no index out of its bounds. -/
structure InBounds (m : Machine) : Prop where
  /-- moving on, and once more for a skip -/
  counter : m.pc.toNat + 2 + 2 < 0x10000
  /-- moving on behind a call -/
  sites : ∀ k (h : k < 16), m.stack.slots[k].toNat + 2 < 0x10000
  /-- adding the first register to a target -/
  offset : ∀ base, m.due = .ok (.jumpOffset base) → (m.reg 0).toNat + base.toNat < 0x10000
  /-- finding a glyph -/
  glyph : ∀ x, Memory.glyphHeight.toNat * (m.reg x).toNat < 0x10000
  /-- finding the end of the bytes at the index -/
  span : ∀ i length, m.due = .ok i → i.span? = some length →
    m.index.toNat + length < 0x10000000000000000
  /-- the registers of the instruction -/
  registers : ∀ i, m.due = .ok i → ∀ x ∈ i.registers, x < 16
  /-- the slot that a call fills -/
  opened : ∀ target o, m.due = .ok (.call target) → m.step.result = .ok o → m.stack.depth < 16
  /-- the slot that a return reads -/
  closed : ∀ o, m.due = .ok .leave → m.step.result = .ok o →
    0 < m.stack.depth ∧ m.stack.depth - 1 < 16
  /-- the bytes of the instruction itself -/
  word : ∀ i, m.due = .ok i → m.pc.toNat + 1 < Memory.size
  /-- the bytes at the index -/
  bytes : ∀ i length o, m.due = .ok i → i.span? = some length → m.step.result = .ok o →
    m.index.toNat + length ≤ Memory.size
  /-- the pixels below a sprite: none of them is refused while it is drawn -/
  pixels : ∀ x y height o, m.due = .ok (.draw x y height) → m.step.result = .ok o →
    ∃ sprite hit, m.memory.slice m.index.toNat height.toNat = .ok sprite ∧
      m.screen.plot (m.reg x) (m.reg y) sprite = .ok ⟨m.step.machine.screen, hit⟩
  /-- nothing that a step asks for is refused as out of bounds -/
  result : ∀ b, m.step.result ≠ .error (.breach b)

variable {m : Machine}

/-- A step of a sound machine uses no index out of its bounds. -/
theorem Sound.fits_step {i : Instruction} {o : Outcome} (h : m.Sound) (hd : m.due = .ok i)
    (hr : m.step.result = .ok o) : m.Fits i m.step.machine :=
  fits_of_step h.stack.depth_le h.awaits_lt hd hr

/-- **A sound machine is in bounds.** -/
theorem Sound.inBounds (h : m.Sound) : m.InBounds where
  counter := by
    have := h.pc_le
    omega
  sites := by
    intro k hk
    have := h.stack.slots_le k hk
    omega
  offset := by
    intro base hd
    have hb : base < 4096 := (inRange_of_current (h.current_of_due hd)).2.1 base rfl
    have hb' : base.toNat < 4096 := hb
    have hv := (m.reg 0).toNat_lt
    omega
  glyph := by
    intro x
    have hg : Memory.glyphHeight.toNat = 5 := rfl
    have hv := (m.reg x).toNat_lt
    rw [hg]
    omega
  span := by
    intro i length hd hi
    have hindex := m.index.toNat_lt
    have hlength := Instruction.span?_le hi
    omega
  registers := fun i hd => registers_lt_of_due h.awaits_lt hd
  opened := fun target _ hd hr => (h.fits_step hd hr).opened target rfl
  closed := fun _ hd hr => (h.fits_step hd hr).closed rfl
  word := by
    intro i hd
    have hpc := pc_le_of_current (h.current_of_due hd)
    have hsize : Memory.size = 4096 := rfl
    omega
  bytes := fun _ length _ hd hi hr => (h.fits_step hd hr).bytes length hi
  pixels := fun x y height _ hd hr => (h.fits_step hd hr).pixels x y height rfl
  result := h.step_ne_breach

/-- **No program breaks the machine.** Each program of at most 3232 bytes can be started, in each
dialect and with all dice. In each course that the game then takes, the program counter, the
addresses on the call stack, its depth and the register of a key wait keep to their bounds, and so
does everything that the next step computes and uses. -/
theorem play_in_bounds (program : List UInt8) (hp : program.length ≤ 3232) (dialect : Dialect)
    (dice : Dice) :
    ∃ m₀, (start program dialect dice).result = .ok m₀ ∧
      ∀ actions, let m := m₀.play actions
        m.pc.toNat ≤ 0x10FE ∧ (∀ k (h : k < 16), m.stack.slots[k].toNat ≤ 0xFFE) ∧
        m.stack.depth ≤ 16 ∧ (∀ x, m.status = .awaitingKey x → x < 16) ∧ m.InBounds := by
  obtain ⟨m₀, h₀⟩ : ∃ m₀, (start program dialect dice).result = .ok m₀ :=
    ⟨_, start_eq_ok_iff.2 ⟨hp, rfl⟩⟩
  refine ⟨m₀, h₀, ?_⟩
  intro actions m
  have hm : m.Sound := sound_play h₀ actions
  exact ⟨hm.pc_le, hm.stack.slots_le, hm.stack.depth_le, hm.awaits_lt, hm.inBounds⟩

/-- The program that calls itself without end is played in bounds. -/
theorem recursion_in_bounds :
    [0x22, 0x00].length ≤ 3232 ∧ ∃ m₀, (start [0x22, 0x00] {} .loaded).result = .ok m₀ ∧
      ∀ actions, (m₀.play actions).InBounds := by
  have hp : [0x22, 0x00].length ≤ 3232 := by decide
  obtain ⟨m₀, h₀, h⟩ := play_in_bounds [0x22, 0x00] hp {} .loaded
  refine ⟨hp, m₀, h₀, ?_⟩
  intro actions
  obtain ⟨-, -, -, -, hm⟩ := h actions
  exact hm

end Chip8.Machine
