import Chip8.Proofs.Machine.Step

/-!
# The indices that an instruction uses

An instruction that is carried out reads and writes registers, slots of the call stack, bytes at the
index, and pixels. With at most sixteen calls open and with registers that exist, each of these
indices lies inside of what it indexes (`Machine.Fits`), whatever the host has made of the machine
before.

* `Executes.fits`, `fits_of_execute` — for an instruction that is carried out;
* `fits_of_step` — for the instruction of a step.
-/

namespace Chip8.Machine

/-- Carrying out `i` on `m`, which leaves `n`, uses no index out of its bounds. -/
structure Fits (m : Machine) (i : Instruction) (n : Machine) : Prop where
  /-- the registers that it names -/
  registers : ∀ x ∈ i.registers, x.toNat < 16
  /-- the slot that a call fills -/
  opened : ∀ target, i = .call target → m.stack.depth < 16
  /-- the slot that a return reads -/
  closed : i = .leave → 0 < m.stack.depth ∧ m.stack.depth - 1 < 16
  /-- the bytes at the index -/
  bytes : ∀ length, i.span? = some length → m.index.toNat + length ≤ Memory.size
  /-- the pixels below a sprite: none of them is refused while it is drawn -/
  pixels : ∀ x y height, i = .draw x y height → ∃ sprite hit,
    m.memory.slice m.index.toNat height.toNat = .ok sprite ∧
      m.screen.plot (m.reg x) (m.reg y) sprite = .ok ⟨n.screen, hit⟩

variable {m n : Machine} {i : Instruction} {o : Outcome}

/-- A call that is opened finds a free slot. -/
theorem depth_lt_of_call {target : Addr} (h : m.apply (.call target) = .ok n) :
    m.stack.depth < 16 := by
  obtain ⟨stack, hs, -⟩ := map_eq_ok_iff.1 h
  exact (CallStack.push_eq_ok_iff.1 hs).1

/-- A return finds an open call. -/
theorem depth_pos_of_leave (h : m.apply .leave = .ok n) : 0 < m.stack.depth := by
  obtain ⟨⟨site, stack⟩, hs, -⟩ := bind_eq_ok_iff.1 h
  obtain ⟨hdepth, -, -⟩ := CallStack.pop_eq_ok_iff.1 hs
  omega

/-- A sprite that is drawn finds all of its pixels on the screen. -/
theorem plot_of_draw {x y height : UInt8} (h : m.apply (.draw x y height) = .ok n) :
    ∃ sprite hit, m.memory.slice m.index.toNat height.toNat = .ok sprite ∧
      m.screen.plot (m.reg x) (m.reg y) sprite = .ok ⟨n.screen, hit⟩ := by
  obtain ⟨sprite, hs, rfl⟩ := map_eq_ok_iff.1 h
  exact ⟨sprite, _, hs, m.screen.plot_eq _ _ sprite⟩

/-- **An instruction that is carried out** uses no index out of its bounds. -/
theorem Executes.fits (hd : m.stack.depth ≤ 16) (hr : ∀ x ∈ i.registers, x < 16)
    (he : m.Executes i (.ok o) n) : m.Fits i n := by
  cases he with
  | @done m₁ _ hk ha hm =>
    obtain ⟨pc, rfl, -⟩ := pc_of_moveOn hm
    refine ⟨hr, ?_, ?_, fun _ hi => span_le_of_apply hr hi ha, ?_⟩
    · rintro target rfl
      exact depth_lt_of_call ha
    · rintro rfl
      have hpos := depth_pos_of_leave ha
      omega
    · rintro x y height rfl
      -- moving on leaves the screen as it is
      exact plot_of_draw (n := m₁) ha
  | waits hi | takes hi =>
    subst hi
    exact ⟨hr, nofun, nofun, nofun, nofun⟩

theorem fits_of_execute (hd : m.stack.depth ≤ 16) (hr : ∀ x ∈ i.registers, x < 16)
    (h : (m.execute i).result = .ok o) : m.Fits i (m.execute i).machine := by
  have he := executes (m := m) hr
  rw [h] at he
  exact he.fits hd hr

/-- **A step** uses no index out of its bounds. -/
theorem fits_of_step (hstack : m.stack.depth ≤ 16) (hx : ∀ x, m.status = .awaitingKey x → x < 16)
    (hd : m.due = .ok i) (h : m.step.result = .ok o) : m.Fits i m.step.machine :=
  (executes_of_step hx hd h).fits hstack (registers_lt_of_due hx hd)

end Chip8.Machine
