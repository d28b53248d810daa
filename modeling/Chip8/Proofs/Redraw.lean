import Chip8.Proofs.Integrity

/-!
# No change of the picture goes unannounced, except by a reset

A host draws the screen when the flag is set and takes it back with `markDrawn`, so it shows the
picture of the machine as long as whatever else is done to the machine announces what it does to the
screen. Only two instructions touch the screen at all, and both set the flag. A reset does not: it
puts the blank screen of a machine without a history in place of any other, flag included, and a
host that goes by the flag keeps showing what was there before.

* `Paints.announces` — both of them announce what they do;
* `Executes.announces`, `announces_step` — instructions and steps announce what they do;
* `change_is_announced` — so do all commands apart from `markDrawn`, except for a reset of a machine
  whose screen is not as blank as at the start.
-/

namespace Chip8.Machine

variable {m n : Machine} {i : Instruction} {c : Command}

/-! ## One instruction, and one step -/

theorem Paints.announces {s : Screen} (h : m.Paints i s) : m.screen.Announces s := by
  cases h with
  | clear => exact Screen.announces_clear m.screen
  | draw hs => exact Screen.announces_draw m.screen _ _ _
  | keep => exact .refl m.screen

/-- Carrying out an instruction announces what it does to the screen, whether it fails or not. -/
theorem Executes.announces {r : Except Failure Outcome} (he : m.Executes i r n) :
    m.screen.Announces n.screen := by
  cases he with
  | done hk ha hm =>
    obtain ⟨pc, rfl, -⟩ := pc_of_moveOn hm
    exact (paints ha).announces
  | overrun hk ha hm => exact (paints ha).announces
  | refused | waits | takes | stuck => exact .refl m.screen

/-- **A step** announces what it does to the screen. -/
theorem announces_step (hx : ∀ x, m.status = .awaitingKey x → x < 16) :
    m.screen.Announces m.step.machine.screen := by
  have hs := steps hx
  generalize m.step.result = r at hs
  generalize m.step.machine = n at hs ⊢
  cases hs with
  | idle hd => exact .refl m.screen
  | carried hd he | faulted hd he | breached hd he => exact he.announces

/-! ## One command -/

/-- Instructions in order announce what they do to the screen. -/
theorem announces_executeAll {is : List Instruction}
    (hr : ∀ i ∈ is, ∀ x ∈ i.registers, x < 16) :
    m.screen.Announces (m.executeAll is).machine.screen := by
  refine executeAll_induction (P := fun n => m.screen.Announces n.screen) (.refl m.screen) ?_
  intro n i hi hn
  exact hn.trans (executes (hr i hi)).announces

/-- A command that neither starts anew nor notes that the screen was drawn announces what it does to
the screen. -/
theorem Intact.announces_obey (h : m.Intact) (hc : c.InRange) (hreset : c ≠ .reset)
    (hdrawn : c ≠ .markDrawn) : m.screen.Announces (m.obey c).machine.screen := by
  have ho := m.obeys c
  generalize (m.obey c).machine = n at ho ⊢
  cases ho with
  | step => exact announces_step h.awaits_lt
  | execute => exact (Machine.executes (hc _ (List.mem_singleton.2 rfl))).announces
  | executeAll => exact announces_executeAll hc
  | reset => exact absurd rfl hreset
  | markDrawn => exact absurd rfl hdrawn
  | restack hd => exact .refl m.screen
  | keep hscreen hstatus hstack =>
    rw [hscreen]
    exact .refl m.screen

/-- **Changes of the picture are announced.** Whatever commands have brought a machine about, a
command other than `markDrawn` whose registers exist leaves the flag set if a pixel differs from
before and if the flag was set before. The one exception is a reset, which does so only if the
screen was blank and drawn already. -/
theorem change_is_announced {m : Machine} (hm : Reachable m) (c : Command) (hc : c.InRange)
    (hdrawn : c ≠ .markDrawn) :
    m.screen.Announces (m.obey c).machine.screen ↔ (c = .reset → m.screen = .blank) := by
  by_cases hreset : c = .reset
  · -- what a reset announces is nothing, and that is right for the blank screen only
    subst hreset
    have hblank : (m.obey .reset).machine.screen = .blank := rfl
    rw [hblank, Screen.announces_blank_iff]
    exact ⟨fun h _ => h, fun h => h rfl⟩
  · have h := hm.intact.announces_obey hc hreset hdrawn
    exact ⟨fun _ hr => absurd hr hreset, fun _ => h⟩

/-- The top left pixel of a zero that was drawn at the top left. -/
theorem pixel?_zero :
    ((boot {} .loaded).obeyAll [.execute (.draw 0 0 5)]).screen.pixel? 0 0 = some 1 := by
  decide +kernel

/-- A machine on whose screen a zero was drawn announces that an instruction blanks it, but not that
a reset does. -/
theorem zero_is_announced :
    let m := (boot {} .loaded).obeyAll [.execute (.draw 0 0 5)]
    m.screen.Announces (m.obey (.execute .clearScreen)).machine.screen ∧
      ¬m.screen.Announces (m.obey .reset).machine.screen := by
  intro m
  have hm : Reachable m := (Reachable.booted (.bare {} .loaded)).obeyAll _ (by decide)
  have hclear := change_is_announced hm (.execute .clearScreen) (by decide) nofun
  have hreset := change_is_announced hm .reset (by decide) nofun
  refine ⟨hclear.2 nofun, fun h => ?_⟩
  have hlit : m.screen.pixel? 0 0 = some 1 := pixel?_zero
  rw [hreset.1 h rfl] at hlit
  cases Screen.eq_zero_of_blank hlit

/-- **A reset goes unannounced.** After a zero was drawn and the host has shown it, a reset turns
its pixels off and leaves the flag unset. -/
theorem reset_goes_unannounced :
    ¬∀ m, Reachable m → ∀ c : Command, c.InRange → c ≠ .markDrawn →
      m.screen.Announces (m.obey c).machine.screen := by
  intro h
  -- the zero was drawn, and after `markDrawn` nothing is left to announce
  let zero := (boot {} .loaded).obeyAll [.execute (.draw 0 0 5)]
  have hzero : Reachable zero := (Reachable.booted (.bare {} .loaded)).obeyAll _ (by decide)
  have hshown : Reachable zero.markDrawn := hzero.obey .markDrawn (by decide)
  have hblank : zero.screen.markDrawn = .blank :=
    Screen.announces_blank_iff.1 (h _ hshown .reset (by decide) nofun)
  have hlit : zero.screen.pixel? 0 0 = some 1 := pixel?_zero
  rw [← Screen.pixel?_markDrawn, hblank] at hlit
  cases Screen.eq_zero_of_blank hlit

end Chip8.Machine
