import Chip8.Proofs.Machine.Blind
import Chip8.Proofs.Play
import Chip8.Proofs.Player.Budget
import Chip8.Proofs.Player.Frame

/-!
# The pace of a player does not matter to its program

A player cuts the course of a program into frames. Between two of them it counts the timers down,
takes back the flag of the screen and sees to the tone, so the same program is interrupted in
different places at different rates. All of this is out of sight of a program that never reads the
delay timer: after any number of frames it is where the same number of steps takes it without a
player. How many steps these are depends on the product of the rate and the number of frames alone.

* `Player.after` — the player after a number of frames with the same keys held;
* `Player.Undisturbed` — all of these frames make all of their steps, and none reads the delay
  timer;
* `Spins.twins`, `Undisturbed.twins` — a frame, and several of them, against a machine that only
  makes steps;
* `pace_does_not_matter` — the same for a program that was just started.
-/

namespace Chip8

namespace Machine

variable {m : Machine}

/-- A machine that was just started is intact. -/
theorem intact_start {program : List UInt8} {dialect : Dialect} {dice : Dice}
    (h : (start program dialect dice).result = .ok m) : m.Intact :=
  (Reachable.booted (.program h)).intact

end Machine

namespace Player

open Machine

/-- The player after a number of frames with the same keys held. -/
def after (p : Player) (keys : Keypad) : (frames : Nat) → Player
  | 0 => p
  | frames + 1 => (p.frame keys).player.after keys frames

/-- Each of a number of frames makes all of its steps, and none of the steps reads the delay
timer. -/
structure Undisturbed (p : Player) (keys : Keypad) (frames : Nat) : Prop where
  /-- no frame is paused, fails or comes to a breakpoint -/
  ran : ∀ k < frames, ∃ cycles, ((p.after keys k).frame keys).result = .ok (.ran cycles)
  /-- no step of a frame is an `FX07` -/
  blind : ∀ k < frames, ∀ j < (p.after keys k).budget.cycles, ∀ x,
    (((p.after keys k).arm keys).machine.play (List.replicate j .step)).step.result ≠
      .ok (.executed (.readDelay x))

variable {p : Player} {keys : Keypad} {frames : Nat}

/-! ## Trying it out -/

/-- A frame made all of its steps. -/
def Turn.ranAll (turn : Turn) : Bool :=
  match turn.result with
  | .ok (.ran _) => true
  | _ => false

theorem Turn.ranAll_iff {turn : Turn} :
    turn.ranAll = true ↔ ∃ cycles, turn.result = .ok (.ran cycles) := by
  rw [ranAll]
  split
  · next cycles h => exact ⟨fun _ => ⟨cycles, h⟩, fun _ => rfl⟩
  · next hne => exact ⟨fun h => (by cases h), fun ⟨cycles, h⟩ => absurd h (hne cycles)⟩

/-- A step was an `FX07`. -/
def readsDelay (report : Report Outcome) : Bool :=
  match report.result with
  | .ok (.executed (.readDelay _)) => true
  | _ => false

theorem readsDelay_eq_false_iff {report : Report Outcome} :
    readsDelay report = false ↔ ∀ x, report.result ≠ .ok (.executed (.readDelay x)) := by
  rw [readsDelay]
  split
  · next x h => exact ⟨fun hf => (by cases hf), fun hne => absurd h (hne x)⟩
  · next hne => exact ⟨fun _ => hne, fun _ => rfl⟩

/-- Whether some frames are undisturbed can be found out by running them. -/
instance (p : Player) (keys : Keypad) (frames : Nat) : Decidable (p.Undisturbed keys frames) :=
  decidable_of_iff
    ((∀ k < frames, ((p.after keys k).frame keys).ranAll = true) ∧
      ∀ k < frames, ∀ j < (p.after keys k).budget.cycles,
        readsDelay (((p.after keys k).arm keys).machine.play (List.replicate j .step)).step = false)
    ⟨fun h => ⟨fun k hk => Turn.ranAll_iff.1 (h.1 k hk),
        fun k hk j hj => readsDelay_eq_false_iff.1 (h.2 k hk j hj)⟩,
      fun h => ⟨fun k hk => Turn.ranAll_iff.2 (h.ran k hk),
        fun k hk j hj => readsDelay_eq_false_iff.2 (h.blind k hk j hj)⟩⟩

/-! ## One frame -/

/-- The steps of a frame are those of a machine that only makes steps. -/
theorem Spins.twins {done left : Nat} {m n twin : Machine} (hs : Spins done left m .finished n)
    (hm : m.Intact) (h : m.Twins twin)
    (hblind : ∀ j < left, ∀ x,
      (m.play (List.replicate j .step)).step.result ≠ .ok (.executed (.readDelay x))) :
    n.Intact ∧ n.keypad = m.keypad ∧ n.Twins (twin.play (List.replicate left .step)) := by
  induction left generalizing done m twin with
  | zero =>
    cases hs
    exact ⟨hm, rfl, h⟩
  | succ left ih =>
    cases hs with
    | @step _ _ _ _ o _ ho hb hs =>
      have hfirst : ∀ x, o ≠ .executed (.readDelay x) := by
        rintro x rfl
        exact hblind 0 (Nat.zero_lt_succ left) x ho
      obtain ⟨-, htwins⟩ := h.step hm ho hfirst
      obtain ⟨hn, hkeypad, hend⟩ := ih hs hm.step htwins fun j hj x => by
        have hlater := hblind (j + 1) (Nat.succ_lt_succ hj) x
        rwa [List.replicate_succ, play_cons, machine_act_step] at hlater
      refine ⟨hn, hkeypad.trans (hm.keypad_of_step ho), ?_⟩
      rwa [List.replicate_succ, play_cons, machine_act_step]

/-- A frame that makes all of its steps. -/
theorem exists_spins_of_ran {cycles : Nat} (h : (p.frame keys).result = .ok (.ran cycles)) :
    ∃ n redraw, Spins 0 p.budget.cycles (p.arm keys).machine .finished n ∧
      (p.frame keys).player.machine = n.hosted n.timers.tick redraw ∧
      (p.frame keys).player.budget = p.budget.take := by
  have hf := p.frames keys
  rw [h] at hf
  generalize (p.frame keys).player = q at hf ⊢
  generalize (p.frame keys).calls = calls at hf
  cases hf with
  | @ran n hp hs =>
    exact ⟨n, false, hs, machine_close _, budget_close _⟩

/-! ## Several frames -/

/-- Whatever keys are held, a game stands at the same point. -/
theorem sameGame_arm (p : Player) (keys : Keypad) : p.machine.SameGame (p.arm keys).machine :=
  .hosted p.machine p.machine.timers p.machine.screen.redraw keys

theorem Undisturbed.tail (h : p.Undisturbed keys (frames + 1)) :
    (p.frame keys).player.Undisturbed keys frames where
  ran k hk := h.ran (k + 1) (Nat.succ_lt_succ hk)
  blind k hk := h.blind (k + 1) (Nat.succ_lt_succ hk)

/-- **The first of some frames** takes the game as far as the steps that it makes. What comes behind
them, and the keys of the next frame, are nothing that the game notices. -/
theorem Undisturbed.frame_twins {twin : Machine} (h : p.Undisturbed keys (frames + 1))
    (hm : p.machine.Intact) (ht : (p.arm keys).machine.Twins twin) :
    (p.frame keys).player.machine.Intact ∧ (p.frame keys).player.budget = p.budget.take ∧
      ((p.frame keys).player.arm keys).machine.Twins
        (twin.play (List.replicate p.budget.cycles .step)) := by
  obtain ⟨cycles, hran⟩ := h.ran 0 (Nat.zero_lt_succ frames)
  obtain ⟨n, redraw, hs, hmachine, hbudget⟩ := exists_spins_of_ran (p := p) hran
  obtain ⟨hn, hkeypad, hend⟩ :=
    hs.twins (hm.act (.setKeypad keys)) ht (h.blind 0 (Nat.zero_lt_succ frames))
  have hgame : n.SameGame (p.frame keys).player.machine := by
    rw [hmachine]
    exact .hosted n n.timers.tick redraw n.keypad
  have hnext := (hgame.trans (sameGame_arm _ keys)).symm.trans hend.toSameGame
  exact ⟨hgame.intact hn, hbudget, hnext, hend.keypad.trans hkeypad⟩

/-- **Some frames** take the game as far as all the steps that they make. -/
theorem Undisturbed.twins {twin : Machine} (h : p.Undisturbed keys frames)
    (hm : p.machine.Intact) (ht : (p.arm keys).machine.Twins twin) :
    ((p.after keys frames).arm keys).machine.Twins
      (twin.play (List.replicate (p.budget.spent frames) .step)) := by
  induction frames generalizing p twin with
  | zero => exact ht
  | succ frames ih =>
    obtain ⟨hm', hbudget, ht'⟩ := h.frame_twins hm ht
    have hlater := ih h.tail hm' ht'
    rwa [hbudget, ← play_append, List.replicate_append_replicate] at hlater

/-- A player whose frames are undisturbed gets as far as a machine that makes as many steps. -/
theorem Undisturbed.sameGame_play {m₀ : Machine} {rate : UInt32} {verbosity : Level}
    (h : (ofMachine m₀ rate verbosity).Undisturbed keys frames) (hm : m₀.Intact)
    (hrate : rate.toNat ≤ 0x100000000 - 60) :
    (m₀.play (.setKeypad keys :: List.replicate (frames * rate.toNat / 60) .step)).SameGame
      ((ofMachine m₀ rate verbosity).after keys frames).machine := by
  have htwins := h.twins hm (Twins.refl _)
  have hspent : (Budget.ofRate rate).spent frames = frames * rate.toNat / 60 :=
    Budget.spent_eq hrate (Nat.zero_lt_succ 59) frames
  rw [← hspent]
  exact ((sameGame_arm _ keys).trans htwins.toSameGame).symm

/-- **The pace of a player does not matter to its program.** Take a program that was just started
and some keys that are held throughout. A player that runs it undisturbed for a number of frames
gets as far in the game as a machine that makes as many steps as the frames have at that rate,
without any tick of the timers. So two players get equally far if their frames have equally many
steps. -/
theorem pace_does_not_matter {program : List UInt8} {dialect : Dialect} {dice : Dice}
    {m₀ : Machine} (h : (start program dialect dice).result = .ok m₀) (keys : Keypad) :
    (∀ (rate : UInt32) (verbosity : Level) (frames : Nat), rate.toNat ≤ 0x100000000 - 60 →
      (ofMachine m₀ rate verbosity).Undisturbed keys frames →
      (m₀.play (.setKeypad keys :: List.replicate (frames * rate.toNat / 60) .step)).SameGame
        ((ofMachine m₀ rate verbosity).after keys frames).machine) ∧
    ∀ (rate rate' : UInt32) (verbosity verbosity' : Level) (frames frames' : Nat),
      rate.toNat ≤ 0x100000000 - 60 → rate'.toNat ≤ 0x100000000 - 60 →
      (ofMachine m₀ rate verbosity).Undisturbed keys frames →
      (ofMachine m₀ rate' verbosity').Undisturbed keys frames' →
      frames * rate.toNat / 60 = frames' * rate'.toNat / 60 →
      ((ofMachine m₀ rate verbosity).after keys frames).machine.SameGame
        ((ofMachine m₀ rate' verbosity').after keys frames').machine := by
  have hm := intact_start h
  refine ⟨fun _ _ _ hrate hframes => hframes.sameGame_play hm hrate, ?_⟩
  intro rate rate' verbosity verbosity' frames frames' hrate hrate' hframes hframes' hsteps
  have hfirst := hframes.sameGame_play hm hrate
  have hsecond := hframes'.sameGame_play hm hrate'
  rw [hsteps] at hfirst
  exact hfirst.symm.trans hsecond

/-- A program that sets the delay timer and then jumps to itself, in three frames of a step and in
one frame of three steps: the game is the same, although the delay timer is not. -/
theorem two_paces_same_game :
    ∃ m₀, (start [0x60, 0x05, 0xF0, 0x15, 0x12, 0x04] {} .loaded).result = .ok m₀ ∧
      ((ofMachine m₀ 60 .error).after .released 3).machine.timers.delay = 3 ∧
      ((ofMachine m₀ 180 .error).after .released 1).machine.timers.delay = 4 ∧
      (m₀.play [.setKeypad .released, .step, .step, .step]).SameGame
        ((ofMachine m₀ 60 .error).after .released 3).machine ∧
      ((ofMachine m₀ 60 .error).after .released 3).machine.SameGame
        ((ofMachine m₀ 180 .error).after .released 1).machine := by
  obtain ⟨m₀, h, hslow, hfast, hdelays⟩ : ∃ m₀,
      (start [0x60, 0x05, 0xF0, 0x15, 0x12, 0x04] {} .loaded).result = .ok m₀ ∧
        (ofMachine m₀ 60 .error).Undisturbed .released 3 ∧
        (ofMachine m₀ 180 .error).Undisturbed .released 1 ∧
        ((ofMachine m₀ 60 .error).after .released 3).machine.timers.delay = 3 ∧
        ((ofMachine m₀ 180 .error).after .released 1).machine.timers.delay = 4 :=
    ⟨_, start_eq_ok_iff.2 ⟨by decide, rfl⟩, by decide +kernel, by decide +kernel,
      by decide +kernel⟩
  obtain ⟨hone, htwo⟩ := pace_does_not_matter h .released
  exact ⟨m₀, h, hdelays.1, hdelays.2, hone 60 .error 3 (by decide) hslow,
    htwo 60 180 .error .error 3 1 (by decide) (by decide) hslow hfast rfl⟩

end Player

end Chip8
