import Chip8.Player.Basic
import Chip8.Proofs.Machine.Obey

/-!
# What a frame comes to

The steps of a frame are made by a loop that ends early at a breakpoint and at once at a failure,
and how it ended decides what else the frame does. `Player.Spins` lists the ways through the loop
and `Player.Frames` those through the frame, so that a case split on `Player.frames` replaces
looking into `Player.frame`.

* `spins` — the steps of a frame go one of the ways of `Spins`;
* `frames` — a frame goes one of the ways of `Frames`;
* `frame_of_failed`, `frame_of_finished`, `frame_of_breakpoint` — which way it goes if it is known
  how its steps end, and `Frames.frame_eq` for all of them;
* `Request`, `serve` — what a host may ask of a player, and what the player does then;
* `play_eq_ok_iff` — which programs can be played, and by which player.
-/

namespace Chip8

/-- Something that a host asks of a player. -/
inductive Request
  /-- run a frame while some keys are held -/
  | frame (keys : Keypad)
  /-- stop running frames -/
  | pause
  /-- run frames again -/
  | resume
  /-- stop running frames, or run them again -/
  | toggle

namespace Player

/-- The player behind a request, and what it asked of its host. -/
def serve (p : Player) : Request → Player × List HostCall
  | .frame keys => ((p.frame keys).player, (p.frame keys).calls)
  | .pause => (p.pause.player, [])
  | .resume => (p.resume.player, [])
  | .toggle => (p.toggle.player, [])

/-! ## The steps -/

/-- With `done` steps made already, the steps of a frame on a machine end and leave a machine. -/
inductive Spins : (done left : Nat) → Machine → Stop → Machine → Prop
  /-- no step is left to make -/
  | finished {done : Nat} {m : Machine} : Spins done 0 m .finished m
  /-- the next step fails -/
  | failed {done left : Nat} {m : Machine} {e : Failure} (he : m.step.result = .error e) :
      Spins done (left + 1) m (.failed e) m.step.machine
  /-- the next step is a breakpoint -/
  | breakpoint {done left : Nat} {m : Machine} (ho : m.step.result = .ok .breakpoint) :
      Spins done (left + 1) m (.breakpoint (done + 1)) m.step.machine
  /-- the next step is neither, and others may follow -/
  | step {done left : Nat} {m n : Machine} {o : Outcome} {stop : Stop}
      (ho : m.step.result = .ok o) (hb : o ≠ .breakpoint)
      (hs : Spins (done + 1) left m.step.machine stop n) : Spins done (left + 1) m stop n

/-- **The steps of a frame** go one of the ways of `Spins`. -/
theorem spins (kept : Level) (done : Nat) (log : Array Event) (m : Machine) (left : Nat) :
    Spins done left m (spin kept done log m left).stop (spin kept done log m left).machine := by
  induction left generalizing done log m with
  | zero => exact .finished
  | succ left ih =>
    simp only [spin]
    split
    · next e he => exact .failed he
    · next ho => exact .breakpoint ho
    · next o hb ho => exact .step ho hb (ih _ _ _)

/-- **The ways of `Spins` exclude each other**, so the steps end in one way and leave one
machine. -/
theorem Spins.unique {done left : Nat} {m n n' : Machine} {stop stop' : Stop}
    (h : Spins done left m stop n) (h' : Spins done left m stop' n') : stop' = stop ∧ n' = n := by
  induction h with
  | finished =>
    cases h'
    exact ⟨rfl, rfl⟩
  | failed he =>
    cases h' with
    | failed he' =>
      cases he.symm.trans he'
      exact ⟨rfl, rfl⟩
    | breakpoint ho' | step ho' => cases he.symm.trans ho'
  | breakpoint ho =>
    cases h' with
    | failed he' => cases ho.symm.trans he'
    | breakpoint ho' => exact ⟨rfl, rfl⟩
    | step ho' hb' => exact absurd (Except.ok.inj (ho'.symm.trans ho)) hb'
  | step ho hb hs ih =>
    cases h' with
    | failed he' => cases ho.symm.trans he'
    | breakpoint ho' => exact absurd (Except.ok.inj (ho.symm.trans ho')) hb
    | step ho' hb' hs' => exact ih hs'

/-! ## The end of a frame -/

/-- The end of a frame is a tick, and what is on the screen counts as drawn from there on. -/
theorem machine_close (p : Player) : p.close.1.machine = p.machine.tick.markDrawn := by
  show p.tick.1.present.1.machine = _
  rw [present]
  split
  · rfl
  · next hr =>
    have hr' : p.machine.screen.redraw = false := Bool.eq_false_iff.2 hr
    have hscreen : p.machine.screen.markDrawn = p.machine.screen := by rw [Screen.markDrawn, ← hr']
    rw [Machine.markDrawn]
    exact congrArg (fun screen => { p.machine.tick with screen }) hscreen.symm

theorem budget_close (p : Player) : p.close.1.budget = p.budget := by
  show p.tick.1.present.1.budget = p.budget
  rw [present]
  split <;> rfl

theorem paused_close (p : Player) : p.close.1.paused = p.paused := by
  show p.tick.1.present.1.paused = p.paused
  rw [present]
  split <;> rfl

theorem verbosity_close (p : Player) : p.close.1.verbosity = p.verbosity := by
  show p.tick.1.present.1.verbosity = p.verbosity
  rw [present]
  split <;> rfl

/-- Drawing the screen has nothing to do with the tone. -/
theorem toneFrames_close (p : Player) :
    p.close.1.toneFrames = (sound p.machine.timers.beeps p.toneFrames).1 := by
  show p.tick.1.present.1.toneFrames = _
  rw [present]
  split <;> rfl

/-! ## The frame -/

/-- A frame has a result, leaves a player and asks for something. -/
inductive Frames (p : Player) (keys : Keypad) :
    Except Failure FrameOutcome → Player → List HostCall → Prop
  /-- the player is paused -/
  | paused (hp : p.paused = true) : Frames p keys (.ok .paused) p []
  /-- one of the steps fails -/
  | failed {e : Failure} {n : Machine} (hp : p.paused = false)
      (hs : Spins 0 p.budget.cycles (p.arm keys).machine (.failed e) n) :
      Frames p keys (.error e) { p.arm keys with machine := n } [.readKeys]
  /-- all steps are made -/
  | ran {n : Machine} (hp : p.paused = false)
      (hs : Spins 0 p.budget.cycles (p.arm keys).machine .finished n) :
      Frames p keys (.ok (.ran p.budget.cycles)) { p.arm keys with machine := n }.close.1
        (.readKeys :: { p.arm keys with machine := n }.close.2)
  /-- the last of the steps is a breakpoint -/
  | breakpoint {cycles : Nat} {n : Machine} (hp : p.paused = false)
      (hs : Spins 0 p.budget.cycles (p.arm keys).machine (.breakpoint cycles) n) :
      Frames p keys (.ok (.breakpoint cycles))
        { p.arm keys with machine := n, paused := true }.close.1
        (.readKeys :: { p.arm keys with machine := n, paused := true }.close.2)

variable {p : Player}

/-- A player is paused behind a pause. -/
theorem player_pause : p.pause.player = { p with paused := true } := by
  rw [pause]
  split
  · next hp => rw [← hp]
  · rfl

/-- A player is not paused behind being resumed. -/
theorem player_resume : p.resume.player = { p with paused := false } := by
  rw [resume]
  split
  · rfl
  · next hp => rw [← Bool.eq_false_iff.2 hp]

/-- Toggling a pause turns it into its opposite. -/
theorem player_toggle : p.toggle.player = { p with paused := !p.paused } := by
  rw [toggle]
  split
  · next hp =>
    rw [player_resume, hp]
    rfl
  · next hp =>
    rw [player_pause, Bool.eq_false_iff.2 hp]
    rfl

/-- **A frame** goes one of the ways of `Frames`. -/
theorem frames (p : Player) (keys : Keypad) :
    p.Frames keys (p.frame keys).result (p.frame keys).player (p.frame keys).calls := by
  rcases hp : p.paused with - | -
  · -- the loop is the only part of the frame that can fail
    have hs := spins p.verbosity 0 #[] (p.arm keys).machine p.budget.cycles
    simp only [frame, hp, Bool.false_eq_true, if_false]
    generalize spin p.verbosity 0 #[] (p.arm keys).machine p.budget.cycles = steps at hs ⊢
    obtain ⟨stop, n, log⟩ := steps
    cases stop with
    | finished => exact .ran hp hs
    | breakpoint cycles =>
      simp only [player_pause]
      exact .breakpoint hp hs
    | failed e => exact .failed hp hs
  · rw [frame, if_pos hp]
    exact .paused hp

variable {keys : Keypad} {n : Machine}

/-- A frame of which a step fails. -/
theorem frame_of_failed {e : Failure} (hp : p.paused = false)
    (hs : Spins 0 p.budget.cycles (p.arm keys).machine (.failed e) n) :
    (p.frame keys).result = .error e ∧
      (p.frame keys).player = { p.arm keys with machine := n } ∧
      (p.frame keys).calls = [.readKeys] := by
  obtain ⟨hstop, hn⟩ := hs.unique (spins p.verbosity 0 #[] _ _)
  simp only [frame, hp, Bool.false_eq_true, if_false, hstop, hn, and_self]

/-- A frame that makes all of its steps. -/
theorem frame_of_finished (hp : p.paused = false)
    (hs : Spins 0 p.budget.cycles (p.arm keys).machine .finished n) :
    (p.frame keys).result = .ok (.ran p.budget.cycles) ∧
      (p.frame keys).player = { p.arm keys with machine := n }.close.1 ∧
      (p.frame keys).calls = .readKeys :: { p.arm keys with machine := n }.close.2 := by
  obtain ⟨hstop, hn⟩ := hs.unique (spins p.verbosity 0 #[] _ _)
  simp only [frame, hp, Bool.false_eq_true, if_false, hstop, hn, and_self]

/-- A frame that comes to a breakpoint. -/
theorem frame_of_breakpoint {cycles : Nat} (hp : p.paused = false)
    (hs : Spins 0 p.budget.cycles (p.arm keys).machine (.breakpoint cycles) n) :
    (p.frame keys).result = .ok (.breakpoint cycles) ∧
      (p.frame keys).player = { p.arm keys with machine := n, paused := true }.close.1 ∧
      (p.frame keys).calls =
        .readKeys :: { p.arm keys with machine := n, paused := true }.close.2 := by
  obtain ⟨hstop, hn⟩ := hs.unique (spins p.verbosity 0 #[] _ _)
  simp only [frame, hp, Bool.false_eq_true, if_false, hstop, hn, player_pause, and_self]

/-- **The way that a frame goes** says all about it. -/
theorem Frames.frame_eq {result : Except Failure FrameOutcome} {q : Player} {calls : List HostCall}
    (h : p.Frames keys result q calls) :
    (p.frame keys).result = result ∧ (p.frame keys).player = q ∧ (p.frame keys).calls = calls := by
  cases h with
  | paused hp => simp only [frame, hp, if_true, and_self]
  | failed hp hs => exact frame_of_failed hp hs
  | ran hp hs => exact frame_of_finished hp hs
  | breakpoint hp hs => exact frame_of_breakpoint hp hs

/-! ## Setting up -/

/-- A program can be played exactly if it fits, and its player has the machine that it was started
on. -/
theorem play_eq_ok_iff {program : List UInt8} {dialect : Dialect} {dice : Dice} {rate : UInt32}
    {verbosity : Level} :
    ((Machine.start program dialect dice).play rate verbosity).result = .ok p ↔
      program.length ≤ 3232 ∧
        p = .ofMachine { Machine.boot dialect dice with
          memory := Memory.initial.put Memory.programStart program } rate verbosity := by
  rw [Setup.play]
  constructor
  · intro h
    split at h
    · next m hm =>
      obtain ⟨hle, rfl⟩ := Machine.start_eq_ok_iff.1 hm
      exact ⟨hle, (Except.ok.inj h).symm⟩
    · cases h
  · rintro ⟨hle, rfl⟩
    rw [Machine.start_eq_ok_iff.2 ⟨hle, rfl⟩]

end Player

end Chip8
