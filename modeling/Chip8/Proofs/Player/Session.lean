import Chip8.Proofs.Machine.Sound
import Chip8.Proofs.Player.Frame

/-!
# Sessions

A host asks a player for frames, and pauses and resumes it in between. A session is one course that
this can take, a list of requests. What is to be said of a session is said of the frames in it, so
each frame is kept as a `Round`: the player that was asked for it, and the keys that were held. All
else about the frame follows from these two.

* `Player.serveAll`, `Player.callsOf` — the player behind a session, and what it asked for;
* `Player.rounds` — the frames of a session, in order;
* `Round.active`, `Round.completed` — the frames that do something, and those of them that are run
  to their end; the others fail;
* `Round.stepped`, `Round.trail` — the machine behind the steps of a frame, and the machines on
  which they were made;
* `Player.serveAll_induction` — in a session its machine is only played with.
-/

namespace Chip8

/-- A frame that a player is asked for. -/
structure Round where
  /-- the player before the frame -/
  player : Player
  /-- the keys that are held -/
  keys : Keypad

namespace Player

/-- The player behind some requests. -/
def serveAll (p : Player) (requests : List Request) : Player :=
  requests.foldl (fun p r => (p.serve r).1) p

/-- What a player asks of its host while it serves requests, in order. -/
def callsOf (p : Player) : List Request → List HostCall
  | [] => []
  | r :: rest => (p.serve r).2 ++ (p.serve r).1.callsOf rest

/-- The frame that a request asks for, if it asks for one. -/
def roundsOfOne (p : Player) : Request → List Round
  | .frame keys => [⟨p, keys⟩]
  | .pause | .resume | .toggle => []

/-- The frames that a player is asked for by some requests, in order. -/
def rounds (p : Player) : List Request → List Round
  | [] => []
  | r :: rest => p.roundsOfOne r ++ (p.serve r).1.rounds rest

/-- The machines on which the next steps are made, at most `left` of them, up to a breakpoint or a
failure. -/
def trail (m : Machine) : (left : Nat) → List Machine
  | 0 => []
  | left + 1 =>
    m :: match m.step.result with
      | .error _ | .ok .breakpoint => []
      | .ok _ => trail m.step.machine left

end Player

namespace Round

/-- What becomes of the frame. -/
def turn (r : Round) : Player.Turn := r.player.frame r.keys

/-- The player about to make the steps of the frame. -/
def armed (r : Round) : Player := r.player.arm r.keys

/-- The machine behind the steps of the frame, before the timers are counted down. -/
def stepped (r : Round) : Machine :=
  (Player.spin r.player.verbosity 0 #[] r.armed.machine r.player.budget.cycles).machine

/-- The machines on which the steps of the frame are made. -/
def trail (r : Round) : List Machine :=
  if r.player.paused then [] else Player.trail r.armed.machine r.player.budget.cycles

/-- The frame does something: what comes of it is not that the player was paused. -/
def active (r : Round) : Bool :=
  match r.turn.result with
  | .ok .paused => false
  | _ => true

/-- The frame is run to its end, with all of its steps or up to a breakpoint. -/
def completed (r : Round) : Bool :=
  match r.turn.result with
  | .ok (.ran _) | .ok (.breakpoint _) => true
  | _ => false

/-- The frame is completed, and the sound timer goes from one to zero when it is counted down. -/
def beeps (r : Round) : Bool :=
  r.completed && r.stepped.timers.sound == 1 && r.turn.player.machine.timers.sound == 0

end Round

/-- The completed frames of a session, in order, and whether each of them beeps. -/
def Player.beeps (p : Player) (requests : List Request) : List Bool :=
  ((p.rounds requests).filter Round.completed).map Round.beeps

namespace Player

variable {p : Player} {requests : List Request} {r : Request}

/-! ## Sessions -/

@[simp] theorem serveAll_cons :
    p.serveAll (r :: requests) = (p.serve r).1.serveAll requests := rfl

theorem beeps_cons : p.beeps (r :: requests) = p.beeps [r] ++ (p.serve r).1.beeps requests := by
  simp only [beeps, rounds, List.append_nil, List.filter_append, List.map_append]

theorem beeps_of_completed {keys : Keypad} (h : (Round.mk p keys).completed = true) :
    p.beeps [.frame keys] = [(Round.mk p keys).beeps] := by
  rw [beeps, rounds, roundsOfOne, List.singleton_append, List.filter_cons_of_pos h]
  rfl

theorem beeps_of_not_completed {keys : Keypad} (h : (Round.mk p keys).completed = false) :
    p.beeps [.frame keys] = [] := by
  rw [beeps, rounds, roundsOfOne, List.singleton_append,
    List.filter_cons_of_neg (Bool.not_eq_true _ ▸ h)]
  rfl

theorem beeps_of_switch (h : p.roundsOfOne r = []) : p.beeps [r] = [] := by
  rw [beeps, rounds, h]
  rfl

end Player

/-! ## One frame -/

namespace Round

variable {r : Round}

/-- A frame of a paused player does nothing. -/
theorem turn_of_paused (hp : r.player.paused = true) : r.turn = ⟨.ok .paused, r.player, [], []⟩ :=
  if_pos hp

/-- The frames that do something are those of a player that is not paused. -/
theorem active_eq_not_paused : r.active = !r.player.paused := by
  have hf := r.player.frames r.keys
  rw [active, turn]
  generalize (r.player.frame r.keys).result = result at hf ⊢
  generalize (r.player.frame r.keys).player = q at hf
  generalize (r.player.frame r.keys).calls = calls at hf
  cases hf with
  | paused hp | failed hp | ran hp | breakpoint hp =>
    rw [hp]
    rfl

/-- A frame that does something and is not completed fails. -/
theorem exists_error_of_active (ha : r.active = true) (hc : r.completed = false) :
    ∃ e, r.turn.result = .error e := by
  rw [active] at ha
  rw [completed] at hc
  generalize r.turn.result = result at ha hc ⊢
  rcases result with e | outcome
  · exact ⟨e, rfl⟩
  · cases outcome with
    | paused => cases ha
    | ran | breakpoint => cases hc

/-- The steps of a frame end in one way, and leave one machine. -/
theorem eq_stepped {stop : Player.Stop} {n : Machine}
    (hs : Player.Spins 0 r.player.budget.cycles r.armed.machine stop n) : n = r.stepped :=
  ((Player.spins _ 0 #[] _ _).unique hs).2

/-- **A completed frame** counts the timers down behind its steps and has the screen drawn, and only
a breakpoint makes a difference to whether the player is paused then. -/
theorem exists_close_of_completed (h : r.completed = true) :
    r.player.paused = false ∧ ∃ paused,
      r.turn.player = { r.armed with machine := r.stepped, paused }.close.1 ∧
      r.turn.calls = .readKeys :: { r.armed with machine := r.stepped, paused }.close.2 := by
  have hf := r.player.frames r.keys
  rw [completed, turn] at h
  rw [turn]
  generalize (r.player.frame r.keys).result = result at hf h
  generalize (r.player.frame r.keys).player = q at hf ⊢
  generalize (r.player.frame r.keys).calls = calls at hf ⊢
  cases hf with
  | paused | failed => cases h
  | ran hp hs =>
    rw [← eq_stepped hs]
    exact ⟨hp, _, rfl, rfl⟩
  | breakpoint hp hs =>
    rw [← eq_stepped hs]
    exact ⟨hp, _, rfl, rfl⟩

/-- A completed frame counts the timers down once, however its steps went. -/
theorem timers_of_completed (h : r.completed = true) :
    r.turn.player.machine.timers = r.stepped.timers.tick := by
  obtain ⟨-, paused, hplayer, -⟩ := exists_close_of_completed h
  rw [hplayer, Player.machine_close]
  rfl

/-- A completed frame beeps if there is a beep to start. -/
theorem beeps_of_completed (h : r.completed = true) : r.beeps = r.stepped.timers.beeps := by
  rw [beeps, h, timers_of_completed h, Bool.true_and, Timers.beeps, Timers.tick]
  by_cases hs : r.stepped.timers.sound = 1
  · rw [hs]
    rfl
  · rw [beq_false_of_ne hs, Bool.false_and]

/-- **A frame that is not completed** does nothing or fails, and a frame that fails ends with its
steps. -/
theorem eq_or_eq_of_not_completed (h : r.completed = false) :
    r.turn.player = r.player ∧ r.turn.calls = [] ∨
      r.player.paused = false ∧ r.turn.player = { r.armed with machine := r.stepped } ∧
        r.turn.calls = [.readKeys] := by
  have hf := r.player.frames r.keys
  rw [completed, turn] at h
  rw [turn]
  generalize (r.player.frame r.keys).result = result at hf h
  generalize (r.player.frame r.keys).player = q at hf ⊢
  generalize (r.player.frame r.keys).calls = calls at hf ⊢
  cases hf with
  | paused hp => exact .inl ⟨rfl, rfl⟩
  | failed hp hs =>
    rw [← eq_stepped hs]
    exact .inr ⟨hp, rfl, rfl⟩
  | ran | breakpoint => cases h

end Round

/-! ## The machine of a session -/

namespace Player

open Machine

variable {p : Player}

/-- The steps of a frame are steps. -/
theorem Spins.exists_play {done left : Nat} {m n : Machine} {stop : Stop}
    (hs : Spins done left m stop n) : ∃ j, n = m.play (List.replicate j .step) := by
  induction hs with
  | finished => exact ⟨0, rfl⟩
  | failed | breakpoint =>
    refine ⟨1, ?_⟩
    rw [List.replicate_one, play_cons, machine_act_step, play_nil]
  | step ho hb hs ih =>
    obtain ⟨j, hn⟩ := ih
    refine ⟨j + 1, ?_⟩
    rw [List.replicate_succ, play_cons, machine_act_step, hn]

/-- A frame plays with the machine. -/
theorem exists_play_frame (p : Player) (keys : Keypad) :
    ∃ actions, (p.frame keys).player.machine = p.machine.play actions := by
  have hf := p.frames keys
  generalize (p.frame keys).result = result at hf
  generalize (p.frame keys).player = q at hf ⊢
  generalize (p.frame keys).calls = calls at hf
  have hclose {stop : Stop} {n : Machine} {paused : Bool}
      (hs : Spins 0 p.budget.cycles (p.arm keys).machine stop n) :
      ∃ actions, { p.arm keys with machine := n, paused }.close.1.machine =
        p.machine.play actions := by
    obtain ⟨j, rfl⟩ := hs.exists_play
    refine ⟨.setKeypad keys :: (List.replicate j .step ++ [.tick, .markDrawn]), ?_⟩
    rw [machine_close, play_cons, play_append]
    rfl
  cases hf with
  | paused => exact ⟨[], rfl⟩
  | failed hp hs =>
    obtain ⟨j, rfl⟩ := hs.exists_play
    exact ⟨.setKeypad keys :: List.replicate j .step, rfl⟩
  | ran hp hs => exact hclose hs
  | breakpoint hp hs => exact hclose hs

/-- A request asks for a frame, or does nothing but pause the player or let it run. -/
theorem frame_or_switch (p : Player) (r : Request) :
    (∃ keys, r = .frame keys) ∨
      ∃ paused, p.serve r = ({ p with paused }, []) ∧ p.roundsOfOne r = [] := by
  cases r with
  | frame keys => exact .inl ⟨keys, rfl⟩
  | pause => exact .inr ⟨true, by rw [serve, player_pause], rfl⟩
  | resume => exact .inr ⟨false, by rw [serve, player_resume], rfl⟩
  | toggle => exact .inr ⟨!p.paused, by rw [serve, player_toggle], rfl⟩

/-- **In a session the machine is only played with**, so what each action preserves holds of the
machine throughout. -/
theorem serveAll_induction {P : Machine → Prop} (h₀ : P p.machine)
    (hact : ∀ m a, P m → P (m.act a).machine) (requests : List Request) :
    P (p.serveAll requests).machine := by
  induction requests generalizing p with
  | nil => exact h₀
  | cons r rest ih =>
    refine ih ?_
    rcases p.frame_or_switch r with ⟨keys, rfl⟩ | ⟨paused, hs, -⟩
    · obtain ⟨actions, hm⟩ := p.exists_play_frame keys
      show P (p.frame keys).player.machine
      rw [hm]
      exact play_induction h₀ hact actions
    · show P (p.serve r).1.machine
      rw [hs]
      exact h₀

/-- The machine of a program that is played is sound throughout. -/
theorem sound_serveAll {program : List UInt8} {dialect : Dialect} {dice : Dice} {rate : UInt32}
    {verbosity : Level}
    (h : ((start program dialect dice).play rate verbosity).result = .ok p)
    (requests : List Request) : (p.serveAll requests).machine.Sound := by
  obtain ⟨hle, rfl⟩ := play_eq_ok_iff.1 h
  exact serveAll_induction (sound_start (start_eq_ok_iff.2 ⟨hle, rfl⟩)) (fun _ a hm => hm.act a) _

end Player

end Chip8
