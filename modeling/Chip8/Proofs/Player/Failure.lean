import Chip8.Proofs.Halting
import Chip8.Proofs.Player.Budget
import Chip8.Proofs.Player.Session
import Chip8.Proofs.Player.View

/-!
# Behind a failed frame

A frame fails when a step of its machine fails, and this halts the machine. No later frame gets past
its first step then, so each of them fails at once, before the timers and the screen have their
turn. That is so for frames that have a step to make. At less than sixty steps a second there are
frames that have none, and these do not look at whether the machine has halted: they succeed and
count the timers down, and a beep may start in them. They have nothing to draw, though, since at
such rates the step that fails is the only one of its frame.

* `Settled` — what holds of a player between two frames, so that a failure leaves nothing to draw;
* `Spins.halted_of_failed`, `halted_serveAll` — a failed frame halts the machine for good;
* `Round.Lifeless`, `Round.lifeless` — what comes of a frame of a halted machine;
* `failure_is_final` — so this comes of all frames behind one that failed;
* `tone_starts_behind_failure` — it can be more than another failure.
-/

namespace Chip8

namespace Player

open Machine

variable {p : Player} {m n : Machine} {e : Failure} {done left : Nat}

/-! ## The steps of a failed frame -/

/-- Steps of which one fails leave a sound machine halted. -/
theorem Spins.halted_of_failed (hs : Spins done left m (.failed e) n) (hm : m.Sound) :
    n.status = .halted := by
  generalize hstop : Stop.failed e = stop at hs
  induction hs with
  | finished | breakpoint => cases hstop
  | failed he => rw [hm.eq_of_error he]
  | step ho hb hs ih => exact ih hm.step hstop

/-- If there was only one step to make and it fails, the screen stays as it was. -/
theorem Spins.screen_of_failed (hs : Spins done left m (.failed e) n) (hm : m.Sound)
    (hleft : left ≤ 1) : n.screen = m.screen := by
  cases hs with
  | failed he => rw [hm.eq_of_error he]
  | @step _ left _ _ _ _ ho hb hs =>
    obtain rfl : left = 0 := Nat.le_zero.1 (Nat.le_of_succ_le_succ hleft)
    cases hs

/-! ## Between two frames -/

/-- What holds of a player of a program between two frames. -/
structure Settled (rate : UInt32) (p : Player) : Prop where
  /-- the rate stays what it was -/
  rate_eq : p.budget.rate = rate
  /-- less than a step is left over -/
  remainder_lt : p.budget.remainder < Budget.framesPerSecond
  /-- the machine is sound -/
  sound : p.machine.Sound
  /-- if no frame makes two steps, there is nothing to draw -/
  drawn : rate.toNat < Budget.framesPerSecond → p.machine.screen.redraw = false

/-- A player that was just set up is settled. -/
theorem settled_of_play {program : List UInt8} {dialect : Dialect} {dice : Dice} {rate : UInt32}
    {verbosity : Level}
    (h : ((start program dialect dice).play rate verbosity).result = .ok p) : p.Settled rate := by
  have hsound := sound_serveAll h []
  obtain ⟨-, rfl⟩ := play_eq_ok_iff.1 h
  exact ⟨rfl, Nat.zero_lt_succ 59, hsound, fun _ => rfl⟩

namespace Settled

variable {rate : UInt32}

/-- A frame at less than sixty steps a second makes at most one. -/
theorem cycles_le_one (h : p.Settled rate) (hrate : rate.toNat < Budget.framesPerSecond) :
    p.budget.cycles ≤ 1 := by
  have hle := p.budget.cycles_le h.remainder_lt
  rwa [h.rate_eq, Nat.div_eq_of_lt hrate] at hle

/-- A frame that makes no step makes less than sixty a second. -/
theorem rate_lt (h : p.Settled rate) (hc : p.budget.cycles = 0) :
    rate.toNat < Budget.framesPerSecond := by
  have hle := p.budget.div_le_cycles
  rw [h.rate_eq, hc, Nat.le_zero, Nat.div_eq_zero_iff] at hle
  exact hle.resolve_left (by decide)

/-- A machine that has taken over the keys is as sound as before. -/
theorem sound_arm (h : p.Settled rate) (keys : Keypad) : (p.arm keys).machine.Sound :=
  h.sound.act (.setKeypad keys)

/-- **A frame** leaves a player settled. -/
theorem frame (h : p.Settled rate) (keys : Keypad) : (p.frame keys).player.Settled rate := by
  have hsound : (p.frame keys).player.machine.Sound :=
    serveAll_induction h.sound (fun _ a hm => hm.act a) [.frame keys]
  have hf := p.frames keys
  generalize (p.frame keys).result = result at hf
  generalize (p.frame keys).player = q at hf hsound ⊢
  generalize (p.frame keys).calls = calls at hf
  cases hf with
  | paused => exact h
  | failed hp hs =>
    refine ⟨h.rate_eq, p.budget.remainder_take_lt, hsound, fun hrate => ?_⟩
    have hscreen := hs.screen_of_failed (h.sound_arm keys) (h.cycles_le_one hrate)
    rw [hscreen]
    exact h.drawn hrate
  | ran hp hs | breakpoint hp hs =>
    refine ⟨?_, ?_, hsound, fun _ => redraw_close⟩
    · rw [budget_close]
      exact h.rate_eq
    · rw [budget_close]
      exact p.budget.remainder_take_lt

/-- **A session** leaves a player settled. -/
theorem serveAll (h : p.Settled rate) (requests : List Request) :
    (p.serveAll requests).Settled rate := by
  induction requests generalizing p with
  | nil => exact h
  | cons r rest ih =>
    refine ih ?_
    rcases p.frame_or_switch r with ⟨keys, rfl⟩ | ⟨paused, hs, -⟩
    · exact h.frame keys
    · show (p.serve r).1.Settled rate
      rw [hs]
      exact ⟨h.rate_eq, h.remainder_lt, h.sound, h.drawn⟩

/-- A frame that fails halts the machine. -/
theorem halted_of_failed (h : p.Settled rate) {keys : Keypad}
    (he : (p.frame keys).result = .error e) : (p.frame keys).player.machine.status = .halted := by
  have hf := p.frames keys
  rw [he] at hf
  generalize (p.frame keys).player = q at hf ⊢
  generalize (p.frame keys).calls = calls at hf
  cases hf with
  | failed hp hs => exact hs.halted_of_failed (h.sound_arm keys)

end Settled

/-- A halted machine stays halted in a session. -/
theorem halted_serveAll (hm : p.machine.status = .halted) (requests : List Request) :
    (p.serveAll requests).machine.status = .halted := by
  refine serveAll_induction (P := fun m => m.status = .halted) hm ?_ requests
  intro m a hm
  cases a <;> exact halted_of_obey hm nofun rfl

/-- With nothing to draw, the end of a frame is a tick. -/
theorem close_of_not_redraw (h : p.machine.screen.redraw = false) : p.close = p.tick := by
  show (p.tick.1.present.1, p.tick.2 ++ p.tick.1.present.2) = p.tick
  rw [present_of_not_redraw (p := p.tick.1) h, List.append_nil]

end Player

/-! ## The frames of a halted machine -/

namespace Round

open Player

variable {r : Round}

/-- What comes of a frame of a player whose machine has halted. -/
structure Lifeless (r : Round) : Prop where
  /-- a frame with steps to make fails, and nothing but the keys is new to the machine -/
  fails : 0 < r.player.budget.cycles →
    r.turn.result = .error (.fault .halted) ∧
      r.turn.player.machine = { r.player.machine with keypad := r.keys } ∧
      r.turn.calls = [.readKeys]
  /-- a frame with none succeeds, and the timers are counted down, with the tone -/
  idles : r.player.budget.cycles = 0 →
    r.turn.result = .ok (.ran 0) ∧
      r.turn.player.machine =
        { r.player.machine with keypad := r.keys, timers := r.player.machine.timers.tick } ∧
      r.turn.calls =
        .readKeys :: (sound r.player.machine.timers.beeps r.player.toneFrames).2
  /-- neither of them has the screen drawn -/
  undrawn : ∀ screen, .draw screen ∉ r.turn.calls

/-- A frame of a halted machine that has steps to make fails at the first of them. -/
theorem turn_of_halted (hp : r.player.paused = false) (hm : r.player.machine.status = .halted)
    (hc : 0 < r.player.budget.cycles) :
    r.turn.result = .error (.fault .halted) ∧
      r.turn.player.machine = { r.player.machine with keypad := r.keys } ∧
      r.turn.calls = [.readKeys] := by
  obtain ⟨hr, hsame⟩ := Machine.step_of_halted (m := r.armed.machine) hm
  obtain ⟨k, hk⟩ := Nat.exists_eq_add_one.2 hc
  have hs : Spins 0 r.player.budget.cycles r.armed.machine (.failed (.fault .halted))
      r.armed.machine.step.machine := by
    rw [hk]
    exact .failed hr
  obtain ⟨hresult, hplayer, hcalls⟩ := frame_of_failed hp hs
  rw [hsame] at hplayer
  exact ⟨hresult, congrArg Player.machine hplayer, hcalls⟩

/-- A frame that has no steps to make does not care what its machine is like. With nothing to draw,
it only counts the timers down. -/
theorem turn_of_no_cycles (hp : r.player.paused = false) (hc : r.player.budget.cycles = 0)
    (hd : r.player.machine.screen.redraw = false) :
    r.turn.result = .ok (.ran 0) ∧
      r.turn.player.machine =
        { r.player.machine with keypad := r.keys, timers := r.player.machine.timers.tick } ∧
      r.turn.calls =
        .readKeys :: (sound r.player.machine.timers.beeps r.player.toneFrames).2 := by
  have hs : Spins 0 r.player.budget.cycles r.armed.machine .finished r.armed.machine := by
    rw [hc]
    exact .finished
  obtain ⟨hresult, hplayer, hcalls⟩ := frame_of_finished hp hs
  have hclose : r.armed.close = r.armed.tick := close_of_not_redraw hd
  have htick : r.turn.player = r.armed.tick.1 := hplayer.trans (congrArg Prod.fst hclose)
  have htones : r.turn.calls = .readKeys :: r.armed.tick.2 :=
    hcalls.trans (congrArg (fun closed => .readKeys :: closed.2) hclose)
  rw [hc] at hresult
  exact ⟨hresult, congrArg Player.machine htick, htones⟩

/-- **A frame of a halted machine** fails or only counts the timers down. -/
theorem lifeless (hp : r.player.paused = false) (hm : r.player.machine.status = .halted)
    (hd : r.player.budget.cycles = 0 → r.player.machine.screen.redraw = false) : r.Lifeless where
  fails := turn_of_halted hp hm
  idles := fun hc => turn_of_no_cycles hp hc (hd hc)
  undrawn := by
    intro screen hmem
    rcases Nat.eq_zero_or_pos r.player.budget.cycles with hc | hc
    · rw [(turn_of_no_cycles hp hc (hd hc)).2.2] at hmem
      rcases List.mem_cons.1 hmem with h | h
      · cases h
      · obtain ⟨on, htone⟩ := exists_tone_of_sound h
        cases htone
    · rw [(turn_of_halted hp hm hc).2.2] at hmem
      cases List.mem_singleton.1 hmem

end Round

namespace Player

/-- **A failure is final, but for the timers.** Take a program that is played at any rate, any
session in which a frame fails, and whatever is asked for behind it. The machine has halted and
stays so, and each frame of the player, if it is not paused, fails too and changes nothing in the
machine but the keys, with nothing asked of the host but to report these; unless it is a frame
without steps to make, which there is only at less than sixty steps a second. Such a frame counts
the timers down, with the tone, but has nothing drawn either. -/
theorem failure_is_final {program : List UInt8} {dialect : Dialect} {dice : Dice} {rate : UInt32}
    {verbosity : Level} {p : Player}
    (hp : ((Machine.start program dialect dice).play rate verbosity).result = .ok p)
    {before : List Request} {keys : Keypad} {e : Failure}
    (he : ((p.serveAll before).frame keys).result = .error e) (later : List Request) :
    let q := ((p.serveAll before).frame keys).player.serveAll later
    q.machine.status = .halted ∧ (60 ≤ rate.toNat → 0 < q.budget.cycles) ∧
      (q.paused = false → ∀ held, (Round.mk q held).Lifeless) := by
  intro q
  have hbefore := (settled_of_play hp).serveAll before
  have hq : q.Settled rate := (hbefore.frame keys).serveAll later
  have hm : q.machine.status = .halted := halted_serveAll (hbefore.halted_of_failed he) later
  refine ⟨hm, fun hrate => ?_, fun hpaused held => ?_⟩
  · refine Nat.pos_of_ne_zero fun hc => ?_
    exact Nat.not_lt.2 hrate (hq.rate_lt hc)
  · exact Round.lifeless hpaused hm fun hc => hq.drawn (hq.rate_lt hc)

/-- A program at thirty steps a second that sets the sound timer to three and then comes to no
instruction. Its sixth frame fails, the seventh has no steps to make and starts the tone, and the
eighth has one to make again. -/
theorem exists_broken_program :
    ∃ p, ((Machine.start [0x60, 0x03, 0xF0, 0x18, 0xFF, 0xFF] {} .loaded).play 30 .error).result =
        .ok p ∧
      (let sixth : Round := ⟨p.serveAll (.replicate 5 (.frame .released)), .released⟩
      let seventh : Round := ⟨sixth.turn.player, .released⟩
      let eighth : Round := ⟨seventh.turn.player, .released⟩
      sixth.active = true ∧ sixth.completed = false ∧
        seventh.player.paused = false ∧ seventh.player.budget.cycles = 0 ∧
        .tone true ∈ seventh.turn.calls ∧
        eighth.player.paused = false ∧ eighth.player.budget.cycles = 1) :=
  ⟨_, play_eq_ok_iff.2 ⟨by decide, rfl⟩, by decide +kernel⟩

/-- Of that program the seventh frame only counts the timers down, and the eighth fails. -/
theorem broken_program_stays_broken :
    ∃ p e, ((Machine.start [0x60, 0x03, 0xF0, 0x18, 0xFF, 0xFF] {} .loaded).play 30 .error).result =
        .ok p ∧
      ((p.serveAll (.replicate 5 (.frame .released))).frame .released).result = .error e ∧
      ((p.serveAll (.replicate 6 (.frame .released))).frame .released).result = .ok (.ran 0) ∧
      ((p.serveAll (.replicate 7 (.frame .released))).frame .released).result =
        .error (.fault .halted) := by
  obtain ⟨p, hp, hactive, hfailed, hseventh, hnone, -, heighth, hone⟩ := exists_broken_program
  obtain ⟨e, he⟩ := Round.exists_error_of_active hactive hfailed
  obtain ⟨-, -, hidle⟩ := failure_is_final hp he []
  obtain ⟨-, -, hfails⟩ := failure_is_final hp he [.frame .released]
  exact ⟨p, e, hp, he, ((hidle hseventh .released).idles hnone).1,
    ((hfails heighth .released).fails (Nat.lt_of_lt_of_eq Nat.one_pos hone.symm)).1⟩

/-- **A failure is not the end of everything**: a frame behind it may succeed, change the timers and
start the tone. -/
theorem tone_starts_behind_failure :
    ¬∀ (program : List UInt8) (dialect : Dialect) (dice : Dice) (rate : UInt32) (verbosity : Level)
      (p : Player), ((Machine.start program dialect dice).play rate verbosity).result = .ok p →
      ∀ (before : List Request) (keys : Keypad) (e : Failure),
        ((p.serveAll before).frame keys).result = .error e →
        ∀ later : List Request,
          let q := ((p.serveAll before).frame keys).player.serveAll later
          q.paused = false → ∀ held,
            (q.frame held).result = .error (.fault .halted) ∧
              (q.frame held).player.machine = { q.machine with keypad := held } ∧
              ∀ call ∈ (q.frame held).calls, call = .readKeys := by
  intro h
  obtain ⟨p, hp, hactive, hfailed, hpaused, -, htone, -, -⟩ := exists_broken_program
  obtain ⟨e, he⟩ := Round.exists_error_of_active hactive hfailed
  obtain ⟨-, -, hsilent⟩ := h _ _ _ _ _ p hp _ _ e he [] hpaused .released
  cases hsilent _ htone

end Player

end Chip8
