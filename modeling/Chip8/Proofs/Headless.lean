import Chip8.Headless
import Chip8.Proofs.Journal
import Chip8.Proofs.Player.Failure
import Chip8.Proofs.Player.Pace

/-!
# Where a run without a screen stops

A run without a screen makes one frame after the other until one of them fails or comes to a
breakpoint, or until it has completed as many as it is allowed to. The frame that stops it is made,
but it does not count as completed.

* `Headless.ending` — how the result of a frame ends a run, if it does;
* `Player.Alive`, `Alive.frame` — as long as no frame does, none is paused and the machine has not
  halted, so that the first failure is not that the machine has halted before;
* `Headless.framed` — the frames that a run makes;
* `Headless.Finishes` — a run makes exactly so many frames, tells so and is over;
* `finishes_of_ending`, `finishes_at_limit` — the two ways to finish;
* `run_stops_where_it_says` — which of them is taken, for each program and each limit.
-/

namespace Chip8

namespace Headless

/-- How the result of a frame ends a run, if it does: with its failure, or well at a breakpoint. -/
def ending : Except Failure FrameOutcome → Option (Option Failure)
  | .error e => some (some e)
  | .ok (.breakpoint _) => some none
  | .ok (.ran _) | .ok .paused => none

end Headless

/-! ## One frame -/

namespace Machine

variable {m n : Machine}

/-- Only on a machine that has halted no instruction is due for this reason. -/
theorem halted_of_due (hd : m.due = .error .halted) : m.status = .halted := by
  rw [due] at hd
  split at hd
  · rcases bind_eq_error_iff.1 hd with hw | ⟨w, -, hi⟩
    · rw [Memory.fetch] at hw
      split at hw <;> cases hw
    · rw [Instruction.decode] at hi
      split at hi <;> cases hi
  · cases hd
  · assumption

/-- Only a machine that has halted says so. -/
theorem Sound.step_ne_halted (h : m.Sound) (hs : m.status ≠ .halted) :
    m.step.result ≠ .error (.fault .halted) := by
  intro hr
  rcases (step_fault_iff h.awaits_lt).1 hr with hd | ⟨i, hd, ha⟩
  · exact hs (halted_of_due hd)
  · have hr := (inRange_of_current (h.current_of_due hd)).1
    cases refuses h.stack.depth_le hr ha with
    | site _ hp | offset hp | skip _ hp => exact Addr.ahead_ne_fault hp

end Machine

namespace Player

open Machine Headless

variable {p : Player} {m n : Machine} {keys : Keypad}

/-- What holds of a player as long as no frame stops the run. -/
structure Alive (p : Player) : Prop where
  /-- frames make their steps -/
  running : p.paused = false
  /-- the machine is sound -/
  sound : p.machine.Sound
  /-- the machine makes steps -/
  status : p.machine.status ≠ .halted

/-- Steps that are all made leave a machine that has not halted, and if one of them fails it is not
because the machine had. -/
theorem Spins.not_halted {done left : Nat} {stop : Stop} (hs : Spins done left m stop n)
    (hm : m.Sound) (hstatus : m.status ≠ .halted) :
    (stop = .finished → n.status ≠ .halted) ∧ stop ≠ .failed (.fault .halted) := by
  induction hs with
  | finished => exact ⟨fun _ => hstatus, nofun⟩
  | @failed done left m e he =>
    refine ⟨nofun, ?_⟩
    rintro ⟨⟩
    exact hm.step_ne_halted hstatus he
  | breakpoint => exact ⟨nofun, nofun⟩
  | @step done left m n o stop ho hb hs ih =>
    refine ih hm.step fun hhalted => ?_
    obtain ⟨e, he⟩ := hm.halted_step_iff.1 hhalted
    cases ho.symm.trans he

/-- **A frame** of a player that is alive leaves it alive, or ends the run, and it does not end it
for the reason that the machine had halted before. -/
theorem Alive.frame (h : p.Alive) (keys : Keypad) :
    (p.frame keys).result ≠ .ok .paused ∧
      (ending (p.frame keys).result = none → (p.frame keys).player.Alive) ∧
      ending (p.frame keys).result ≠ some (some (.fault .halted)) := by
  have hsound : (p.frame keys).player.machine.Sound :=
    serveAll_induction h.sound (fun _ a hm => hm.act a) [.frame keys]
  have harm : (p.arm keys).machine.Sound := h.sound.act (.setKeypad keys)
  have hf := p.frames keys
  generalize (p.frame keys).result = result at hf ⊢
  generalize (p.frame keys).player = q at hf hsound ⊢
  generalize (p.frame keys).calls = calls at hf
  -- only the steps of a frame have a say in the status, the end of it has none
  cases hf with
  | paused hp => cases h.running.symm.trans hp
  | failed hp hs =>
    refine ⟨nofun, nofun, ?_⟩
    rintro ⟨⟩
    exact (hs.not_halted harm h.status).2 rfl
  | @ran n hp hs =>
    refine ⟨nofun, fun _ => ⟨(paused_close _).trans hp, hsound, ?_⟩, nofun⟩
    rw [machine_close]
    exact (hs.not_halted harm h.status).1 rfl
  | breakpoint => exact ⟨nofun, nofun, nofun⟩

/-- A player is alive as long as no frame ends the run. -/
theorem Alive.after {k : Nat} (h : p.Alive)
    (hquiet : ∀ j < k, ending ((p.after keys j).frame keys).result = none) :
    (p.after keys k).Alive := by
  induction k generalizing p with
  | zero => exact h
  | succ k ih =>
    have halive := (h.frame keys).2.1 (hquiet 0 (Nat.zero_lt_succ k))
    exact ih halive fun j hj => hquiet (j + 1) (Nat.succ_lt_succ hj)

/-- A frame does not change what journal is kept. -/
theorem verbosity_frame (p : Player) (keys : Keypad) :
    (p.frame keys).player.verbosity = p.verbosity := by
  have hf := p.frames keys
  generalize (p.frame keys).result = result at hf
  generalize (p.frame keys).player = q at hf ⊢
  generalize (p.frame keys).calls = calls at hf
  cases hf with
  | paused | failed => rfl
  | ran | breakpoint => exact verbosity_close _

/-- A player that was just set up is alive. -/
theorem alive_ofMachine {program : List UInt8} {dialect : Dialect} {dice : Dice}
    (h : (start program dialect dice).result = .ok m) (rate : UInt32) (verbosity : Level) :
    (ofMachine m rate verbosity).Alive where
  running := rfl
  sound := sound_start h
  status := by
    obtain ⟨-, rfl⟩ := start_eq_ok_iff.1 h
    nofun

end Player

/-! ## Runs -/

namespace Headless

variable {r : Headless} {k count made completed : Nat} {failure : Option Failure}

/-- The players whose frames a run makes, in order, if it may go on for at most `fuel` frames. -/
def framed (r : Headless) : (fuel : Nat) → List Player
  | 0 => []
  | fuel + 1 =>
    if r.expired then []
    else r.player ::
      match r.advance with
      | .going next _ => next.framed fuel
      | .over .. => []

/-- A run makes exactly some frames and is over behind them. -/
structure Finishes (r : Headless) (made completed : Nat) (failure : Option Failure) : Prop where
  /-- these are the frames that it makes -/
  framed_eq : ∀ fuel, made < fuel → r.framed fuel = (List.range made).map (r.player.after .released)
  /-- the last that the journal is told is how many were completed, and what the machine is like -/
  ends : ∃ last news, last.player = r.player.after .released made ∧
    ∀ told fuel, made < fuel → r.play told fuel = .over last failure (told ++ news ++
      r.player.verbosity.select
        [.stopped (.ofNat completed) (r.player.after .released made).machine.summary])

/-- The run behind a frame that ends it. -/
def stopped (r : Headless) : Headless :=
  { r with player := (r.player.frame .released).player }

/-- The run behind a completed frame. -/
def succ (r : Headless) : Headless :=
  { r with player := (r.player.frame .released).player, frames := r.frames + 1 }

/-! ## One frame of a run -/

theorem advance_of_expired (h : r.expired = true) : r.advance = .over r none r.farewell :=
  if_pos h

/-- A frame that ends a run is made, but it is not completed. -/
theorem advance_of_ending (h : r.expired = false)
    (he : ending (r.player.frame .released).result = some failure) :
    r.advance = .over r.stopped failure
      ((r.player.frame .released).log ++ r.stopped.farewell) := by
  rw [advance, h, stopped]
  generalize r.player.frame .released = turn at he ⊢
  obtain ⟨result, player, calls, log⟩ := turn
  rcases result with e | (_ | _ | cycles) <;> cases he <;> rfl

/-- Any other frame is completed, and the run goes on. -/
theorem advance_of_quiet (h : r.expired = false)
    (he : ending (r.player.frame .released).result = none) :
    r.advance = .going r.succ (r.player.frame .released).log := by
  rw [advance, h, succ]
  generalize r.player.frame .released = turn at he ⊢
  obtain ⟨result, player, calls, log⟩ := turn
  rcases result with e | (_ | _ | cycles) <;> cases he <;> rfl

/-! ## Whole runs -/

/-- A limit that is not reached leaves a run as it is. -/
theorem expired_eq_false (hcount : r.frames = .ofNat count)
    (h : ∀ limit ∈ r.limit, count < limit.toNat) : r.expired = false := by
  rw [expired, hcount]
  rcases hl : r.limit with _ | limit
  · rfl
  · refine decide_eq_false fun hle => ?_
    have hlt := h limit hl
    rw [UInt64.le_iff_toNat_le, UInt64.toNat_ofNat'] at hle
    have hmod := Nat.mod_le count (2 ^ 64)
    omega

/-- A run that makes no frame is over before the first one. -/
theorem finishes_of_expired (hcount : r.frames = .ofNat count) (h : r.expired = true) :
    r.Finishes 0 count none := by
  refine ⟨fun fuel hfuel => ?_, r, [], rfl, fun told fuel hfuel => ?_⟩
  · obtain ⟨fuel, rfl⟩ := Nat.exists_eq_add_one.2 hfuel
    rw [framed, if_pos h]
    rfl
  · obtain ⟨fuel, rfl⟩ := Nat.exists_eq_add_one.2 hfuel
    simp only [play, advance_of_expired h, List.append_nil, farewell, hcount]
    rfl

/-- A run whose first frame ends it is over behind this frame. -/
theorem finishes_of_first (hcount : r.frames = .ofNat count) (h : r.expired = false)
    (he : ending (r.player.frame .released).result = some failure) :
    r.Finishes 1 count failure := by
  have hadvance := advance_of_ending h he
  refine ⟨fun fuel hfuel => ?_, r.stopped, (r.player.frame .released).log, rfl,
    fun told fuel hfuel => ?_⟩
  · obtain ⟨fuel, rfl⟩ := Nat.exists_eq_add_one.2 (Nat.zero_lt_of_lt hfuel)
    simp only [framed, h, Bool.false_eq_true, if_false, hadvance]
    rfl
  · obtain ⟨fuel, rfl⟩ := Nat.exists_eq_add_one.2 (Nat.zero_lt_of_lt hfuel)
    have hverbosity : r.stopped.player.verbosity = r.player.verbosity := r.player.verbosity_frame _
    have hframes : r.stopped.frames = .ofNat count := hcount
    simp only [play, hadvance, List.append_assoc, farewell, hverbosity, hframes]
    rfl

/-- A run that completes a frame finishes as the run behind this frame does. -/
theorem Finishes.cons (hexpired : r.expired = false)
    (he : ending (r.player.frame .released).result = none)
    (h : r.succ.Finishes made completed failure) : r.Finishes (made + 1) completed failure := by
  have hadvance := advance_of_quiet hexpired he
  obtain ⟨last, news, hlast, hover⟩ := h.ends
  refine ⟨fun fuel hfuel => ?_, last, (r.player.frame .released).log ++ news, hlast,
    fun told fuel hfuel => ?_⟩
  · obtain ⟨fuel, rfl⟩ := Nat.exists_eq_add_one.2 (Nat.zero_lt_of_lt hfuel)
    simp only [framed, hexpired, Bool.false_eq_true, if_false, hadvance,
      h.framed_eq fuel (Nat.lt_of_succ_lt_succ hfuel), List.range_succ_eq_map, List.map_cons,
      List.map_map]
    rfl
  · obtain ⟨fuel, rfl⟩ := Nat.exists_eq_add_one.2 (Nat.zero_lt_of_lt hfuel)
    have hverbosity : r.succ.player.verbosity = r.player.verbosity := r.player.verbosity_frame _
    simp only [play, hadvance, hover _ fuel (Nat.lt_of_succ_lt_succ hfuel), hverbosity,
      List.append_assoc]
    rfl

/-- The run behind a completed frame has counted it. -/
theorem frames_succ (hcount : r.frames = .ofNat count) : r.succ.frames = .ofNat (count + 1) := by
  rw [succ, hcount, UInt64.ofNat_add]
  rfl

/-- **A run finishes with the first frame that ends it**, if it is allowed to make it. -/
theorem finishes_of_ending (hcount : r.frames = .ofNat count)
    (hlimit : ∀ limit ∈ r.limit, count + k < limit.toNat)
    (he : ending ((r.player.after .released k).frame .released).result = some failure)
    (hquiet : ∀ j < k, ending ((r.player.after .released j).frame .released).result = none) :
    r.Finishes (k + 1) (count + k) failure := by
  -- on the frames that are completed first, with the run behind each of them in place of `r`
  induction k generalizing r count with
  | zero => exact finishes_of_first hcount (expired_eq_false hcount hlimit) he
  | succ k ih =>
    have hnext : count + 1 + k = count + (k + 1) := Nat.add_right_comm _ _ _
    have hexpired : r.expired = false := expired_eq_false hcount fun limit hl =>
      Nat.lt_of_le_of_lt (Nat.le_add_right _ _) (hlimit limit hl)
    have hrest : r.succ.Finishes (k + 1) (count + 1 + k) failure :=
      ih (frames_succ hcount) (fun limit hl => hnext ▸ hlimit limit hl) he
        fun j hj => hquiet (j + 1) (Nat.succ_lt_succ hj)
    rw [← hnext]
    exact hrest.cons hexpired (hquiet 0 (Nat.zero_lt_succ k))

/-- **A run finishes at its limit** if no frame ends it before. -/
theorem finishes_at_limit {limit : UInt64} (hcount : r.frames = .ofNat count)
    (hlimit : r.limit = some limit) (hk : count + k = limit.toNat)
    (hquiet : ∀ j < k, ending ((r.player.after .released j).frame .released).result = none) :
    r.Finishes k (count + k) none := by
  induction k generalizing r count with
  | zero =>
    refine finishes_of_expired hcount ?_
    rw [expired, hlimit, hcount]
    refine decide_eq_true (UInt64.le_iff_toNat_le.2 (Nat.le_of_eq ?_))
    have hsize : count < UInt64.size := Nat.lt_of_le_of_lt (Nat.le_of_eq hk) limit.toNat_lt
    rw [UInt64.toNat_ofNat_of_lt' hsize]
    exact hk.symm
  | succ k ih =>
    have hnext : count + 1 + k = count + (k + 1) := Nat.add_right_comm _ _ _
    have hexpired : r.expired = false := expired_eq_false hcount fun other hl => by
      cases hlimit.symm.trans hl
      omega
    have hrest : r.succ.Finishes k (count + 1 + k) none :=
      ih (frames_succ hcount) hlimit (hnext.trans hk) fun j hj =>
        hquiet (j + 1) (Nat.succ_lt_succ hj)
    rw [← hnext]
    exact hrest.cons hexpired (hquiet 0 (Nat.zero_lt_succ k))

/-- **No frame of a run is paused.** -/
theorem not_paused_of_mem_framed (h : r.player.Alive) {fuel : Nat} {p : Player}
    (hp : p ∈ r.framed fuel) : (p.frame .released).result ≠ .ok .paused := by
  obtain ⟨hpaused, halive, -⟩ := h.frame .released
  induction fuel generalizing r with
  | zero => cases hp
  | succ fuel ih =>
    rw [framed] at hp
    split at hp
    · cases hp
    · next hexpired =>
      replace hexpired := Bool.eq_false_iff.2 hexpired
      rcases List.mem_cons.1 hp with rfl | hp
      · exact hpaused
      · rcases he : ending (r.player.frame .released).result with _ | failure
        · rw [advance_of_quiet hexpired he] at hp
          have hnext : r.succ.player.Alive := halive he
          obtain ⟨hpaused, halive, -⟩ := hnext.frame .released
          exact ih hnext hp hpaused halive
        · rw [advance_of_ending hexpired he] at hp
          cases hp

end Headless

/-! ## Programs -/

namespace Headless

/-- The run of a program that fits is that of a player for the machine that it is started on, at the
rate that the one asked for stands for. -/
theorem start_eq_ok_effective (settings : Settings) {program : List UInt8} {dice : Dice}
    {m : Machine} (hm : (Machine.start program settings.dialect dice).result = .ok m) :
    (start settings (some program) dice).result =
      .ok ⟨.ofMachine m (effectiveRate settings.rate) settings.verbosity, 0,
        settings.maxFrames⟩ := by
  simp only [start, Machine.startFile, Setup.play, hm]
  rfl

/-- A rate other than zero stands for itself. -/
theorem start_eq_ok {settings : Settings} {program : List UInt8} {dice : Dice} {m : Machine}
    (hm : (Machine.start program settings.dialect dice).result = .ok m)
    (hrate : settings.rate ≠ 0) :
    (start settings (some program) dice).result =
      .ok ⟨.ofMachine m settings.rate settings.verbosity, 0, settings.maxFrames⟩ := by
  rw [start_eq_ok_effective settings hm, effectiveRate, if_neg hrate]

/-- **A run without a screen stops where it says.** Start a program that fits, at any rate and with
any limit on frames, and number the frames of its player from zero on. If one of them, with a number
below the limit, is the first to fail or to come to a breakpoint, then the run makes the frames up
to this one, tells that it has completed those before it, and ends with the failure if there is one,
which is not that the machine has halted. If there is none below the limit, then the run makes as
many frames as the limit says, tells so and ends well. None of the frames that a run makes is
paused. -/
theorem run_stops_where_it_says (settings : Settings) (program : List UInt8) (dice : Dice)
    (hp : program.length ≤ 3232) (hrate : settings.rate ≠ 0) :
    ∃ m r, (Machine.start program settings.dialect dice).result = .ok m ∧
      (start settings (some program) dice).result = .ok r ∧
      r.player = .ofMachine m settings.rate settings.verbosity ∧
      let result k := ((r.player.after .released k).frame .released).result
      (∀ k failure, ending (result k) = some failure → (∀ j < k, ending (result j) = none) →
        (∀ limit, settings.maxFrames = some limit → k < limit.toNat) →
          r.Finishes (k + 1) k failure ∧ failure ≠ some (.fault .halted)) ∧
      (∀ limit, settings.maxFrames = some limit → (∀ j < limit.toNat, ending (result j) = none) →
        r.Finishes limit.toNat limit.toNat none) ∧
      ∀ fuel, ∀ p ∈ r.framed fuel, (p.frame .released).result ≠ .ok .paused := by
  obtain ⟨m, hm⟩ := Machine.exists_start hp settings.dialect dice
  have halive := Player.alive_ofMachine hm settings.rate settings.verbosity
  have hzero : (0 : UInt64) = .ofNat 0 := rfl
  refine ⟨m, _, hm, start_eq_ok hm hrate, rfl, fun k failure he hquiet hlimit => ⟨?_, ?_⟩,
    fun limit hlimit hquiet => ?_, fun fuel p hmem => not_paused_of_mem_framed halive hmem⟩
  · have hfinishes := finishes_of_ending (r := ⟨_, 0, settings.maxFrames⟩) hzero
      (fun limit hl => by rw [Nat.zero_add]; exact hlimit limit hl) he hquiet
    rwa [Nat.zero_add] at hfinishes
  · rintro rfl
    exact ((halive.after hquiet).frame .released).2.2 he
  · have hfinishes := finishes_at_limit (r := ⟨_, 0, settings.maxFrames⟩) hzero hlimit
      (Nat.zero_add _) hquiet
    rwa [Nat.zero_add] at hfinishes

/-- A program that sets a register and then comes to a word that is no instruction, at a step for
each frame: two frames are made, one is completed, and the run fails; with a limit of one, the
second frame is not made. -/
theorem second_frame_fails :
    let settings limit : Settings := ⟨60, some limit, {}, .info, "program"⟩
    (∃ r, (start (settings 5) (some [0x60, 0x03, 0xFF, 0xFF]) .loaded).result = .ok r ∧
      r.Finishes 2 1 (some (.fault (.unknownOpcode 0xFFFF)))) ∧
    ∃ r, (start (settings 1) (some [0x60, 0x03, 0xFF, 0xFF]) .loaded).result = .ok r ∧
      r.Finishes 1 1 none := by
  intro settings
  obtain ⟨m, r, hm, hr, hplayer, hends, -, -⟩ :=
    run_stops_where_it_says (settings 5) [0x60, 0x03, 0xFF, 0xFF] .loaded (by decide) (by decide)
  obtain ⟨m', r', hm', hr', hplayer', -, hlimit, -⟩ :=
    run_stops_where_it_says (settings 1) [0x60, 0x03, 0xFF, 0xFF] .loaded (by decide) (by decide)
  refine ⟨⟨r, hr, (hends 1 _ ?_ ?_ ?_).1⟩, r', hr', hlimit 1 rfl ?_⟩
  · obtain ⟨-, rfl⟩ := Machine.start_eq_ok_iff.1 hm
    rw [hplayer]
    decide +kernel
  · obtain ⟨-, rfl⟩ := Machine.start_eq_ok_iff.1 hm
    rw [hplayer]
    decide +kernel
  · rintro limit ⟨⟩
    decide
  · obtain ⟨-, rfl⟩ := Machine.start_eq_ok_iff.1 hm'
    rw [hplayer']
    decide +kernel

end Headless

end Chip8
