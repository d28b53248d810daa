import Chip8.Proofs.Headless
import Chip8.Proofs.Terminal.Session

/-!
# The same program without a screen and in a terminal

A run without a screen and a session in a terminal are two loops around the same frames. As long as
no key is pressed, and if both are told the same steps a second, they run a program alike: the
journal that the one keeps has no say in it, and neither has the time that passes in the other. The
same settings tell them the same, unless these ask for no steps at all: a session then makes none,
while a run without a screen takes the usual number instead.

* `Player.frame_journal` — frames do not depend on the journal that is kept;
* `Together` — a run and a session in front of the same frame;
* `Abreast` — a run and a session behind the same frames, when one of these may have been the last;
* `Together.abreast` — no frame parts them;
* `hosts_agree` — what this means for a program and its settings;
* `hosts_differ_without_steps` — why the steps have to be asked for.
-/

namespace Chip8

/-! ## The journal has no say -/

namespace Player

variable {p q : Player} {keys : Keypad} {result : Except Failure FrameOutcome}
  {calls : List HostCall}

/-- The end of a frame does not depend on the journal that is kept. -/
theorem close_journal (p : Player) (verbosity : Level) :
    { p with verbosity }.close.1 = { p.close.1 with verbosity } ∧
      { p with verbosity }.close.2 = p.close.2 := by
  show { p.tick.1 with verbosity }.present.1 = { p.tick.1.present.1 with verbosity } ∧
    p.tick.2 ++ { p.tick.1 with verbosity }.present.2 = p.tick.2 ++ p.tick.1.present.2
  unfold present
  split
  · exact ⟨rfl, rfl⟩
  · exact ⟨rfl, rfl⟩

/-- A frame goes the same way whatever journal is kept. -/
theorem Frames.journal (h : p.Frames keys result q calls) (verbosity : Level) :
    { p with verbosity }.Frames keys result { q with verbosity } calls := by
  cases h with
  | paused hp => exact .paused hp
  | failed hp hs => exact .failed hp hs
  | @ran n hp hs =>
    obtain ⟨hclosed, hcalls⟩ := close_journal { p.arm keys with machine := n } verbosity
    rw [← hclosed, ← hcalls]
    exact .ran hp hs
  | @breakpoint cycles n hp hs =>
    obtain ⟨hclosed, hcalls⟩ :=
      close_journal { p.arm keys with machine := n, paused := true } verbosity
    rw [← hclosed, ← hcalls]
    exact .breakpoint hp hs

/-- **A frame** does not depend on the journal that is kept. -/
theorem frame_journal (p : Player) (keys : Keypad) (verbosity : Level) :
    ({ p with verbosity }.frame keys).result = (p.frame keys).result ∧
      ({ p with verbosity }.frame keys).player = { (p.frame keys).player with verbosity } := by
  obtain ⟨hresult, hplayer, -⟩ := ((p.frames keys).journal verbosity).frame_eq
  exact ⟨hresult, hplayer⟩

/-- A frame pauses its player exactly at a breakpoint. -/
theorem paused_frame_iff (hp : p.paused = false) (keys : Keypad) :
    (p.frame keys).player.paused = true ↔
      Headless.ending (p.frame keys).result = some none := by
  have hf := p.frames keys
  generalize (p.frame keys).result = result at hf ⊢
  generalize (p.frame keys).player = q at hf ⊢
  generalize (p.frame keys).calls = calls at hf
  cases hf with
  | paused hp' => cases hp.symm.trans hp'
  | failed => exact iff_of_false (Bool.eq_false_iff.1 hp) nofun
  | ran => exact iff_of_false (Bool.eq_false_iff.1 ((paused_close _).trans hp)) nofun
  | breakpoint => exact iff_of_true (paused_close _) rfl

/-! ## Frames without steps -/

/-- A frame without steps leaves a player as it is if nothing else of it does anything. -/
theorem frame_eq_self (hpaused : p.paused = false) (hcycles : p.budget.cycles = 0)
    (harm : p.arm keys = p) (hclose : p.close = (p, [])) :
    p.frame keys = ⟨.ok (.ran 0), p, [.readKeys], []⟩ := by
  rw [frame, if_neg (Bool.eq_false_iff.1 hpaused)]
  simp only [hcycles, spin, harm, hclose]

/-- The frames of a player for a program at a rate of zero leave it as it was set up. -/
theorem frame_of_no_rate {program : List UInt8} {dialect : Dialect} {dice : Dice} {m : Machine}
    (hm : (Machine.start program dialect dice).result = .ok m) (verbosity : Level) :
    (ofMachine m 0 verbosity).frame .released =
      ⟨.ok (.ran 0), ofMachine m 0 verbosity, [.readKeys], []⟩ := by
  obtain ⟨-, rfl⟩ := Machine.start_eq_ok_iff.1 hm
  have hcycles : (Budget.ofRate 0).cycles = 0 := rfl
  have htake : (Budget.ofRate 0).take = .ofRate 0 := rfl
  exact frame_eq_self rfl hcycles
    (congrArg (fun budget => { ofMachine _ 0 verbosity with budget }) htake) rfl

end Player

namespace Terminal

/-- A pass without keys. -/
def Batch.idle (now : Nat) : Batch := ⟨now, []⟩

/-- As long as no key was pressed, none is held. -/
theorem HeldKeys.keypad_none (now : Nat) : HeldKeys.none.keypad now = .released := by
  rw [keypad, none, Vector.map_replicate]
  rfl

namespace Session

open Headless

variable {r : Headless} {s : Session}

/-! ## Passes without keys -/

/-- A session that a pass without keys leaves as it is stays so for any number of them. -/
theorem passes_of_still (h : ∀ now, s.pass now [] = ⟨s, [], [], .none⟩) (times : List Nat) :
    s.passes (times.map .idle) = ⟨s, [], [], .none⟩ := by
  induction times with
  | nil => rfl
  | cons now rest ih =>
    have hfirst : s.pass (Batch.idle now).now (Batch.idle now).keys = ⟨s, [], [], .none⟩ := h now
    rw [List.map_cons, passes, hfirst]
    simp only [ih, List.append_nil]

/-- Without keys, a paused session stays as it is. -/
theorem pass_of_paused (h : s.player.paused = true) (now : Nat) :
    s.pass now [] = ⟨s, [], [], .none⟩ := by
  have hturn : s.player.frame (s.held.keypad now) = ⟨.ok .paused, s.player, [], []⟩ := if_pos h
  exact pass_of_no_escape (s := s) List.not_mem_nil rfl hturn

/-- A session ends at a failure like a run without a screen, but not at a breakpoint. -/
theorem endingOf_eq (result : Except Failure FrameOutcome) :
    endingOf result = match ending result with
      | some (some e) => .failed e
      | some none | none => .none := by
  rcases result with e | (cycles | - | cycles) <;> rfl

/-! ## One frame of both -/

/-- A run without a screen and a session in front of the same frame. -/
structure Together (r : Headless) (s : Session) : Prop where
  /-- their players differ at most in the journal that is kept -/
  player_eq : s.player = { r.player with verbosity := s.player.verbosity }
  /-- frames make their steps -/
  running : r.player.paused = false
  /-- no key was pressed -/
  held : s.held = .none
  /-- the run makes any number of frames -/
  unlimited : r.limit = none

namespace Together

/-- Both frames have the same result and leave players that are as close as before. -/
theorem frame (h : Together r s) (now : Nat) :
    (s.player.frame (s.held.keypad now)).result = (r.player.frame .released).result ∧
      (s.player.frame (s.held.keypad now)).player =
        { (r.player.frame .released).player with verbosity := s.player.verbosity } := by
  rw [h.held, HeldKeys.keypad_none]
  have hframe := r.player.frame_journal .released s.player.verbosity
  rwa [← h.player_eq] at hframe

/-- What a pass without keys leaves, in terms of the frame of the run. -/
theorem pass (h : Together r s) (now : Nat) :
    (s.pass now []).session =
        { s with player :=
          { (r.player.frame .released).player with verbosity := s.player.verbosity } } ∧
      (s.pass now []).ending = endingOf (r.player.frame .released).result := by
  obtain ⟨hresult, hplayer⟩ := h.frame now
  rw [pass_of_no_escape (s := s) List.not_mem_nil rfl rfl]
  simp only [List.foldl_nil, hresult, hplayer, and_self]

theorem expired (h : Together r s) : r.expired = false := by
  rw [Headless.expired, h.unlimited]
  rfl

/-- **A frame** that does not end the run leaves both in front of the next one. -/
theorem succ (h : Together r s) (now : Nat)
    (hquiet : ending (r.player.frame .released).result = none) :
    Together r.succ (s.pass now []).session := by
  rw [(h.pass now).1]
  refine ⟨rfl, Bool.eq_false_iff.2 fun hpaused => ?_, h.held, h.unlimited⟩
  rw [(Player.paused_frame_iff h.running .released).1 hpaused] at hquiet
  cases hquiet

end Together

/-! ## Any number of frames -/

/-- Where a run without a screen and a session stand behind the same number of frames. -/
inductive Abreast : Progress → Session → Ending → Prop
  /-- both go on with the same machine, and their next frame has the same result -/
  | going {r : Headless} {s : Session} (log : List Event)
      (hmachine : s.player.machine = r.player.machine) (hpaused : s.player.paused = false)
      (hnext : ∀ now,
        (s.player.frame (s.held.keypad now)).result = (r.player.frame .released).result) :
      Abreast (.going r log) s .none
  /-- both came to a breakpoint with the same machine; the session waits for a key -/
  | breakpoint {r : Headless} {s : Session} (log : List Event)
      (hmachine : s.player.machine = r.player.machine) (hpaused : s.player.paused = true) :
      Abreast (.over r none log) s .none
  /-- both failed alike with the same machine -/
  | failed {r : Headless} {s : Session} (log : List Event) (e : Failure)
      (hmachine : s.player.machine = r.player.machine) :
      Abreast (.over r (some e) log) s (.failed e)

/-- If the session failed, then so did the run. -/
theorem Abreast.exists_over {progress : Progress} {e : Failure}
    (h : Abreast progress s (.failed e)) : ∃ last log, progress = .over last (some e) log := by
  cases h with
  | failed log e => exact ⟨_, log, rfl⟩

/-- If the run failed, then so did the session. -/
theorem Abreast.ending_eq {ending : Ending} {log : List Event} {e : Failure}
    (h : Abreast (.over r (some e) log) s ending) : ending = .failed e := by
  cases h with
  | failed => rfl

/-- **No frame parts a run and a session** that are in front of the same one. -/
theorem Together.abreast (h : Together r s) (log : List Event) (times : List Nat) :
    Abreast (r.play log times.length) (s.passes (times.map .idle)).session
      (s.passes (times.map .idle)).ending := by
  -- the run and the session behind a frame take the place of those in front of it
  induction times generalizing r s log with
  | nil =>
    have hmachine : s.player.machine = r.player.machine := by rw [h.player_eq]
    have hpaused : s.player.paused = false := by
      rw [h.player_eq]
      exact h.running
    exact .going log hmachine hpaused fun now => (h.frame now).1
  | cons now rest ih =>
    obtain ⟨hsession, hending⟩ := h.pass now
    rw [endingOf_eq] at hending
    rcases he : ending (r.player.frame .released).result with - | - | e
    · -- another frame follows
      have hgoes : (s.pass now []).ending = .none := by rw [hending, he]
      have hrest := ih (h.succ now he) (log ++ (r.player.frame .released).log)
      simp only [List.length_cons, play, advance_of_quiet h.expired he]
      rw [List.map_cons, passes_cons_of_goes hgoes]
      exact hrest
    · -- the run is over, and the session is paused from there on
      have hgoes : (s.pass now []).ending = .none := by rw [hending, he]
      have hpaused : (s.pass now []).session.player.paused = true := by
        rw [hsession]
        exact (Player.paused_frame_iff h.running .released).2 he
      simp only [List.length_cons, play, advance_of_ending h.expired he]
      rw [List.map_cons, passes_cons_of_goes hgoes]
      change Abreast _ ((s.pass now []).session.passes (rest.map .idle)).session
        ((s.pass now []).session.passes (rest.map .idle)).ending
      rw [passes_of_still (pass_of_paused hpaused) rest]
      exact .breakpoint _ (by rw [hsession]; rfl) hpaused
    · -- both are over
      have hends : (s.pass now []).ending = .failed e := by rw [hending, he]
      have hlast : (s.pass now []).ending ≠ .none := by
        rw [hends]
        rintro ⟨⟩
      simp only [List.length_cons, play, advance_of_ending h.expired he]
      rw [List.map_cons, passes_cons_of_ends hlast]
      change Abreast _ (s.pass now []).session (s.pass now []).ending
      rw [hends]
      exact .failed _ e (by rw [hsession]; rfl)

/-! ## Programs -/

/-- **A run without a screen and a session in a terminal run a program alike**, as long as no key is
pressed. Take a program that fits, any dialect, dice and rate, and any number of frames. If the rate
is not zero, then the run and the session go on with the same machine behind these frames, or both
came to the first breakpoint or the first failure in the same one, with the same machine and for the
same reason. If it is zero, then a session stays as it is. -/
theorem hosts_agree (rate : UInt32) (dialect : Dialect) (verbosity : Level) (file : String)
    (program : List UInt8) (hp : program.length ≤ 3232) (dice : Dice) :
    let settings : Settings := ⟨rate, none, dialect, verbosity, file⟩
    ∃ r s, (Headless.start settings (some program) dice).result = .ok r ∧
      (start settings (some program) dice).result = .ok s ∧
      (rate ≠ 0 → ∀ times : List Nat,
        Abreast (r.play [] times.length) (s.passes (times.map .idle)).session
          (s.passes (times.map .idle)).ending) ∧
      (rate = 0 → ∀ times : List Nat, s.passes (times.map .idle) = ⟨s, [], [], .none⟩) := by
  intro settings
  obtain ⟨m, hm⟩ := Machine.exists_start hp dialect dice
  refine ⟨_, _, start_eq_ok_effective settings hm,
    start_eq_ok_iff.2 ⟨program, m, rfl, hm, rfl⟩, fun hrate times => ?_, ?_⟩
  · rw [effectiveRate, if_neg hrate]
    have htogether : Together ⟨.ofMachine m rate verbosity, 0, none⟩
      ⟨.ofMachine m rate .error, .none⟩ := ⟨rfl, rfl, rfl, rfl⟩
    exact htogether.abreast [] times
  · rintro rfl times
    refine passes_of_still (fun now => ?_) times
    have hturn := Player.frame_of_no_rate hm .error
    rw [← HeldKeys.keypad_none now] at hturn
    exact pass_of_no_escape (s := ⟨_, .none⟩) List.not_mem_nil rfl hturn

/-- A program that sets a register and then comes to a word that is no instruction, at a step for
each frame: the session fails in its second frame, and so does the run without a screen, for the
same reason. -/
theorem hosts_fail_alike :
    let settings : Settings := ⟨60, none, ⟨false, false⟩, .warn, "game"⟩
    ∃ r s, (Headless.start settings (some [0x60, 0x03, 0xFF, 0xFF]) .loaded).result = .ok r ∧
      (start settings (some [0x60, 0x03, 0xFF, 0xFF]) .loaded).result = .ok s ∧
      (s.passes ([0, 17].map .idle)).ending = .failed (.fault (.unknownOpcode 0xFFFF)) ∧
      ∃ last log, r.play [] 2 = .over last (some (.fault (.unknownOpcode 0xFFFF))) log := by
  intro settings
  obtain ⟨r, s, hr, hs, habreast, -⟩ := hosts_agree 60 ⟨false, false⟩ .warn "game"
    [0x60, 0x03, 0xFF, 0xFF] (by decide) .loaded
  have hending : (s.passes ([0, 17].map .idle)).ending =
      .failed (.fault (.unknownOpcode 0xFFFF)) := by
    have hfits : ([0x60, 0x03, 0xFF, 0xFF] : List UInt8).length ≤ 3232 := by decide
    obtain ⟨m, hm⟩ := Machine.exists_start hfits ⟨false, false⟩ .loaded
    cases hs.symm.trans (start_eq_ok_iff.2 ⟨_, m, rfl, hm, rfl⟩)
    obtain ⟨-, rfl⟩ := Machine.start_eq_ok_iff.1 hm
    decide +kernel
  refine ⟨r, s, hr, hs, hending, ?_⟩
  have htwo := habreast (by decide) [0, 17]
  rw [hending] at htwo
  exact htwo.exists_over

/-- **Both have to be asked for steps**: at a rate of zero, a run without a screen fails where a
session goes on. -/
theorem hosts_differ_without_steps :
    ¬∀ (rate : UInt32) (dialect : Dialect) (verbosity : Level) (file : String)
      (program : List UInt8), program.length ≤ 3232 → ∀ dice : Dice,
      let settings : Settings := ⟨rate, none, dialect, verbosity, file⟩
      ∃ r s, (Headless.start settings (some program) dice).result = .ok r ∧
        (start settings (some program) dice).result = .ok s ∧
        ∀ times : List Nat,
          Abreast (r.play [] times.length) (s.passes (times.map .idle)).session
            (s.passes (times.map .idle)).ending := by
  intro h
  obtain ⟨r, s, hr, hs, habreast⟩ := h 0 {} .warn "game" [0xFF, 0xFF] (by decide) .loaded
  have hfits : ([0xFF, 0xFF] : List UInt8).length ≤ 3232 := by decide
  obtain ⟨m, hm⟩ := Machine.exists_start hfits {} .loaded
  -- the run takes the usual rate and meets the word
  obtain ⟨hplayer, hlimit⟩ : r.player = .ofMachine m (effectiveRate 0) .warn ∧ r.limit = none := by
    cases hr.symm.trans (start_eq_ok_effective ⟨0, none, {}, .warn, "game"⟩ hm)
    exact ⟨rfl, rfl⟩
  have hfails : ending (r.player.frame .released).result =
      some (some (.fault (.unknownOpcode 0xFFFF))) := by
    rw [hplayer]
    obtain ⟨-, rfl⟩ := Machine.start_eq_ok_iff.1 hm
    decide +kernel
  have hcount : r.frames = .ofNat r.frames.toNat := r.frames.ofNat_toNat.symm
  have hexpired : r.expired = false := expired_eq_false hcount fun limit hl => by
    cases hlimit.symm.trans hl
  obtain ⟨last, news, -, hover⟩ := (finishes_of_first hcount hexpired hfails).ends
  -- the session takes no steps
  have hgoes : (s.passes ([0, 17].map .idle)).ending = .none := by
    cases hs.symm.trans (start_eq_ok_iff.2 ⟨_, m, rfl, hm, rfl⟩)
    obtain ⟨-, rfl⟩ := Machine.start_eq_ok_iff.1 hm
    decide +kernel
  have htwo := habreast [0, 17]
  rw [hover [] [0, 17].length (by decide)] at htwo
  cases hgoes.symm.trans htwo.ending_eq

end Session

end Terminal

end Chip8
