import Chip8.Monitor
import Chip8.Proofs.Player.Frame
import Chip8.Proofs.Redraw

/-!
# The host sees the screen

A player has its host draw the screen at the end of a frame, and only if the flag is set. So what
the host sees is right as long as nothing changes the picture behind the flag, and as long as
nothing takes the flag back that has not been drawn. To say that this holds at every moment, and not
just between two frames, a frame is cut into the things it does one after the other: `Show.Passes`
lists them, and `Show.Faithful` is what each of them keeps.

* `Monitor.Shows` — the last picture is that of a screen;
* `Show.Passes` — the moments that a player passes while its host asks for whatever it likes;
* `Passes.faithful` — at each of them the host sees the screen if the flag is not set;
* `Passes.serve` — a request is served by passing such moments;
* `host_sees_screen` — all of this for a player that was just set up.
-/

namespace Chip8

namespace Monitor

variable {o : Monitor}

/-- A pixel of the last picture. Before the first picture all of them are zero. -/
def pixel? (o : Monitor) (column row : Nat) : Option UInt8 :=
  match o.lastFrame with
  | some screen => screen.pixel? column row
  | none => if column < Screen.width ∧ row < Screen.height then some 0 else none

/-- The last picture has the pixels of a screen. -/
def Shows (o : Monitor) (screen : Screen) : Prop :=
  ∀ column row, o.pixel? column row = screen.pixel? column row

theorem shows_draw (o : Monitor) (screen : Screen) : (o.obey (.draw screen)).Shows screen :=
  fun _ _ => rfl

/-- Calls about the tone leave everything else as it is. -/
theorem obeyAll_tones {calls : List HostCall} (h : ∀ c ∈ calls, ∃ on, c = .tone on) :
    ∃ tone, o.obeyAll calls = { o with tone } := by
  induction calls generalizing o with
  | nil => exact ⟨o.tone, rfl⟩
  | cons c rest ih =>
    obtain ⟨on, rfl⟩ := h c List.mem_cons_self
    exact ih fun d hd => h d (List.mem_cons_of_mem _ hd)

end Monitor

/-! ## The end of a frame -/

namespace Player

variable {p : Player} {o : Monitor}

/-- Counting the tone down is about nothing but the tone. -/
theorem exists_tone_of_sound {beep : Bool} {frames : Nat} {c : HostCall}
    (h : c ∈ (sound beep frames).2) : ∃ on, c = .tone on := by
  have hstart : ∀ c ∈ (if beep then [HostCall.tone true] else []), ∃ on, c = .tone on := by
    intro c hc
    cases beep
    · cases hc
    · exact ⟨true, List.mem_singleton.1 hc⟩
  simp only [sound] at h
  generalize (if beep then toneLength else frames) = started at h
  rcases started with - | left
  · exact hstart c h
  · simp only at h
    split at h
    · rcases List.mem_append.1 h with h | h
      · exact hstart c h
      · exact ⟨false, List.mem_singleton.1 h⟩
    · exact hstart c h

/-- A tick asks for nothing but the tone. -/
theorem obeyAll_tick : ∃ tone, o.obeyAll p.tick.2 = { o with tone } :=
  Monitor.obeyAll_tones fun _ h => exists_tone_of_sound h

theorem present_of_redraw (h : p.machine.screen.redraw = true) :
    p.present = ({ p with machine := p.machine.markDrawn }, [.draw p.machine.screen]) := if_pos h

theorem present_of_not_redraw (h : p.machine.screen.redraw = false) : p.present = (p, []) :=
  if_neg (Bool.not_eq_true _ ▸ h)

/-- The end of a frame leaves no change of the screen to be drawn. -/
theorem redraw_close : p.close.1.machine.screen.redraw = false := by
  show p.tick.1.present.1.machine.screen.redraw = false
  rcases h : p.tick.1.machine.screen.redraw with - | -
  · rw [present_of_not_redraw h]
    exact h
  · rw [present_of_redraw h]
    rfl

/-- The end of a frame draws once if the flag is set, and not at all otherwise. -/
theorem framesDrawn_close :
    (o.obeyAll p.close.2).framesDrawn =
      o.framesDrawn + if p.machine.screen.redraw then 1 else 0 := by
  show (o.obeyAll (p.tick.2 ++ p.tick.1.present.2)).framesDrawn = _
  obtain ⟨tone, htick⟩ := obeyAll_tick (p := p) (o := o)
  rw [Monitor.obeyAll_append, htick]
  rcases h : p.machine.screen.redraw with - | -
  · rw [present_of_not_redraw (p := p.tick.1) h]
    rfl
  · rw [present_of_redraw (p := p.tick.1) h]
    rfl

variable {keys : Keypad} {r : Except Failure FrameOutcome} {q : Player} {calls : List HostCall}

/-- A frame draws at most once. -/
theorem Frames.framesDrawn_le (h : p.Frames keys r q calls) :
    (o.obeyAll calls).framesDrawn ≤ o.framesDrawn + 1 := by
  have hclose (p : Player) : (o.obeyAll p.close.2).framesDrawn ≤ o.framesDrawn + 1 := by
    rw [framesDrawn_close]
    split <;> omega
  cases h with
  | paused | failed => exact Nat.le_succ _
  | ran | breakpoint => exact hclose _

/-- A frame that does nothing or fails draws nothing. -/
theorem Frames.framesDrawn_eq (h : p.Frames keys r q calls)
    (hr : r = .ok .paused ∨ ∃ e, r = .error e) :
    (o.obeyAll calls).framesDrawn = o.framesDrawn := by
  cases h with
  | paused | failed => rfl
  | ran | breakpoint =>
    rcases hr with hr | ⟨e, hr⟩
    · cases hr
    · cases hr

/-- A frame that does something and does not fail leaves no change of the screen to be drawn. -/
theorem Frames.redraw {outcome : FrameOutcome} (h : p.Frames keys (.ok outcome) q calls)
    (ho : outcome ≠ .paused) : q.machine.screen.redraw = false := by
  cases h with
  | paused => exact absurd rfl ho
  | ran | breakpoint => exact redraw_close

end Player

/-! ## Shows -/

/-- A player, and a monitor that obeys its calls. -/
structure Show where
  /-- the player -/
  player : Player
  /-- the monitor -/
  monitor : Monitor

/-- Where a player is in a frame. -/
inductive Stage
  /-- between two frames -/
  | idle
  /-- some steps are left to make -/
  | stepping (left : Nat)
  /-- no step is left to make -/
  | stepped
  /-- the timers were counted down -/
  | ticked
  /-- the host has drawn the screen, and the flag is not taken back yet -/
  | drawn

namespace Show

/-- A player that was just set up, with a monitor that was told nothing. -/
def opening (p : Player) : Show := ⟨p, .silent⟩

/-- The screen of the machine. -/
def screen (s : Show) : Screen := s.player.machine.screen

/-- Serve a request. -/
def serve (s : Show) (r : Request) : Show :=
  ⟨(s.player.serve r).1, s.monitor.obeyAll (s.player.serve r).2⟩

/-- Serve requests in order. -/
def serveAll (s : Show) (requests : List Request) : Show := requests.foldl serve s

/-- Unless the flag is set, the monitor shows the screen. -/
def InView (s : Show) : Prop := s.screen.redraw = false → s.monitor.Shows s.screen

/-- The moments that a player passes, while its host asks for frames with any keys held and pauses
and resumes it in between. -/
inductive Passes (s₀ : Show) : Stage → Show → Prop
  /-- nothing was asked for yet -/
  | start : Passes s₀ .idle s₀
  /-- the player is paused or resumed -/
  | switch {s : Show} (h : Passes s₀ .idle s) (paused : Bool) :
      Passes s₀ .idle ⟨{ s.player with paused }, s.monitor⟩
  /-- a frame starts, and takes over the keys -/
  | arm {s : Show} (h : Passes s₀ .idle s) (hp : s.player.paused = false) (keys : Keypad) :
      Passes s₀ (.stepping s.player.budget.cycles) ⟨s.player.arm keys, s.monitor⟩
  /-- a step is made, which is no breakpoint -/
  | step {s : Show} {left : Nat} {o : Outcome} (h : Passes s₀ (.stepping (left + 1)) s)
      (ho : s.player.machine.step.result = .ok o) (hb : o ≠ .breakpoint) :
      Passes s₀ (.stepping left)
        ⟨{ s.player with machine := s.player.machine.step.machine }, s.monitor⟩
  /-- a step is a breakpoint, and pauses the player -/
  | breakpoint {s : Show} {left : Nat} (h : Passes s₀ (.stepping (left + 1)) s)
      (ho : s.player.machine.step.result = .ok .breakpoint) :
      Passes s₀ .stepped
        ⟨{ s.player with machine := s.player.machine.step.machine, paused := true }, s.monitor⟩
  /-- a step fails, and ends the frame -/
  | fail {s : Show} {left : Nat} {e : Failure} (h : Passes s₀ (.stepping (left + 1)) s)
      (he : s.player.machine.step.result = .error e) :
      Passes s₀ .idle ⟨{ s.player with machine := s.player.machine.step.machine }, s.monitor⟩
  /-- all steps are made -/
  | finish {s : Show} (h : Passes s₀ (.stepping 0) s) : Passes s₀ .stepped s
  /-- the timers are counted down, and the tone with them -/
  | tick {s : Show} (h : Passes s₀ .stepped s) :
      Passes s₀ .ticked ⟨s.player.tick.1, s.monitor.obeyAll s.player.tick.2⟩
  /-- there is nothing to draw, and the frame ends -/
  | spare {s : Show} (h : Passes s₀ .ticked s) (hr : s.screen.redraw = false) : Passes s₀ .idle s
  /-- the host is told to draw -/
  | draw {s : Show} (h : Passes s₀ .ticked s) (hr : s.screen.redraw = true) :
      Passes s₀ .drawn ⟨s.player, s.monitor.obey (.draw s.screen)⟩
  /-- the flag is taken back, and the frame ends -/
  | note {s : Show} (h : Passes s₀ .drawn s) :
      Passes s₀ .idle ⟨{ s.player with machine := s.player.machine.markDrawn }, s.monitor⟩

variable {s s₀ : Show} {stage next : Stage} {p : Player} {o : Monitor}

/-! ## What every moment keeps -/

/-- What holds at every moment. -/
structure Faithful (stage : Stage) (s : Show) : Prop where
  /-- the machine waits only for registers that exist, so that all of its steps can be told -/
  intact : s.player.machine.Intact
  /-- the monitor shows the screen unless the flag is set -/
  inView : s.InView
  /-- the monitor shows the screen once it was drawn, although the flag is still set -/
  drawn : stage = .drawn → s.monitor.Shows s.screen

/-- A step keeps what holds at every moment, since it announces what it does to the screen. -/
theorem Faithful.step {paused : Bool} (h : s.Faithful stage) (hn : next ≠ .drawn) :
    Faithful next
      ⟨{ s.player with machine := s.player.machine.step.machine, paused }, s.monitor⟩ where
  intact := h.intact.step
  inView := by
    intro hr
    -- the step has left the flag unset, so it has left the screen alone
    have hs : s.screen = s.player.machine.step.machine.screen :=
      (Machine.announces_step h.intact.awaits_lt).eq_of_redraw hr
    show s.monitor.Shows s.player.machine.step.machine.screen
    rw [← hs]
    exact h.inView (hs ▸ hr)
  drawn := fun hd => absurd hd hn

/-- **The host sees the screen at every moment**, unless the flag is set. -/
theorem Passes.faithful (h₀ : s₀.Faithful .idle) (h : s₀.Passes stage s) : s.Faithful stage := by
  induction h with
  | start => exact h₀
  | switch h paused ih => exact ⟨ih.intact, ih.inView, nofun⟩
  | arm h hp keys ih => exact ⟨ih.intact.act (.setKeypad keys), ih.inView, nofun⟩
  | step h ho hb ih => exact ih.step nofun
  | breakpoint h ho ih => exact ih.step nofun
  | fail h he ih => exact ih.step nofun
  | finish h ih => exact ⟨ih.intact, ih.inView, nofun⟩
  | @tick s h ih =>
    obtain ⟨tone, htick⟩ := Player.obeyAll_tick (p := s.player) (o := s.monitor)
    rw [htick]
    exact ⟨ih.intact.act .tick, ih.inView, nofun⟩
  | spare h hr ih => exact ⟨ih.intact, ih.inView, nofun⟩
  | draw h hr ih =>
    -- the flag is still set, but `note` is going to need that the picture is right already
    exact ⟨ih.intact, fun _ => Monitor.shows_draw _ _, fun _ => Monitor.shows_draw _ _⟩
  | note h ih =>
    exact ⟨ih.intact.act .markDrawn, fun _ => ih.drawn rfl, nofun⟩

/-! ## Requests pass moments -/

/-- The steps of a frame are made one after the other. -/
theorem Passes.spins {done left : Nat} {m n : Machine} {stop : Player.Stop} :
    Player.Spins done left m stop n → s₀.Passes (.stepping left) ⟨{ p with machine := m }, o⟩ →
      match stop with
      | .finished => s₀.Passes .stepped ⟨{ p with machine := n }, o⟩
      | .breakpoint _ => s₀.Passes .stepped ⟨{ p with machine := n, paused := true }, o⟩
      | .failed _ => s₀.Passes .idle ⟨{ p with machine := n }, o⟩ := by
  intro hs h
  induction hs with
  | finished => exact h.finish
  | failed he => exact h.fail he
  | breakpoint ho => exact h.breakpoint ho
  | step ho hb hs ih => exact ih (h.step ho hb)

/-- Behind the steps of a frame the timers are counted down, and the screen is drawn if the flag is
set. -/
theorem Passes.close (h : s₀.Passes .stepped ⟨p, o⟩) :
    s₀.Passes .idle ⟨p.close.1, o.obeyAll p.close.2⟩ := by
  have ht := h.tick
  -- `close` is a tick and a presentation, one after the other
  show s₀.Passes .idle ⟨p.tick.1.present.1, o.obeyAll (p.tick.2 ++ p.tick.1.present.2)⟩
  rw [Monitor.obeyAll_append]
  rcases hr : p.tick.1.machine.screen.redraw with - | -
  · rw [Player.present_of_not_redraw hr]
    exact ht.spare hr
  · rw [Player.present_of_redraw hr]
    exact (ht.draw hr).note

/-- **A request is served** by passing moments. -/
theorem Passes.serve (h : s₀.Passes .idle s) (r : Request) : s₀.Passes .idle (s.serve r) := by
  cases r with
  | frame keys =>
    have hf := s.player.frames keys
    show s₀.Passes .idle
      ⟨(s.player.frame keys).player, s.monitor.obeyAll (s.player.frame keys).calls⟩
    generalize (s.player.frame keys).result = r at hf
    generalize (s.player.frame keys).player = q at hf ⊢
    generalize (s.player.frame keys).calls = calls at hf ⊢
    cases hf with
    | paused hp => exact h
    | failed hp hs => exact Passes.spins hs (h.arm hp keys)
    | ran hp hs => exact (Passes.spins hs (h.arm hp keys)).close
    | breakpoint hp hs => exact (Passes.spins hs (h.arm hp keys)).close
  | pause =>
    show s₀.Passes .idle ⟨s.player.pause.player, s.monitor⟩
    rw [Player.player_pause]
    exact h.switch true
  | resume =>
    show s₀.Passes .idle ⟨s.player.resume.player, s.monitor⟩
    rw [Player.player_resume]
    exact h.switch false
  | toggle =>
    show s₀.Passes .idle ⟨s.player.toggle.player, s.monitor⟩
    rw [Player.player_toggle]
    exact h.switch _

theorem Passes.serveAll (h : s₀.Passes .idle s) (requests : List Request) :
    s₀.Passes .idle (s.serveAll requests) := by
  induction requests generalizing s with
  | nil => exact h
  | cons r rest ih => exact ih (h.serve r)

/-! ## A player that was just set up -/

/-- Before the first frame the screen is blank, which is what a monitor without a picture shows. -/
theorem faithful_opening {program : List UInt8} {dialect : Dialect} {dice : Dice} {rate : UInt32}
    {verbosity : Level}
    (h : ((Machine.start program dialect dice).play rate verbosity).result = .ok p) :
    (opening p).Faithful .idle := by
  obtain ⟨-, rfl⟩ := Player.play_eq_ok_iff.1 h
  exact ⟨⟨Nat.zero_le 16, nofun, Screen.binary_blank⟩,
    fun _ column row => (Screen.pixel?_blank column row).symm, nofun⟩

/-- Serving a frame lets the host see the screen. -/
structure Presents (s : Show) (keys : Keypad) : Prop where
  /-- after a frame that does something and does not fail, the flag is not set and the monitor shows
  the screen -/
  shown : ∀ outcome, (s.player.frame keys).result = .ok outcome → outcome ≠ .paused →
    (s.serve (.frame keys)).screen.redraw = false ∧
      (s.serve (.frame keys)).monitor.Shows (s.serve (.frame keys)).screen
  /-- at most one picture is drawn -/
  once : (s.serve (.frame keys)).monitor.framesDrawn ≤ s.monitor.framesDrawn + 1
  /-- no picture is drawn by a frame that does nothing or fails -/
  spared : ((s.player.frame keys).result = .ok .paused ∨
    ∃ e, (s.player.frame keys).result = .error e) →
    (s.serve (.frame keys)).monitor.framesDrawn = s.monitor.framesDrawn

/-- A frame lets the host see the screen if it saw it before. -/
theorem Faithful.presents (h : s.Faithful .idle) (keys : Keypad) : s.Presents keys := by
  have hf := s.player.frames keys
  refine ⟨?_, hf.framesDrawn_le, hf.framesDrawn_eq⟩
  intro outcome hr ho
  rw [hr] at hf
  have hredraw : (s.serve (.frame keys)).screen.redraw = false := hf.redraw ho
  exact ⟨hredraw, ((Passes.start.serve (.frame keys)).faithful h).inView hredraw⟩

/-- **The host sees the screen.** A program that fits can be played at any rate. At every moment
that the player passes, whatever is asked of it, the last picture has the pixels of the machine
unless the flag is set. The requests are served by passing such moments, and each frame draws at
most once, not at all if it does nothing or fails, and otherwise leaves the flag unset. -/
theorem host_sees_screen {program : List UInt8} (hp : program.length ≤ 3232) (dialect : Dialect)
    (dice : Dice) (rate : UInt32) (verbosity : Level) :
    ∃ p, ((Machine.start program dialect dice).play rate verbosity).result = .ok p ∧
      (∀ stage s, (opening p).Passes stage s → s.InView) ∧
      ∀ requests : List Request,
        (opening p).Passes .idle ((opening p).serveAll requests) ∧
          ∀ keys, ((opening p).serveAll requests).Presents keys := by
  obtain ⟨p, hplay⟩ :
      ∃ p, ((Machine.start program dialect dice).play rate verbosity).result = .ok p :=
    ⟨_, Player.play_eq_ok_iff.2 ⟨hp, rfl⟩⟩
  have h₀ := faithful_opening hplay
  refine ⟨p, hplay, fun _ _ h => (h.faithful h₀).inView, fun requests => ?_⟩
  have hpass : (opening p).Passes .idle ((opening p).serveAll requests) :=
    Passes.start.serveAll requests
  exact ⟨hpass, (hpass.faithful h₀).presents⟩

/-- A program that draws a zero and then jumps to itself: the zero is seen after the first frame. -/
theorem zero_is_seen :
    ∃ p, ((Machine.start [0xD0, 0x05, 0x12, 0x02] {} .loaded).play 120 .error).result = .ok p ∧
      (p.frame .released).result = .ok (.ran 2) ∧
      ((opening p).serve (.frame .released)).screen.redraw = false ∧
      ((opening p).serve (.frame .released)).monitor.Shows
        ((opening p).serve (.frame .released)).screen := by
  obtain ⟨p, hp, -, hserve⟩ := host_sees_screen
    (by decide : ([0xD0, 0x05, 0x12, 0x02] : List UInt8).length ≤ 3232) {} .loaded 120 .error
  have htest : (p.frame .released).result.toOption = some (.ran 2) := by
    obtain ⟨-, rfl⟩ := Player.play_eq_ok_iff.1 hp
    decide +kernel
  have hran : (p.frame .released).result = .ok (.ran 2) := by
    rcases hr : (p.frame .released).result with e | outcome <;> rw [hr] at htest <;> cases htest
    rfl
  exact ⟨p, hp, hran, ((hserve []).2 .released).shown _ hran nofun⟩

end Show

end Chip8
