import Chip8.Proofs.Terminal.Session

/-!
# The status is that of the session

The status below the screen is text that was shown at some moment, while the session goes on. It is
shown when a key toggles the pause and when a frame comes to a breakpoint, and at no other time.
That is enough: a running player has the same status whatever its machine is like, and while a
player is paused nothing changes its machine.

* `shownStatus` — the status that was shown last;
* `Session.Current` — it is the one that the session would show now;
* `Current.handle`, `Current.pass`, `Current.passes` — keys, passes and sessions keep it so;
* `exists_statuses` — keys show nothing else;
* `status_is_current` — all of this for a session that was just started, and what escape does.
-/

namespace Chip8.Terminal

/-- The status that something shows, if it shows one. -/
def Paint.status? : Paint → Option String
  | .status text => some text
  | .opening | .picture _ | .bell | .closing => none

/-- The status that was shown last. -/
def shownStatus (paints : List Paint) : Option String :=
  (paints.filterMap Paint.status?).getLast?

/-- What is shown later takes the place of what was shown before. -/
theorem shownStatus_append (first second : List Paint) :
    shownStatus (first ++ second) = (shownStatus second).or (shownStatus first) := by
  rw [shownStatus, List.filterMap_append, List.getLast?_append]
  rfl

/-- To show a status takes the place of all that was shown before. -/
theorem shownStatus_concat (paints : List Paint) (text : String) :
    shownStatus (paints ++ [.status text]) = some text := by
  rw [shownStatus_append]
  rfl

namespace Session

/-- What a player asks of its host is not the status. -/
theorem shownStatus_calls (calls : List HostCall) :
    shownStatus (calls.filterMap paintOf) = none := by
  induction calls with
  | nil => rfl
  | cons call rest ih =>
    rcases call with - | screen | (- | -) <;> exact ih

/-- The status that was shown last is the one that the session would show now. -/
def Current (s : Session) (paints : List Paint) : Prop :=
  shownStatus paints = some (statusText s.player)

variable {s : Session} {paints : List Paint} {now : Nat} {keys : List Key}

/-- The status of a running player does not depend on its machine. -/
theorem statusText_of_running {p : Player} (hp : p.paused = false) : statusText p = help := by
  rw [statusText, hp]
  rfl

/-- **Keys** keep the status current. -/
theorem Current.handle (h : s.Current paints) :
    (s.handle now keys).session.Current (paints ++ (s.handle now keys).paints) := by
  induction keys generalizing s paints with
  | nil => rwa [handle_nil, List.append_nil]
  | cons key rest ih =>
    by_cases he : key = .escape
    · subst he
      rwa [handle_escape, List.append_nil]
    by_cases hp : key = .char 'p'
    · subst hp
      rw [handle_toggle, List.append_cons]
      exact ih (shownStatus_concat _ _)
    · rw [handle_press he hp]
      exact ih h

/-- A frame that does not come to a breakpoint leaves the status as it should be: it leaves the
player as it is or lets it run on. -/
theorem statusText_frame {p q : Player} {held : Keypad} {outcome : FrameOutcome}
    {calls : List HostCall} (hf : p.Frames held (.ok outcome) q calls)
    (hb : ∀ cycles, outcome ≠ .breakpoint cycles) : statusText q = statusText p := by
  cases hf with
  | paused => rfl
  | ran hp =>
    rw [statusText_of_running hp]
    exact statusText_of_running ((Player.paused_close _).trans hp)
  | breakpoint => exact absurd rfl (hb _)

/-- **A pass** that does not end the session keeps the status current. -/
theorem Current.pass (h : s.Current paints) (hgoes : (s.pass now keys).ending = .none) :
    (s.pass now keys).session.Current (paints ++ (s.pass now keys).paints) := by
  by_cases he : .escape ∈ keys
  · obtain ⟨before, after, rfl, hb⟩ := List.eq_append_cons_of_mem he
    rw [pass_of_escape hb] at hgoes
    cases hgoes
  have hkeys : (keys.foldl (typed now) s).Current (paints ++ (s.handle now keys).paints) := by
    rw [← (session_handle he).1]
    exact h.handle
  generalize ht : keys.foldl (typed now) s = t at hkeys
  have hf := t.player.frames (t.held.keypad now)
  rw [pass_of_no_escape he ht rfl] at hgoes ⊢
  generalize t.player.frame (t.held.keypad now) = turn at hf hgoes ⊢
  obtain ⟨result, q, calls, log⟩ := turn
  -- what the frame asks of its host does not show a status, only what follows it may
  have hcalls : shownStatus (paints ++ ((s.handle now keys).paints ++ calls.filterMap paintOf)) =
      some (statusText t.player) := by
    rw [← List.append_assoc, shownStatus_append, shownStatus_calls]
    exact hkeys
  rcases result with e | (cycles | - | cycles)
  · cases hgoes
  · rw [Current, statusText_frame hf (by rintro _ ⟨⟩), epilogue, List.append_nil]
    exact hcalls
  · rw [Current, statusText_frame hf (by rintro _ ⟨⟩), epilogue, List.append_nil]
    exact hcalls
  · rw [Current, epilogue, ← List.append_assoc]
    exact shownStatus_concat _ _

/-- **Passes** that do not end the session keep the status current. -/
theorem Current.passes {batches : List Batch} (h : s.Current paints)
    (hgoes : (s.passes batches).ending = .none) :
    (s.passes batches).session.Current (paints ++ (s.passes batches).paints) := by
  induction batches generalizing s paints with
  | nil => rwa [Session.passes, List.append_nil]
  | cons b rest ih =>
    by_cases he : (s.pass b.now b.keys).ending = .none
    · rw [passes_cons_of_goes he] at hgoes ⊢
      rw [← List.append_assoc]
      exact ih (h.pass he) hgoes
    · rw [passes_cons_of_ends he] at hgoes
      exact absurd hgoes he

/-- A session that was just started shows its status. -/
theorem current_start {settings : Settings} {content : Option (List UInt8)} {dice : Dice}
    (h : (start settings content dice).result = .ok s) : s.Current greeting := by
  obtain ⟨program, m, -, -, rfl⟩ := start_eq_ok_iff.1 h
  rfl

/-- Only the status of a paused player begins so. -/
theorem paused_prefix_iff (p : Player) :
    "PAUSED".toList <+: (statusText p).toList ↔ p.paused = true := by
  rcases hp : p.paused
  · rw [statusText_of_running hp]
    decide +kernel
  · refine iff_of_true ?_ rfl
    rw [statusText, hp, if_pos rfl]
    simp only [String.toList_append, List.append_assoc]
    have hfirst : "PAUSED".toList <+: "PAUSED   ".toList := by decide +kernel
    exact hfirst.trans (List.prefix_append _ _)

/-- Keys show nothing but statuses. -/
theorem exists_statuses (s : Session) (now : Nat) (keys : List Key) :
    ∃ statuses : List String, (s.handle now keys).paints = statuses.map .status := by
  induction keys generalizing s with
  | nil => exact ⟨[], rfl⟩
  | cons key rest ih =>
    by_cases he : key = .escape
    · subst he
      exact ⟨[], rfl⟩
    by_cases hp : key = .char 'p'
    · subst hp
      obtain ⟨statuses, hrest⟩ := ih { s with player := s.player.toggle.player }
      rw [handle_toggle]
      exact ⟨statusText s.player.toggle.player :: statuses, congrArg (_ :: ·) hrest⟩
    · rw [handle_press he hp]
      exact ih _

/-- **The status is current.** Start a session for any program and settings, and let it run for any
number of passes with any keys, as long as it does not end. The status that was shown last begins
with `PAUSED` exactly if the player is paused, and then it is the line of help with the state of the
machine and a window of its memory below. If a key of the pass that follows is escape, then this
pass handles the keys in front of it and ends the session, with no frame: nothing but the pause of
the player is changed, nothing but the status is shown before the terminal is left as it was. -/
theorem status_is_current {settings : Settings} {content : Option (List UInt8)} {dice : Dice}
    {s₀ : Session} (h : (start settings content dice).result = .ok s₀) (batches : List Batch)
    (hgoes : (s₀.passes batches).ending = .none) :
    let s := (s₀.passes batches).session
    (∃ text, shownStatus (greeting ++ (s₀.passes batches).paints) = some text ∧
      ("PAUSED".toList <+: text.toList ↔ s.player.paused = true) ∧
      (s.player.paused = true →
        text = "PAUSED   " ++ help ++ "\n" ++ s.player.machine.summary ++
          s.player.machine.window.text)) ∧
      ∀ now before after, .escape ∉ before →
        let last := s.pass now (before ++ .escape :: after)
        last.ending = .quit ∧ last.session = before.foldl (typed now) s ∧
          (∃ paused, last.session.player = { s.player with paused }) ∧
          ∃ statuses : List String, last.paints = statuses.map .status ++ [.closing] := by
  intro s
  refine ⟨⟨statusText s.player, (current_start h).passes hgoes, paused_prefix_iff s.player,
    fun hp => if_pos hp⟩, fun now before after hb => ?_⟩
  have hlast : s.pass now (before ++ .escape :: after) = _ := pass_of_escape hb
  obtain ⟨statuses, hstatuses⟩ := exists_statuses s now before
  rw [hstatuses] at hlast
  simp only [hlast]
  exact ⟨trivial, trivial, player_foldl_typed now s before, statuses, rfl⟩

/-- A program whose first instruction is a breakpoint, at a step for each frame: its first pass
pauses it and its second lets it run on, unless escape is pressed before `p`. -/
theorem breakpoint_is_shown :
    ∃ s, (start ⟨60, none, {}, .error, "program"⟩ (some [0x00, 0x01, 0x12, 0x02]) .loaded).result =
        .ok s ∧
      (∃ text, shownStatus (greeting ++ (s.passes [⟨0, []⟩]).paints) = some text ∧
        "PAUSED".toList <+: text.toList) ∧
      shownStatus (greeting ++ (s.passes [⟨0, []⟩, ⟨17, [.char 'p']⟩]).paints) = some help ∧
      ((s.passes [⟨0, []⟩]).session.pass 17 [.escape, .char 'p']).ending = .quit := by
  have hfits : ([0x00, 0x01, 0x12, 0x02] : List UInt8).length ≤ 3232 := by decide
  obtain ⟨m, hm⟩ := Machine.exists_start hfits {} .loaded
  have hs : (start ⟨60, none, {}, .error, "program"⟩ _ _).result = .ok _ :=
    start_eq_ok_iff.2 ⟨_, m, rfl, hm, rfl⟩
  obtain ⟨-, rfl⟩ := Machine.start_eq_ok_iff.1 hm
  obtain ⟨⟨text, hshown, hprefix, -⟩, hescape⟩ :=
    status_is_current hs [⟨0, []⟩] (by decide +kernel)
  exact ⟨_, hs, ⟨text, hshown, hprefix.2 (by decide +kernel)⟩, by decide +kernel,
    (hescape 17 [] _ nofun).1⟩

end Session

end Chip8.Terminal
