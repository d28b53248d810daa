import Chip8.Proofs.Player.Frame
import Chip8.Terminal.Session

/-!
# What a pass comes to

A pass handles keys and then runs a frame, unless one of the keys is escape. The keys are handled
one after the other, and each of them changes the session in a way that can be said without looking
at the others (`Session.typed`); so the keys in front of the first escape, or all of them if there
is none, are handled by a fold.

* `Batch`, `Session.passes` — the passes of a session, up to the first that ends it;
* `handle_append`, `handle_escape` — the keys behind others, and those behind escape;
* `session_handle` — what keys without escape leave;
* `pass_of_escape`, `pass_of_no_escape` — the two kinds of passes;
* `start_eq_ok_iff` — which sessions can be started.
-/

namespace Chip8

/-- A player is set up exactly if its machine is. -/
theorem Setup.result_play (setup : Setup Machine) (rate : UInt32) (verbosity : Level) :
    (setup.play rate verbosity).result =
      setup.result.map fun m => Player.ofMachine m rate verbosity := by
  rw [play]
  split
  · next m hm =>
    rw [hm]
    rfl
  · next e he =>
    rw [he]
    rfl

namespace Terminal

/-- The keys of a pass, and the time at which they are handled. -/
structure Batch where
  /-- the time, in milliseconds -/
  now : Nat
  /-- the keys in the order of their presses -/
  keys : List Key

namespace Session

/-- The session behind a key that does not end it. -/
def typed (now : Nat) (s : Session) (key : Key) : Session :=
  if key = .char 'p' then { s with player := s.player.toggle.player }
  else { s with held := s.held.press now key }

/-- How the result of its frame leaves a pass. -/
def endingOf : Except Failure FrameOutcome → Ending
  | .error e => .failed e
  | .ok _ => .none

/-- What is shown behind the frame of a pass. -/
def epilogue (result : Except Failure FrameOutcome) (p : Player) : List Paint :=
  match result with
  | .error _ => [.closing]
  | .ok (.breakpoint _) => [.status (statusText p)]
  | .ok (.ran _) | .ok .paused => []

/-- Passes one after the other, up to the first that ends the session. -/
def passes (s : Session) : List Batch → Pass
  | [] => ⟨s, [], [], .none⟩
  | b :: rest =>
    let first := s.pass b.now b.keys
    match first.ending with
    | .none =>
      let others := first.session.passes rest
      { others with paints := first.paints ++ others.paints, log := first.log ++ others.log }
    | .quit | .failed _ => first

variable {s : Session} {now : Nat} {keys before after : List Key} {key : Key}

/-! ## Keys -/

@[simp] theorem handle_nil : s.handle now [] = ⟨s, [], [], false⟩ := rfl

/-- The keys behind escape are not handled. -/
@[simp] theorem handle_escape : s.handle now (.escape :: keys) = ⟨s, [], [], true⟩ := rfl

/-- A pause is toggled and shown. -/
theorem handle_toggle :
    s.handle now (.char 'p' :: keys) =
      let rest := { s with player := s.player.toggle.player }.handle now keys
      { rest with
        paints := .status (statusText s.player.toggle.player) :: rest.paints
        log := s.player.toggle.log ++ rest.log } := rfl

/-- Any other key is pressed, and nothing is shown. -/
theorem handle_press (he : key ≠ .escape) (hp : key ≠ .char 'p') :
    s.handle now (key :: keys) = { s with held := s.held.press now key }.handle now keys := by
  rw [handle]
  · exact he
  · exact hp

theorem typed_toggle : s.typed now (.char 'p') = { s with player := s.player.toggle.player } :=
  if_pos rfl

theorem typed_of_ne (hp : key ≠ .char 'p') :
    s.typed now key = { s with held := s.held.press now key } := if_neg hp

/-- **Keys without escape** are typed one after the other, and do not end the session. -/
theorem session_handle (h : .escape ∉ keys) :
    (s.handle now keys).session = keys.foldl (typed now) s ∧ (s.handle now keys).quit = false := by
  induction keys generalizing s with
  | nil => exact ⟨rfl, rfl⟩
  | cons key rest ih =>
    have he := List.ne_of_not_mem_cons h
    have hrest := List.not_mem_of_not_mem_cons h
    by_cases hp : key = .char 'p'
    · subst hp
      rw [handle_toggle, List.foldl_cons, typed_toggle]
      exact ih hrest
    · rw [handle_press (Ne.symm he) hp, List.foldl_cons, typed_of_ne hp]
      exact ih hrest

/-- Keys behind others are handled behind them, unless there is an escape among the others. -/
theorem handle_append (h : .escape ∉ before) :
    s.handle now (before ++ after) =
      let first := s.handle now before
      let rest := first.session.handle now after
      ⟨rest.session, first.paints ++ rest.paints, first.log ++ rest.log, rest.quit⟩ := by
  induction before generalizing s with
  | nil => rfl
  | cons key rest ih =>
    have he := List.ne_of_not_mem_cons h
    have hrest := List.not_mem_of_not_mem_cons h
    by_cases hp : key = .char 'p'
    · subst hp
      rw [List.cons_append, handle_toggle, handle_toggle, ih hrest]
      simp only [List.cons_append, List.append_assoc]
    · rw [List.cons_append, handle_press (Ne.symm he) hp, handle_press (Ne.symm he) hp, ih hrest]

/-- Nothing but the pause of its player is changed by a key. -/
theorem player_typed (now : Nat) (s : Session) (key : Key) :
    ∃ paused, (s.typed now key).player = { s.player with paused } := by
  rw [typed]
  split
  · exact ⟨!s.player.paused, Player.player_toggle⟩
  · exact ⟨s.player.paused, rfl⟩

/-- Nothing but the pause of its player is changed by some keys. -/
theorem player_foldl_typed (now : Nat) (s : Session) (keys : List Key) :
    ∃ paused, (keys.foldl (typed now) s).player = { s.player with paused } := by
  induction keys generalizing s with
  | nil => exact ⟨s.player.paused, rfl⟩
  | cons key rest ih =>
    obtain ⟨_, hfirst⟩ := player_typed now s key
    obtain ⟨paused, hrest⟩ := ih (s := s.typed now key)
    rw [hfirst] at hrest
    exact ⟨paused, hrest⟩

/-! ## Passes -/

/-- **A pass with an escape** handles the keys in front of it and ends the session, without a
frame. -/
theorem pass_of_escape (h : .escape ∉ before) :
    s.pass now (before ++ .escape :: after) =
      ⟨before.foldl (typed now) s, (s.handle now before).paints ++ [.closing],
        (s.handle now before).log, .quit⟩ := by
  rw [pass, handle_append h]
  simp only [handle_escape, if_true, List.append_nil, (session_handle h).1]

/-- **A pass without an escape** runs a frame behind its keys. -/
theorem pass_of_no_escape {t : Session} {turn : Player.Turn} (h : .escape ∉ keys)
    (ht : keys.foldl (typed now) s = t) (hturn : t.player.frame (t.held.keypad now) = turn) :
    s.pass now keys =
      ⟨{ t with player := turn.player },
        (s.handle now keys).paints ++ turn.calls.filterMap paintOf ++
          epilogue turn.result turn.player,
        (s.handle now keys).log ++ turn.log, endingOf turn.result⟩ := by
  obtain ⟨hsession, hquit⟩ : (s.handle now keys).session = t ∧ (s.handle now keys).quit = false :=
    ht ▸ session_handle h
  obtain ⟨result, player, calls, log⟩ := turn
  -- the result of the frame decides what is shown at the end
  rcases result with e | (cycles | - | cycles) <;>
    simp only [pass, hquit, hsession, hturn, Bool.false_eq_true, if_false, epilogue, endingOf,
      List.append_nil]

/-- Other passes follow one that does not end the session. -/
theorem passes_cons_of_goes {b : Batch} {rest : List Batch}
    (h : (s.pass b.now b.keys).ending = .none) :
    s.passes (b :: rest) =
      let first := s.pass b.now b.keys
      let others := first.session.passes rest
      { others with paints := first.paints ++ others.paints, log := first.log ++ others.log } := by
  rw [passes, h]

/-- No pass follows one that ends the session. -/
theorem passes_cons_of_ends {b : Batch} {rest : List Batch}
    (h : (s.pass b.now b.keys).ending ≠ .none) : s.passes (b :: rest) = s.pass b.now b.keys := by
  rw [passes]
  split
  · next hgoes => exact absurd hgoes h
  · rfl
  · rfl

/-! ## Setting up -/

/-- A session can be started exactly if its file can be read and holds a program that fits. Its
player has the machine that the program is started on. -/
theorem start_eq_ok_iff {settings : Settings} {content : Option (List UInt8)} {dice : Dice} :
    (start settings content dice).result = .ok s ↔
      ∃ program m, content = some program ∧
        (Machine.start program settings.dialect dice).result = .ok m ∧
        s = ⟨.ofMachine m settings.rate .error, .none⟩ := by
  rw [start]
  show (((Machine.startFile content settings.dialect dice).play settings.rate .error).result.map
    fun player => Session.mk player .none) = .ok s ↔ _
  rw [map_eq_ok_iff, Setup.result_play]
  constructor
  · rintro ⟨p, hp, rfl⟩
    obtain ⟨m, hm, rfl⟩ := map_eq_ok_iff.1 hp
    rcases content with - | program
    · cases hm
    · exact ⟨program, m, rfl, hm, rfl⟩
  · rintro ⟨program, m, rfl, hm, rfl⟩
    exact ⟨_, map_eq_ok_iff.2 ⟨m, hm, rfl⟩, rfl⟩

end Session

end Terminal

end Chip8
