import Chip8.Proofs.Player.Session

/-!
# Pauses leave no trace

A paused player does nothing when it is asked for a frame, so a session with pauses in it is a
session without them that takes longer. To say so, a session is told again: the frames of a paused
player are left out and so are all pauses, and of the frames that remain each is asked for when the
player is sure to be running. What is told again is the same frames, run by players in the same
state, with the same requests to the host, and it ends with the same player but for the pause.

* `Player.kept`, `Request.again` — the frames that remain, and the session that asks for them;
* `Player.Alike` — two sessions that differ in nothing but pauses;
* `alike_switch`, `alike_skip`, `Alike.frame` — what may be put into a session and taken out of it;
* `alike_again` — each session is like the one that tells it again;
* `pauses_leave_no_trace` — so two sessions are alike if the same frames remain of them.
-/

namespace Chip8

/-- The session that asks for frames with some keys held, each time of a running player. -/
def Request.again (keys : List Keypad) : List Request := keys.flatMap fun k => [.resume, .frame k]

namespace Player

/-- The player, if it were running. -/
def running (p : Player) : Player := { p with paused := false }

/-- The keys of the frames of a session, those of a paused player left out. -/
def kept (p : Player) (requests : List Request) : List Keypad :=
  ((p.rounds requests).filter Round.active).map Round.keys

/-- Two sessions differ in nothing but pauses. -/
structure Alike (p : Player) (requests : List Request) (q : Player) (others : List Request) :
    Prop where
  /-- the same frames are run, by players in the same state -/
  rounds : (q.rounds others).filter Round.active = (p.rounds requests).filter Round.active
  /-- the host is asked for the same -/
  calls : q.callsOf others = p.callsOf requests
  /-- the same player is left, paused or not -/
  player : (q.serveAll others).running = (p.serveAll requests).running

variable {p q k : Player} {requests others more : List Request} {keys : Keypad}

namespace Alike

theorem symm (h : p.Alike requests q others) : q.Alike others p requests :=
  ⟨h.rounds.symm, h.calls.symm, h.player.symm⟩

theorem trans (h₁ : p.Alike requests q others) (h₂ : q.Alike others k more) :
    p.Alike requests k more where
  rounds := h₂.rounds.trans h₁.rounds
  calls := h₂.calls.trans h₁.calls
  player := h₂.player.trans h₁.player

/-- The same frames remain of sessions that are alike. -/
theorem kept (h : p.Alike requests q others) : q.kept others = p.kept requests :=
  congrArg (List.map Round.keys) h.rounds

/-- The same frame may be put in front of sessions that are alike. -/
theorem frame (h : (p.frame keys).player.Alike requests (p.frame keys).player others) :
    p.Alike (.frame keys :: requests) p (.frame keys :: others) where
  rounds := by
    rw [Player.rounds, Player.rounds, List.filter_append, List.filter_append]
    exact congrArg _ h.rounds
  calls := congrArg ((p.frame keys).calls ++ ·) h.calls
  player := h.player

end Alike

/-! ## Requests that leave no trace -/

/-- To pause a player, or to let it run, only changes by which player the session goes on. -/
theorem alike_switch {r : Request} {paused : Bool} (hs : p.serve r = ({ p with paused }, []))
    (hr : p.roundsOfOne r = []) (rest : List Request) :
    p.Alike (r :: rest) { p with paused } rest := by
  constructor
  · rw [Player.rounds, hr, hs, List.nil_append]
  · rw [callsOf, hs, List.nil_append]
  · rw [serveAll_cons, hs]

/-- A running player is not changed by being resumed. -/
theorem alike_resume (hp : p.paused = false) (rest : List Request) :
    p.Alike (.resume :: rest) p rest := by
  have hrunning : { p with paused := false } = p := by rw [← hp]
  have hs : p.serve .resume = ({ p with paused := false }, []) := by rw [serve, player_resume]
  have h := alike_switch hs rfl rest
  rwa [hrunning] at h

/-- A frame of a paused player may be left out. -/
theorem alike_skip (hp : p.paused = true) (keys : Keypad) (rest : List Request) :
    p.Alike (.frame keys :: rest) p rest := by
  have hturn : p.frame keys = ⟨.ok .paused, p, [], []⟩ := if_pos hp
  have hs : p.serve (.frame keys) = (p, []) := by rw [serve, hturn]
  constructor
  · have hidle : ¬(Round.mk p keys).active = true := by
      rw [Round.active_eq_not_paused, hp]
      exact Bool.false_ne_true
    rw [Player.rounds, roundsOfOne, hs, List.singleton_append, List.filter_cons_of_neg hidle]
  · rw [callsOf, hs, List.nil_append]
  · rw [serveAll_cons, hs]

/-! ## Telling a session again -/

theorem again_cons (keys : Keypad) (rest : List Keypad) :
    Request.again (keys :: rest) = .resume :: .frame keys :: Request.again rest := rfl

/-- A frame of a running player is told again. -/
theorem kept_frame (hp : p.paused = false) (keys : Keypad) (rest : List Request) :
    p.kept (.frame keys :: rest) = keys :: (p.frame keys).player.kept rest := by
  have hactive : (Round.mk p keys).active = true := by
    rw [Round.active_eq_not_paused, hp]
    rfl
  rw [kept, Player.rounds, roundsOfOne, List.singleton_append, List.filter_cons_of_pos hactive]
  rfl

/-- What is told again does not depend on whether the player is paused at first, since the first
request is to resume it. -/
theorem alike_again_switch (p : Player) (paused : Bool) (keys : List Keypad) :
    { p with paused }.Alike (Request.again keys) p (Request.again keys) := by
  cases keys with
  | nil => exact ⟨rfl, rfl, rfl⟩
  | cons first rest =>
    have hs (p : Player) : p.serve .resume = ({ p with paused := false }, []) := by
      rw [serve, player_resume]
    rw [again_cons]
    exact (alike_switch (hs { p with paused }) rfl _).trans (alike_switch (hs p) rfl _).symm

/-- **A session is like the one that tells it again.** -/
theorem alike_again (p : Player) (requests : List Request) :
    p.Alike requests p (Request.again (p.kept requests)) := by
  induction requests generalizing p with
  | nil => exact ⟨rfl, rfl, rfl⟩
  | cons r rest ih =>
    rcases p.frame_or_switch r with ⟨keys, rfl⟩ | ⟨paused, hs, hr⟩
    · rcases hp : p.paused with - | -
      · rw [kept_frame hp, again_cons]
        exact (ih _).frame.trans (alike_resume hp _).symm
      · have h := alike_skip hp keys rest
        rw [← h.kept]
        exact h.trans (ih p)
    · -- the rest is told again from another player, but that makes no difference
      have h := alike_switch hs hr rest
      rw [← h.kept]
      exact (h.trans (ih _)).trans (alike_again_switch p paused _)

/-- What is told again are frames of running players. -/
theorem active_of_mem_again {keys : List Keypad} {r : Round}
    (h : r ∈ p.rounds (Request.again keys)) : r.active = true := by
  induction keys generalizing p with
  | nil => cases h
  | cons first rest ih =>
    have hs : p.serve .resume = (p.running, []) := by rw [serve, player_resume, running]
    rw [again_cons, Player.rounds, Player.rounds, hs] at h
    rcases List.mem_append.1 h with h | h
    · cases h
    rcases List.mem_append.1 h with h | h
    · rw [List.mem_singleton.1 h, Round.active_eq_not_paused]
      rfl
    · exact ih h

/-- **Pauses leave no trace.** Take the frames of a session that were not asked for in vain, and ask
for them again with the same keys, each time of a running player. The frames are then run by players
in the same state, so that the same comes of each of them; the host is asked for the same, in the
same order; and the same player is left, but for the pause. So whatever another session of the
player does about pauses, it is like the first one if the same frames remain of it. A frame that was
asked for in vain leaves the player as it is and asks the host for nothing. -/
theorem pauses_leave_no_trace (p : Player) (requests : List Request) :
    (p.rounds (Request.again (p.kept requests)) = (p.rounds requests).filter Round.active ∧
      p.callsOf (Request.again (p.kept requests)) = p.callsOf requests ∧
      (p.serveAll (Request.again (p.kept requests))).running = (p.serveAll requests).running) ∧
    (∀ paused others, { p with paused }.kept others = p.kept requests →
      p.Alike requests { p with paused } others) ∧
    ∀ r ∈ p.rounds requests, r.active = false → r.turn.player = r.player ∧ r.turn.calls = [] := by
  have hagain := alike_again p requests
  refine ⟨⟨?_, hagain.calls, hagain.player⟩, ?_, ?_⟩
  · rw [← hagain.rounds]
    exact (List.filter_eq_self.2 fun r hr => active_of_mem_again hr).symm
  · intro paused others hkept
    have hothers := alike_again { p with paused } others
    rw [hkept] at hothers
    exact hagain.trans ((alike_again_switch p paused _).symm.trans hothers.symm)
  · intro r _ hidle
    rw [Round.active_eq_not_paused, Bool.not_eq_false'] at hidle
    rw [Round.turn_of_paused hidle]
    exact ⟨rfl, rfl⟩

/-- A session in which a breakpoint pauses the player and a frame is asked for in vain, against one
that starts with a paused player: the same two frames remain of them. -/
theorem breakpoint_leaves_no_trace :
    ∃ p, ((Machine.start [0x00, 0x01, 0x12, 0x02] {} .loaded).play 60 .error).result = .ok p ∧
      (let requests := [.frame .released, .frame (.ofList [3]), .resume, .frame (.ofList [5])]
        let others := [.frame .released, .toggle, .frame .released, .resume, .frame (.ofList [5])]
        p.kept requests = [.released, .ofList [5]] ∧
          p.Alike requests { p with paused := true } others) ∧
      (Round.mk (p.serveAll [.frame .released]) (.ofList [3])).turn.calls = [] := by
  obtain ⟨p, hp, hkept, hothers, hidle⟩ : ∃ p,
      ((Machine.start [0x00, 0x01, 0x12, 0x02] {} .loaded).play 60 .error).result = .ok p ∧
        p.kept [.frame .released, .frame (.ofList [3]), .resume, .frame (.ofList [5])] =
          [.released, .ofList [5]] ∧
        { p with paused := true }.kept
          [.frame .released, .toggle, .frame .released, .resume, .frame (.ofList [5])] =
            [.released, .ofList [5]] ∧
        (Round.mk (p.serveAll [.frame .released]) (.ofList [3])).active = false :=
    ⟨_, play_eq_ok_iff.2 ⟨by decide, rfl⟩, by decide +kernel, by decide +kernel, by decide +kernel⟩
  obtain ⟨-, hlike, hvain⟩ := pauses_leave_no_trace p
    [.frame .released, .frame (.ofList [3]), .resume, .frame (.ofList [5])]
  have hmem : (Round.mk (p.serveAll [.frame .released]) (.ofList [3])) ∈
      p.rounds [.frame .released, .frame (.ofList [3]), .resume, .frame (.ofList [5])] :=
    List.mem_cons_of_mem _ List.mem_cons_self
  exact ⟨p, hp, ⟨hkept, hlike true _ (hothers.trans hkept.symm)⟩, (hvain _ hmem hidle).2⟩

end Player

end Chip8
