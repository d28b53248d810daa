import Chip8.Proofs.Player.Session

/-!
# The tone follows the beeps

A beep starts the tone, and the player counts down the frames until it stops it, one of them in the
very frame of the beep. A beep that comes before the tone has stopped starts the count anew. So the
tone is on behind a frame if one of the last twenty-four frames has beeped, that frame included, and
it is stopped in the frame that lets the latest beep drop out of these. Frames that were not
completed do not count.

* `HostCall.tones` — what the host is told about the tone;
* `Lasts` — how long the tone is still to sound, said of the beeps alone;
* `Lasts.sound` — the count is kept right by a frame;
* `InTune`, `InTune.serve` — what the count, the last call and all earlier calls have to do with each
  other;
* `tone_follows_beeps` — when the tone is on, and in which frames it is started and stopped.
-/

namespace Chip8

/-- What a call tells the host about the tone, if anything. -/
def HostCall.tone? : HostCall → Option Bool
  | .tone on => some on
  | .readKeys | .draw _ => none

/-- What calls tell the host about the tone, in order. -/
def HostCall.tones (calls : List HostCall) : List Bool := calls.filterMap HostCall.tone?

open HostCall (tones)

namespace Player

/-- Behind frames of which some have beeped, the tone is to sound for a number of frames more. It
is the latest beep that counts, but the others may be looked at too since they count for less. -/
def Lasts (beeps : List Bool) (frames : Nat) : Prop :=
  ∀ k, k < frames ↔ ∃ i, beeps[i]? = some true ∧ beeps.length + k < i + toneLength

/-! ## One count -/

variable {beeps : List Bool} {frames : Nat} {beep : Bool}

theorem sound_beep (frames : Nat) : sound true frames = (24, [.tone true]) := rfl

theorem sound_silence_fst (frames : Nat) : (sound false frames).1 = frames - 1 := by
  rcases frames with _ | left <;> rfl

theorem tones_sound_silence (frames : Nat) :
    tones (sound false frames).2 = if frames = 1 then [false] else [] := by
  rcases frames with _ | _ | left <;> rfl

theorem getElem?_concat_eq_true {i : Nat} :
    (beeps ++ [beep])[i]? = some true ↔
      beeps[i]? = some true ∨ i = beeps.length ∧ beep = true := by
  rcases Nat.lt_trichotomy i beeps.length with h | rfl | h
  · rw [List.getElem?_append_left h]
    exact ⟨.inl, fun h' => h'.resolve_right fun hi => Nat.ne_of_lt h hi.1⟩
  · rw [List.getElem?_concat_length, List.getElem?_eq_none (Nat.le_refl _)]
    simp
  · have hlong : (beeps ++ [beep]).length ≤ i := by
      rw [List.length_append, List.length_singleton]
      exact h
    rw [List.getElem?_eq_none hlong, List.getElem?_eq_none (Nat.le_of_lt h)]
    exact ⟨nofun, fun h' => h'.elim nofun fun hi => absurd hi.1 (Nat.ne_of_gt h)⟩

/-- At first nothing has beeped, and there is no tone. -/
theorem lasts_nil : Lasts [] 0 := fun _ => ⟨nofun, fun ⟨_, h, _⟩ => nomatch h⟩

/-- **A frame keeps the count right**, whether it beeps or not. -/
theorem Lasts.sound (h : Lasts beeps frames) (beep : Bool) :
    Lasts (beeps ++ [beep]) (Player.sound beep frames).1 := by
  intro k
  simp only [getElem?_concat_eq_true, List.length_append, List.length_singleton]
  cases beep with
  | false =>
    rw [sound_silence_fst, Nat.lt_sub_iff_add_lt, h (k + 1)]
    constructor
    · rintro ⟨i, hi, hk⟩
      exact ⟨i, .inl hi, by omega⟩
    · rintro ⟨i, hi | ⟨-, hi⟩, hk⟩
      · exact ⟨i, hi, by omega⟩
      · cases hi
  | true =>
    rw [sound_beep]
    constructor
    · intro hk
      exact ⟨beeps.length, .inr ⟨rfl, rfl⟩, by rw [toneLength]; omega⟩
    · -- earlier beeps count for less
      rintro ⟨i, hi, hk⟩
      have hle : i ≤ beeps.length := by
        rcases hi with hi | ⟨rfl, -⟩
        · exact Nat.le_of_lt (List.getElem?_eq_some_iff.1 hi).1
        · exact Nat.le_refl _
      rw [toneLength] at hk
      show k < 24
      omega

/-- The tone is on if one of the last twenty-four frames has beeped. -/
theorem Lasts.pos_iff (h : Lasts beeps frames) :
    0 < frames ↔ ∃ i, beeps[i]? = some true ∧ beeps.length ≤ i + 24 := by
  simp only [h 0, toneLength]
  exact exists_congr fun i => and_congr_right fun _ => by omega

/-- The tone is about to stop if it was the twenty-fourth frame before the next that has beeped, and
none behind it. -/
theorem Lasts.eq_one_iff (h : Lasts beeps frames) :
    frames = 1 ↔
      ∃ i, beeps[i]? = some true ∧ beeps.length = i + 24 ∧ ∀ k, i < k → beeps[k]? ≠ some true := by
  have h0 := h.pos_iff
  have h1 : 1 < frames ↔ ∃ i, beeps[i]? = some true ∧ beeps.length + 1 < i + 25 := h 1
  constructor
  · rintro rfl
    obtain ⟨i, hi, hle⟩ := h0.1 Nat.zero_lt_one
    have hlast : ∀ k, beeps[k]? = some true → k + 24 ≤ beeps.length := by
      intro k hk
      have hnot : ¬(beeps.length + 1 < k + 25) := fun hlt => Nat.lt_irrefl 1 (h1.2 ⟨k, hk, hlt⟩)
      omega
    have heq : beeps.length = i + 24 := Nat.le_antisymm hle (hlast i hi)
    refine ⟨i, hi, heq, ?_⟩
    intro k hik hk
    have := hlast k hk
    omega
  · rintro ⟨i, hi, heq, hlater⟩
    have hpos : 0 < frames := h0.2 ⟨i, hi, Nat.le_of_eq heq⟩
    have hle : ¬1 < frames := by
      intro hlt
      obtain ⟨k, hk, hkl⟩ := h1.1 hlt
      exact hlater k (by omega) hk
    omega

/-- The screen that may be drawn at the end of a frame says nothing about the tone. -/
theorem tones_close (p : Player) :
    tones p.close.2 = tones (sound p.machine.timers.beeps p.toneFrames).2 := by
  have hdraw : tones p.tick.1.present.2 = [] := by
    rw [present]
    split <;> rfl
  show tones (p.tick.2 ++ p.tick.1.present.2) = _
  rw [tones, List.filterMap_append]
  exact (congrArg _ hdraw).trans (List.append_nil _)

end Player

/-! ## One frame -/

namespace Round

variable {r : Round}

/-- A completed frame tells the host about the tone what goes with its beep, and keeps the count. -/
theorem tones_of_completed (h : r.completed = true) :
    tones r.turn.calls = tones (Player.sound r.beeps r.player.toneFrames).2 ∧
      r.turn.player.toneFrames = (Player.sound r.beeps r.player.toneFrames).1 := by
  obtain ⟨-, paused, hplayer, hcalls⟩ := exists_close_of_completed h
  rw [beeps_of_completed h, hplayer, hcalls, Player.toneFrames_close]
  exact ⟨Player.tones_close _, rfl⟩

/-- A frame that is not completed leaves the tone alone. -/
theorem tones_of_not_completed (h : r.completed = false) :
    tones r.turn.calls = [] ∧ r.turn.player.toneFrames = r.player.toneFrames := by
  rcases eq_or_eq_of_not_completed h with ⟨hplayer, hcalls⟩ | ⟨-, hplayer, hcalls⟩
  · rw [hplayer, hcalls]
    exact ⟨rfl, rfl⟩
  · rw [hplayer, hcalls]
    exact ⟨rfl, rfl⟩

/-- What a frame does about the tone, given the beeps of the completed frames before it. -/
structure Follows (beeps : List Bool) (r : Round) : Prop where
  /-- the tone is started or stopped at most once -/
  once : (tones r.turn.calls).length ≤ 1
  /-- it is started if the frame beeps -/
  starts : true ∈ tones r.turn.calls ↔ r.beeps = true
  /-- it is stopped if the latest beep was twenty-four frames before -/
  stops : false ∈ tones r.turn.calls ↔ r.completed = true ∧ r.beeps = false ∧
    ∃ i, beeps[i]? = some true ∧ beeps.length = i + 24 ∧ ∀ k, i < k → beeps[k]? ≠ some true

/-- A frame follows the beeps if the count is right before it. -/
theorem follows {beeps : List Bool} (h : Player.Lasts beeps r.player.toneFrames) :
    r.Follows beeps := by
  rcases hc : r.completed with - | -
  · have htones := (tones_of_not_completed hc).1
    have hbeep : r.beeps = false := by rw [Round.beeps, hc]; rfl
    constructor
    · rw [htones]
      exact Nat.zero_le 1
    · rw [htones, hbeep]
      exact iff_of_false List.not_mem_nil Bool.false_ne_true
    · rw [htones, hc]
      exact iff_of_false List.not_mem_nil fun hs => Bool.false_ne_true hs.1
  · have htones := (tones_of_completed hc).1
    rcases hbeep : r.beeps with - | -
    · rw [hbeep, Player.tones_sound_silence] at htones
      constructor
      · rw [htones]
        split
        · exact Nat.le_refl 1
        · exact Nat.zero_le 1
      · rw [htones, hbeep]
        refine iff_of_false ?_ Bool.false_ne_true
        split
        · exact fun hm => Bool.false_ne_true (List.mem_singleton.1 hm).symm
        · exact List.not_mem_nil
      · rw [htones, ← h.eq_one_iff, hc, hbeep, and_iff_right rfl, and_iff_right rfl]
        split
        · next h1 => exact iff_of_true (List.mem_singleton.2 rfl) h1
        · next h1 => exact iff_of_false List.not_mem_nil h1
    · rw [hbeep, Player.sound_beep] at htones
      constructor
      · rw [htones]
        exact Nat.le_refl 1
      · rw [htones, hbeep]
        exact iff_of_true (List.mem_singleton.2 rfl) rfl
      · rw [htones, hbeep]
        refine iff_of_false (fun hm => ?_) fun hs => Bool.false_ne_true hs.2.1.symm
        exact Bool.false_ne_true (List.mem_singleton.1 hm)

end Round

/-! ## A session -/

namespace Player

/-- Where the host was told to stop the tone, it was told to start it just before. -/
def Alternates (told : List Bool) : Prop :=
  ∀ before after, told = before ++ false :: after → before.getLast? = some true

theorem alternates_nil : Alternates [] := by
  intro before after h
  cases before <;> cases h

/-- The tone may be started at any time, and stopped where it was started just before. -/
theorem Alternates.concat {told : List Bool} {on : Bool} (h : Alternates told)
    (hon : on = false → told.getLast? = some true) : Alternates (told ++ [on]) := by
  intro before after hsplit
  rcases List.eq_nil_or_concat after with rfl | ⟨rest, last, rfl⟩
  · obtain ⟨rfl, hlast⟩ := List.append_inj' hsplit rfl
    cases hlast
    exact hon rfl
  · rw [List.concat_eq_append, ← List.cons_append, ← List.append_assoc] at hsplit
    exact h before rest (List.append_inj' hsplit rfl).1

/-- The completed frames of a session, what the host was told about the tone, and the count fit
together. -/
structure InTune (beeps told : List Bool) (frames : Nat) : Prop where
  /-- the count is right -/
  lasts : Lasts beeps frames
  /-- the host was told last that the tone is on, unless the count has run out -/
  last : told.getLastD false = decide (0 < frames)
  /-- starts and stops alternate -/
  alternates : Alternates told

variable {beeps told : List Bool} {frames : Nat} {p : Player}

theorem inTune_nil : InTune [] [] 0 := ⟨lasts_nil, rfl, alternates_nil⟩

/-- If the count has not run out, the host was told last to start the tone. -/
theorem InTune.getLast?_of_pos (h : InTune beeps told frames) (hpos : 0 < frames) :
    told.getLast? = some true := by
  have hlast := h.last
  rw [decide_eq_true hpos, List.getLastD_eq_getLast?] at hlast
  rcases hl : told.getLast? with _ | on <;> rw [hl] at hlast
  · cases hlast
  · exact congrArg some hlast

/-- **A completed frame** keeps beeps, calls and count together. -/
theorem InTune.sound (h : InTune beeps told frames) (beep : Bool) :
    InTune (beeps ++ [beep]) (told ++ tones (sound beep frames).2) (sound beep frames).1 := by
  refine ⟨h.lasts.sound beep, ?_, ?_⟩
  · cases beep with
    | true => exact List.getLastD_concat
    | false =>
      rw [tones_sound_silence, sound_silence_fst]
      split
      · next h1 =>
        subst h1
        exact List.getLastD_concat
      · next h1 =>
        rw [List.append_nil, h.last]
        exact decide_eq_decide.2 (by omega)
  · cases beep with
    | true => exact h.alternates.concat nofun
    | false =>
      rw [tones_sound_silence]
      split
      · next h1 => exact h.alternates.concat fun _ => h.getLast?_of_pos (by omega)
      · rw [List.append_nil]
        exact h.alternates

/-- **A request** keeps beeps, calls and count together. -/
theorem InTune.serve (h : InTune beeps told p.toneFrames) (r : Request) :
    InTune (beeps ++ p.beeps [r]) (told ++ tones (p.serve r).2) (p.serve r).1.toneFrames := by
  rcases p.frame_or_switch r with ⟨keys, rfl⟩ | ⟨paused, hs, hr⟩
  · rcases hc : (Round.mk p keys).completed with - | -
    · obtain ⟨htones, hframes⟩ := Round.tones_of_not_completed hc
      show InTune _ (told ++ tones (Round.mk p keys).turn.calls)
        (Round.mk p keys).turn.player.toneFrames
      rw [htones, hframes, beeps_of_not_completed hc, List.append_nil, List.append_nil]
      exact h
    · obtain ⟨htones, hframes⟩ := Round.tones_of_completed hc
      show InTune _ (told ++ tones (Round.mk p keys).turn.calls)
        (Round.mk p keys).turn.player.toneFrames
      rw [htones, hframes, beeps_of_completed hc]
      exact h.sound _
  · have htones : told ++ tones ([] : List HostCall) = told := List.append_nil told
    rw [beeps_of_switch hr, hs, List.append_nil, htones]
    exact h

/-- **A session** keeps beeps, calls and count together. -/
theorem InTune.serveAll (h : InTune beeps told p.toneFrames) (requests : List Request) :
    InTune (beeps ++ p.beeps requests) (told ++ tones (p.callsOf requests))
      (p.serveAll requests).toneFrames := by
  induction requests generalizing beeps told p with
  | nil =>
    have hbeeps : beeps ++ p.beeps [] = beeps := List.append_nil beeps
    have htones : told ++ tones (p.callsOf []) = told := List.append_nil told
    rwa [hbeeps, htones]
  | cons r rest ih =>
    have hrest := ih (h.serve r)
    have htones : tones (p.callsOf (r :: rest)) =
        tones (p.serve r).2 ++ tones ((p.serve r).1.callsOf rest) := List.filterMap_append
    rwa [beeps_cons, htones, serveAll_cons, ← List.append_assoc, ← List.append_assoc]

/-- **The tone follows the beeps.** Take a player that was just set up, with any machine and at any
rate, and whatever a host has asked it for. The host was told last that the tone is on if one of the
last twenty-four completed frames has beeped. Whatever keys are held in the next frame, it starts
the tone if it beeps, stops it if the latest beep was twenty-four completed frames before, and does
nothing else about it. And wherever the host was told to stop the tone, it was told to start it
before, and not to stop it in between. -/
theorem tone_follows_beeps (m : Machine) (rate : UInt32) (verbosity : Level)
    (requests : List Request) :
    let p := ofMachine m rate verbosity
    ((tones (p.callsOf requests)).getLastD false = true ↔
      ∃ i, (p.beeps requests)[i]? = some true ∧ (p.beeps requests).length ≤ i + 24) ∧
    (∀ keys, (Round.mk (p.serveAll requests) keys).Follows (p.beeps requests)) ∧
    ∀ before after, tones (p.callsOf requests) = before ++ false :: after →
      ∃ started between, before = started ++ true :: between ∧ false ∉ between := by
  intro p
  have h := InTune.serveAll (p := p) inTune_nil requests
  rw [List.nil_append, List.nil_append] at h
  refine ⟨?_, fun keys => Round.follows h.lasts, ?_⟩
  · rw [h.last, decide_eq_true_iff]
    exact h.lasts.pos_iff
  · intro before after hsplit
    obtain ⟨started, rfl⟩ := List.getLast?_eq_some_iff.1 (h.alternates before after hsplit)
    exact ⟨started, [], rfl, List.not_mem_nil⟩

/-- A program that sets the sound timer to one and then jumps to itself: its beep starts the tone in
the second frame, the tone is on behind this frame, and the last of twenty-six frames stops it. -/
theorem beep_fades_away :
    ∃ m, (Machine.start [0x60, 0x01, 0xF0, 0x18, 0x12, 0x04] {} .loaded).result = .ok m ∧
      let p := ofMachine m 60 .error
      let frames (n : Nat) : List Request := .replicate n (.frame .released)
      true ∈ tones (Round.mk (p.serveAll (frames 1)) .released).turn.calls ∧
      (tones (p.callsOf (frames 2))).getLastD false = true ∧
      tones (p.callsOf (frames 26)) = [true, false] ∧
      ∃ started between, [true] = started ++ true :: between ∧ false ∉ between := by
  obtain ⟨m, hm⟩ := Machine.exists_start
    (by decide : ([0x60, 0x01, 0xF0, 0x18, 0x12, 0x04] : List UInt8).length ≤ 3232) {} .loaded
  let p := ofMachine m 60 .error
  let frames (n : Nat) : List Request := .replicate n (.frame .released)
  obtain ⟨hbeep, hbeeps, htold⟩ : (Round.mk (p.serveAll (frames 1)) .released).beeps = true ∧
      p.beeps (frames 2) = [false, true] ∧ tones (p.callsOf (frames 26)) = [true, false] := by
    obtain ⟨-, rfl⟩ := Machine.start_eq_ok_iff.1 hm
    decide +kernel
  obtain ⟨-, hfollows, -⟩ := tone_follows_beeps m 60 .error (frames 1)
  obtain ⟨hwindow, -, -⟩ := tone_follows_beeps m 60 .error (frames 2)
  obtain ⟨-, -, hstops⟩ := tone_follows_beeps m 60 .error (frames 26)
  rw [hbeeps] at hwindow
  exact ⟨m, hm, (hfollows .released).starts.2 hbeep, hwindow.2 ⟨1, rfl, by decide⟩, htold,
    hstops [true] [] htold⟩

end Player

end Chip8
