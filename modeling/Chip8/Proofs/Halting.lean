import Chip8.Proofs.Integrity

/-!
# Halting is for good, except for key waits and resets

A step on which a machine ran into a fault leaves it halted, and a halted machine makes no steps. A
host can still have it carry out instructions of the host's own choice, and no check stands in the
way of these: they have their effect on a halted machine as on any other. One of them has an effect
on the status too. The key wait makes the machine wait for a key, or run again if a key is held,
without a look at what the status was, and so a machine that has halted makes steps again behind it.

* `Machine.ReachesKeyWait` — carrying out instructions in order comes as far as a key wait;
* `Executes.halted_iff`, `halted_executeAll_iff` — what instructions do to the status;
* `halted_for_good` — which commands leave a halted machine halted.
-/

namespace Chip8.Machine

/-- Carrying out instructions in order comes as far as a key wait. -/
inductive ReachesKeyWait : Machine → List Instruction → Prop
  /-- the key wait is the first of them -/
  | here {m : Machine} {x : UInt8} {rest : List Instruction} :
      ReachesKeyWait m (.awaitKey x :: rest)
  /-- it is behind the first of them, which is carried out -/
  | behind {m : Machine} {i : Instruction} {rest : List Instruction} {o : Outcome}
      (ho : (m.execute i).result = .ok o) (h : ReachesKeyWait (m.execute i).machine rest) :
      ReachesKeyWait m (i :: rest)

variable {m n : Machine} {i : Instruction} {is : List Instruction} {c : Command}

/-! ## Steps -/

/-- A halted machine makes no step. -/
theorem step_of_halted (hs : m.status = .halted) :
    m.step.result = .error (.fault .halted) ∧ m.step.machine = m := by
  rw [step, hs]
  exact ⟨rfl, rfl⟩

/-! ## Instructions -/

/-- No instruction halts a machine, and the key wait is the only one that a halted machine does not
stay halted behind. -/
theorem Executes.halted_iff {r : Except Failure Outcome} (he : m.Executes i r n) :
    n.status = .halted ↔ m.status = .halted ∧ ∀ x, i ≠ .awaitKey x := by
  cases he with
  | done hk ha hm =>
    obtain ⟨pc, rfl, -⟩ := pc_of_moveOn hm
    rw [← (flows ha).status]
    exact ⟨fun hs => ⟨hs, hk⟩, fun hs => hs.1⟩
  | refused hk ha => exact ⟨fun hs => ⟨hs, hk⟩, fun hs => hs.1⟩
  | overrun hk ha hm =>
    rw [(flows ha).status]
    exact ⟨fun hs => ⟨hs, hk⟩, fun hs => hs.1⟩
  | @waits x hi | @takes x _ _ hi | @stuck x _ _ hi =>
    exact ⟨nofun, fun hs => absurd hi (hs.2 x)⟩

/-- A machine that has not halted does not halt on instructions of the host's choice. -/
theorem not_halted_executeAll (hr : ∀ i ∈ is, ∀ x ∈ i.registers, x < 16)
    (hs : m.status ≠ .halted) : (m.executeAll is).machine.status ≠ .halted := by
  refine executeAll_induction (P := fun n => n.status ≠ .halted) hs ?_
  intro n i hi hn hk
  exact hn ((executes (hr i hi)).halted_iff.1 hk).1

/-- Instructions in order leave a halted machine halted exactly if they do not come as far as a key
wait. -/
theorem halted_executeAll_iff (hr : ∀ i ∈ is, ∀ x ∈ i.registers, x < 16)
    (hs : m.status = .halted) :
    (m.executeAll is).machine.status = .halted ↔ ¬m.ReachesKeyWait is := by
  induction is generalizing m with
  | nil => exact iff_of_true hs nofun
  | cons i rest ih =>
    have hi := executes (m := m) (hr i List.mem_cons_self)
    have hrest := fun j hj => hr j (List.mem_cons_of_mem i hj)
    by_cases hk : ∃ x, i = .awaitKey x
    · -- behind a key wait nothing in the rest of the list halts the machine again
      obtain ⟨x, rfl⟩ := hk
      have halive : (m.execute (.awaitKey x)).machine.status ≠ .halted :=
        fun h => (hi.halted_iff.1 h).2 x rfl
      refine iff_of_false ?_ (fun h => h .here)
      simp only [executeAll]
      split
      · exact halive
      · exact not_halted_executeAll hrest halive
    · have hdead : (m.execute i).machine.status = .halted :=
        hi.halted_iff.2 ⟨hs, fun x hx => hk ⟨x, hx⟩⟩
      -- any other instruction leaves it halted, and the list ends here or goes on
      simp only [executeAll]
      split
      · next e he =>
        refine iff_of_true hdead fun h => ?_
        cases h with
        | here => exact hk ⟨_, rfl⟩
        | behind ho h => cases he.symm.trans ho
      · next o ho =>
        rw [ih hrest hdead]
        refine not_congr ⟨.behind ho, fun h => ?_⟩
        cases h with
        | here => exact absurd ⟨_, rfl⟩ hk
        | behind _ h => exact h

/-- Carrying out an instruction is carrying out a list of one. -/
theorem machine_executeAll_singleton : (m.executeAll [i]).machine = (m.execute i).machine := by
  simp only [executeAll]
  split <;> rfl

/-! ## Commands -/

/-- A command that brings no instructions along leaves a halted machine halted, unless it starts the
machine anew. -/
theorem halted_of_obey (hs : m.status = .halted) (hreset : c ≠ .reset) (hi : c.instructions = []) :
    (m.obey c).machine.status = .halted := by
  have ho := m.obeys c
  generalize (m.obey c).machine = n at ho ⊢
  cases ho with
  | step =>
    rw [(step_of_halted hs).2]
    exact hs
  | execute => cases hi
  | executeAll =>
    cases hi
    exact hs
  | reset => exact absurd rfl hreset
  | markDrawn | restack => exact hs
  | keep hscreen hstatus hstack => exact hstatus.trans hs

/-- A command leaves a halted machine halted exactly if it neither starts the machine anew nor comes
as far as a key wait. -/
theorem halted_obey_iff (hc : c.InRange) (hs : m.status = .halted) :
    (m.obey c).machine.status = .halted ↔ c ≠ .reset ∧ ¬m.ReachesKeyWait c.instructions := by
  cases c
  case reset =>
    refine iff_of_false ?_ fun h => h.1 rfl
    rintro ⟨⟩
  case execute i =>
    rw [obey, machine_ofReport, ← machine_executeAll_singleton, and_iff_right (by rintro ⟨⟩)]
    exact halted_executeAll_iff hc hs
  case executeAll is =>
    rw [obey, machine_ofReport, and_iff_right (by rintro ⟨⟩)]
    exact halted_executeAll_iff hc hs
  -- what is left brings no instructions along
  all_goals
    refine iff_of_true (halted_of_obey hs ?_ rfl) ⟨?_, ?_⟩ <;> rintro ⟨⟩

/-- Instructions without a key wait among them do not come as far as one. -/
theorem ReachesKeyWait.exists_mem (h : m.ReachesKeyWait is) : ∃ x, .awaitKey x ∈ is := by
  induction h with
  | here => exact ⟨_, List.mem_cons_self⟩
  | behind ho h ih =>
    obtain ⟨x, hx⟩ := ih
    exact ⟨x, List.mem_cons_of_mem _ hx⟩

/-- **Halting is for good, except for key waits and resets.** A command whose registers exist leaves
a halted machine halted exactly if it neither starts the machine anew nor comes as far as a key
wait. So a halted machine stays halted under all commands apart from a reset that bring no key wait
along, and a step that follows says so and changes nothing. -/
theorem halted_for_good {m : Machine} (hs : m.status = .halted) :
    (∀ c : Command, c.InRange →
      ((m.obey c).machine.status = .halted ↔ c ≠ .reset ∧ ¬m.ReachesKeyWait c.instructions)) ∧
    ∀ commands : List Command,
      (∀ c ∈ commands, c.InRange ∧ c ≠ .reset ∧ ∀ x, .awaitKey x ∉ c.instructions) →
      let n := m.obeyAll commands
      n.status = .halted ∧ n.step.result = .error (.fault .halted) ∧ n.step.machine = n := by
  refine ⟨fun c hc => halted_obey_iff hc hs, ?_⟩
  intro commands hcommands
  suffices hn : (m.obeyAll commands).status = .halted from ⟨hn, step_of_halted hn⟩
  induction commands generalizing m with
  | nil => exact hs
  | cons c rest ih =>
    obtain ⟨hc, hreset, hwait⟩ := hcommands c List.mem_cons_self
    have hkeep : ¬m.ReachesKeyWait c.instructions := by
      intro h
      obtain ⟨x, hx⟩ := h.exists_mem
      exact hwait x hx
    exact ih ((halted_obey_iff hc hs).2 ⟨hreset, hkeep⟩)
      fun d hd => hcommands d (List.mem_cons_of_mem c hd)

/-- A machine without a program halts on its first step. -/
theorem status_step_boot : ((boot {} .loaded).obeyAll [.step]).status = .halted := by
  decide +kernel

/-- Behind that step the instructions of its host have no effect on the status, apart from the key
wait. -/
theorem empty_machine_stays_halted :
    let m := (boot {} .loaded).obeyAll [.step]
    m.status = .halted ∧
      (m.obeyAll [.execute .clearScreen, .press 5, .tick]).status = .halted ∧
      (m.obey (.execute (.awaitKey 3))).machine.status ≠ .halted := by
  intro m
  have hs : m.status = .halted := status_step_boot
  obtain ⟨hiff, hrun⟩ := halted_for_good hs
  refine ⟨hs, (hrun [.execute .clearScreen, .press 5, .tick] ?_).1, fun h => ?_⟩
  · rintro c (_ | ⟨_, _ | ⟨_, _ | ⟨_, ⟨⟩⟩⟩⟩)
    all_goals exact ⟨by decide, nofun, by simp [Command.instructions]⟩
  · exact ((hiff (.execute (.awaitKey 3)) (by decide)).1 h).2 .here

/-- **A key wait revives a halted machine**, although it is an instruction like any other. -/
theorem key_wait_revives :
    ¬∀ m, Reachable m → m.status = .halted → ∀ commands : List Command,
      (∀ c ∈ commands, c ≠ .reset ∧ ∀ i ∈ c.instructions, ∃ w, Instruction.decode w = .ok i) →
      (m.obeyAll commands).status = .halted := by
  intro h
  let m := (boot {} .loaded).obeyAll [.step]
  have hm : Reachable m := (Reachable.booted (.bare {} .loaded)).obeyAll _ (by decide)
  have hs : m.status = .halted := status_step_boot
  have hkept : (m.obeyAll [.execute (.awaitKey 3)]).status = .halted := by
    refine h m hm hs _ ?_
    rintro c (_ | ⟨_, ⟨⟩⟩)
    refine ⟨nofun, ?_⟩
    rintro i (_ | ⟨_, ⟨⟩⟩)
    exact ⟨0xF30A, rfl⟩
  rw [obeyAll_cons, obeyAll_nil] at hkept
  have hrange : (Command.execute (.awaitKey 3)).InRange := by decide
  exact ((halted_obey_iff hrange hs).1 hkept).2 .here

end Chip8.Machine
