import Chip8.Proofs.Machine.Step
import Chip8.Proofs.Play

/-!
# Two machines in lockstep

To compare two courses of a game it is enough to look at single effects. If two machines agree on
what is next and each effect has the same outcome on both and leaves them alike, then so does each
instruction, each step and each course. Being alike is a relation that the comparison is free to
choose (`Machine.Likeness`), and so are the instructions on which it relies (`Machine.Lockstep`).

* `Paired`, `Report.Paired` — the same failure, or two machines that are alike;
* `Likeness.skipIf`, `Likeness.moveOn`, `Likeness.poll` — what all instructions have in common;
* `Lockstep.execute`, `Lockstep.step` — one instruction and one step on both machines;
* `Lockstep.play` — one game on both machines.
-/

namespace Chip8

/-- Two reports are paired: they differ in nothing but their machines, and these are alike. -/
inductive Report.Paired {α : Type} (R : Machine → Machine → Prop) : Report α → Report α → Prop
  /-- the same result and the same events -/
  | mk {m n : Machine} (h : R m n) (result : Except Failure α) (log : List Event) :
      Report.Paired R ⟨result, m, log⟩ ⟨result, n, log⟩

namespace Machine

/-- Two results of an effect are paired. -/
inductive Paired (R : Machine → Machine → Prop) :
    Except Failure Machine → Except Failure Machine → Prop
  /-- there is the same failure on both sides -/
  | fail (e : Failure) : Paired R (.error e) (.error e)
  /-- there is a machine on both sides, and the two are alike -/
  | done {m n : Machine} (h : R m n) : Paired R (.ok m) (.ok n)

/-- A relation under which two machines are asked for the same instruction with the same keys held,
and which does not notice when the same is written to both. -/
structure Likeness (R : Machine → Machine → Prop) : Prop where
  /-- the same bytes are in memory -/
  memory : ∀ {m n}, R m n → n.memory = m.memory
  /-- the same instruction is next -/
  pc : ∀ {m n}, R m n → n.pc = m.pc
  /-- they do the same when asked for a step -/
  status : ∀ {m n}, R m n → n.status = m.status
  /-- the same keys are held -/
  keypad : ∀ {m n}, R m n → n.keypad = m.keypad
  /-- both program counters are placed -/
  setCounter : ∀ {m n}, R m n → ∀ pc, R { m with pc } { n with pc }
  /-- both statuses change -/
  setStatus : ∀ {m n}, R m n → ∀ status, R { m with status } { n with status }
  /-- the same register of both is set -/
  setRegister : ∀ {m n}, R m n → ∀ x value, R (m.setRegister x value) (n.setRegister x value)

/-- A likeness that each effect keeps, as long as the effect is one that `P` allows. -/
structure Lockstep (P : Machine → Instruction → Prop) (R : Machine → Machine → Prop) : Prop
    extends Likeness R where
  /-- an effect is paired with itself -/
  apply : ∀ {m n i}, R m n → (∀ x ∈ i.registers, x < 16) → P m i → Paired R (m.apply i) (n.apply i)
  /-- all that a host does apart from asking for steps keeps the likeness -/
  host : ∀ {m n}, R m n → ∀ a, a ≠ .step → R (m.act a).machine (n.act a).machine

variable {P : Machine → Instruction → Prop} {R : Machine → Machine → Prop} {m n : Machine}
  {i : Instruction}

theorem Paired.of_ok {r : Except Failure Machine} (h : Paired R (.ok m) r) :
    ∃ n, r = .ok n ∧ R m n := by
  cases h with
  | done h => exact ⟨_, rfl, h⟩

theorem Paired.of_error {e : Failure} {r : Except Failure Machine} (h : Paired R (.error e) r) :
    r = .error e := by
  cases h
  rfl

/-- What is made of the same result is paired if it is alike whenever it is made. -/
theorem paired_map {α : Type} (r : Except Failure α) {f g : α → Machine}
    (h : ∀ a, r = .ok a → R (f a) (g a)) : Paired R (r.map f) (r.map g) := by
  rcases r with e | a
  · exact .fail e
  · exact .done (h a rfl)

namespace Likeness

variable (hR : Likeness R)
include hR

/-! ## What instructions have in common -/

theorem advance (h : R m n) : Paired R m.advance n.advance := by
  rw [Machine.advance, Machine.advance, hR.pc h]
  exact paired_map _ fun pc _ => hR.setCounter h pc

theorem skipIf (h : R m n) (condition : Bool) :
    Paired R (m.skipIf condition) (n.skipIf condition) := by
  cases condition
  · exact .done h
  · exact hR.advance h

theorem moveOn (h : R m n) (i : Instruction) : Paired R (m.moveOn i) (n.moveOn i) := by
  rw [Machine.moveOn, Machine.moveOn]
  cases i.isControlFlow
  · exact hR.advance h
  · exact .done h

/-- Both find the same key, or none. -/
theorem poll (h : R m n) (x : UInt8) (log : List Event) :
    Report.Paired R (m.run (Exec.poll x) log) (n.run (Exec.poll x) log) := by
  simp only [run, Exec.poll, EStateM.run_bind, EStateM.run_get, hR.keypad h]
  rcases m.keypad.lowest? with _ | key
  · exact .mk h _ _
  · by_cases hx : x < 16
    · simp only [EStateM.run_bind, Exec.run_setReg _ hx, Exec.run_advance, Machine.advance,
        pc_setRegister, hR.pc h]
      have hset := hR.setRegister h x key
      rcases m.pc.ahead 2 with e | pc
      · exact .mk hset _ _
      · exact .mk (hR.setStatus (hR.setCounter hset pc) .running) _ _
    · -- a register that does not exist cannot be set
      have hx' : ¬x.toNat < 16 := hx
      simp only [EStateM.run_bind, Exec.setReg, EStateM.run_get, dif_neg hx']
      exact .mk h _ _

/-- Both halt, or neither does. -/
theorem settle {a b : Report Outcome} (h : a.Paired R b) :
    (settle a).Paired R (settle b) := by
  obtain @⟨m, n, h, result, log⟩ := h
  rcases result with (f | b) | o
  · have hlog : log ++ [.halting n.pc f] = log ++ [.halting m.pc f] := by rw [hR.pc h]
    simp only [Machine.settle, hlog]
    exact .mk (hR.setStatus h .halted) _ _
  · exact .mk h _ _
  · exact .mk h _ _

end Likeness

namespace Lockstep

variable (hR : Lockstep P R)
include hR

/-! ## One instruction -/

/-- **An instruction** that goes one of its ways on one machine goes the same way on the other. -/
theorem executes {r : Except Failure Outcome} {m' : Machine} (h : R m n)
    (hr : ∀ x ∈ i.registers, x < 16) (hP : P m i) (he : m.Executes i r m') :
    ∃ n', n.Executes i r n' ∧ R m' n' := by
  have ha := hR.apply h hr hP
  have hl := hR.keypad h
  have hpc := hR.pc h
  cases he with
  | @done m₁ _ hk hm₁ hm =>
    rw [hm₁] at ha
    obtain ⟨n₁, hn₁, h₁⟩ := ha.of_ok
    have hmove := hR.moveOn h₁ i
    rw [hm] at hmove
    obtain ⟨n₂, hn, h₂⟩ := hmove.of_ok
    exact ⟨n₂, .done hk hn₁ hn, h₂⟩
  | refused hk hm₁ =>
    rw [hm₁] at ha
    exact ⟨n, .refused hk ha.of_error, h⟩
  | @overrun m₁ _ hk hm₁ hm =>
    rw [hm₁] at ha
    obtain ⟨n₁, hn₁, h₁⟩ := ha.of_ok
    have hmove := hR.moveOn h₁ i
    rw [hm] at hmove
    exact ⟨n₁, .overrun hk hn₁ hmove.of_error, h₁⟩
  | waits hi hm => exact ⟨_, .waits hi (hl ▸ hm), hR.setStatus h _⟩
  | @takes x key pc hi hm hp =>
    exact ⟨_, .takes hi (hl ▸ hm) (hpc ▸ hp),
      hR.setStatus (hR.setCounter (hR.setRegister h x key) pc) .running⟩
  | @stuck x key _ hi hm hp =>
    exact ⟨_, .stuck hi (hl ▸ hm) (hpc ▸ hp), hR.setStatus (hR.setRegister h x key) _⟩

theorem execute (h : R m n) (hr : ∀ x ∈ i.registers, x < 16) (hP : P m i) :
    (m.execute i).Paired R (n.execute i) := by
  obtain ⟨n', he, h'⟩ := hR.executes h hr hP (Machine.executes hr)
  obtain ⟨hresult, hmachine⟩ := he.unique (Machine.executes hr)
  have hlog : (n.execute i).log = (m.execute i).log := by
    rw [log_execute, log_execute, hR.pc h]
  generalize m.execute i = a at *
  generalize n.execute i = b at *
  obtain ⟨result, m', log⟩ := a
  obtain ⟨result', _, log'⟩ := b
  cases hresult
  cases hmachine
  cases hlog
  exact .mk h' _ _

/-! ## One step, and a game -/

/-- **A step.** -/
theorem step (h : R m n) (hP : ∀ i, m.due = .ok i → P m i) : m.step.Paired R n.step := by
  rw [Machine.step, Machine.step, hR.status h]
  rcases hs : m.status with - | x | -
  · refine hR.settle ?_
    rw [cycle, cycle, hR.memory h, hR.pc h]
    rcases hw : m.memory.fetch m.pc with f | w
    · exact .mk h _ _
    · simp only
      rcases hi : Instruction.decode w with f | i
      · exact .mk h _ _
      · have hdue : m.due = .ok i := by
          rw [due, hs]
          exact bind_eq_ok_iff.2 ⟨w, hw, hi⟩
        have he := hR.execute h (Instruction.inRange_of_decode hi).1 (hP i hdue)
        simp only
        generalize m.execute i = a at *
        generalize n.execute i = b at *
        obtain ⟨h', result, log⟩ := he
        exact .mk h' _ _
  · exact hR.settle (hR.poll h x [])
  · exact .mk h _ _

/-- **A game** has the same course on both machines. -/
theorem play (h : R m n) (actions : List Action)
    (hP : ∀ k ∈ m.asked actions, ∀ i, k.due = .ok i → P k i) :
    n.outcomes actions = m.outcomes actions ∧ R (m.play actions) (n.play actions) := by
  induction actions generalizing m n with
  | nil => exact ⟨rfl, h⟩
  | cons a rest ih =>
    by_cases ha : a = .step
    · subst ha
      rw [asked_step] at hP
      have hs := hR.step h (hP m List.mem_cons_self)
      have hlater := fun k hk => hP k (List.mem_cons_of_mem m hk)
      simp only [outcomes, asked_step, List.map_cons, play_cons, machine_act_step]
      generalize m.step = s at *
      generalize n.step = t at *
      obtain ⟨h', result, log⟩ := hs
      obtain ⟨hresults, hend⟩ := ih h' hlater
      exact ⟨congrArg (List.cons result) hresults, hend⟩
    · rw [asked_of_ne ha] at hP
      simp only [outcomes, asked_of_ne ha, play_cons]
      exact ih (hR.host h a ha) hP

end Lockstep

end Machine

end Chip8
