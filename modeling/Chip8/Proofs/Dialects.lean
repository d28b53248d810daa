import Chip8.Proofs.Machine.Lockstep
import Chip8.Proofs.Machine.Sound

/-!
# What a dialect is about

Two dialects differ in two points, the register that a shift reads and whether storing and loading
registers moves the index. A program that does neither cannot tell in which dialect it runs, and not
even each shift gives it away: if its two registers hold the same value, it does not matter which of
them is read.

* `Machine.sameMeaning` — two dialects mean the same by an instruction;
* `Machine.Plain` — two dialects mean the same by what a step carries out;
* `lockstep_dialects` — as long as this is so, the same game goes on in both;
* `shift_after_copy` — a shift that reads its second register is a copy and a shift that reads its
  first;
* `dialect_is_unheard` — both together, for each program.
-/

namespace Chip8.Machine

/-- Two dialects mean the same by an instruction. -/
def sameMeaning (m : Machine) (d e : Dialect) : Instruction → Bool
  | .storeRegisters _ | .loadRegisters _ => d.transferMovesIndex == e.transferMovesIndex
  | .shiftRight x y | .shiftLeft x y => d.shiftReadsY == e.shiftReadsY || m.reg x == m.reg y
  | _ => true

/-- Two dialects mean the same by the instruction that the next step carries out, if it carries out
one. -/
def Plain (m : Machine) (d e : Dialect) : Prop :=
  ∀ i, m.step.result = .ok (.executed i) → m.sameMeaning d e i = true

/-- Whether a step is plain can be found out by making it. -/
instance (m : Machine) (d e : Dialect) : Decidable (m.Plain d e) :=
  match h : m.step.result with
  | .ok (.executed i) =>
    decidable_of_iff (m.sameMeaning d e i = true)
      ⟨fun hi j hj => by cases h.symm.trans hj; exact hi, fun hp => hp i h⟩
  | .ok .awaitingKey | .ok .breakpoint | .error _ => isTrue fun _ hj => nomatch h.symm.trans hj

/-- The machine in another dialect. -/
def speaking (m : Machine) (d : Dialect) : Machine := { m with dialect := d }

/-- The same game on a machine that speaks `d` and on one that speaks `e`. -/
structure Spoken (d e : Dialect) (m n : Machine) : Prop where
  /-- the dialect of the one -/
  dialect : m.dialect = d
  /-- all else is the same on the other -/
  eq : n = m.speaking e

variable {d e : Dialect} {m n : Machine} {i : Instruction}

/-! ## The same game in two dialects -/

theorem likeness_spoken (d e : Dialect) : Likeness (Spoken d e) where
  memory h := by rw [h.eq, speaking]
  pc h := by rw [h.eq, speaking]
  status h := by rw [h.eq, speaking]
  keypad h := by rw [h.eq, speaking]
  setCounter h pc := ⟨h.dialect, by rw [h.eq]; rfl⟩
  setStatus h status := ⟨h.dialect, by rw [h.eq]; rfl⟩
  setRegister h x value := ⟨h.dialect, by rw [h.eq]; rfl⟩

/-- A transfer moves the index alike in dialects that mean the same by it. -/
theorem spoken_moveIndex (h : Spoken d e m n) (ht : d.transferMovesIndex = e.transferMovesIndex)
    (count : Nat) : Spoken d e (m.moveIndex count) (n.moveIndex count) := by
  obtain ⟨rfl, rfl⟩ := h
  refine ⟨rfl, ?_⟩
  rw [moveIndex, moveIndex, speaking, ht]
  rfl

theorem spoken_setFirstRegs (h : Spoken d e m n) (values : List UInt8) :
    Spoken d e (m.setFirstRegs values) (n.setFirstRegs values) := by
  obtain ⟨rfl, rfl⟩ := h
  constructor <;> simp only [setFirstRegs, speaking]

/-- A shift reads the same value in dialects that mean the same by it. -/
theorem shiftSource_of_spoken {x y : UInt8} (h : Spoken d e m n)
    (hs : (d.shiftReadsY == e.shiftReadsY || m.reg x == m.reg y) = true) :
    n.shiftSource x y = m.shiftSource x y := by
  obtain ⟨rfl, rfl⟩ := h
  have hreg (z : UInt8) : (m.speaking e).reg z = m.reg z := rfl
  rw [shiftSource, shiftSource, hreg, hreg, speaking]
  rcases Bool.or_eq_true_iff.1 hs with hd | hv
  · rw [eq_of_beq hd]
  · rw [eq_of_beq hv, ite_self, ite_self]

/-- **An effect** is the same in dialects that mean the same by the instruction. It does not matter
what they mean if there is no effect. -/
theorem apply_spoken (h : Spoken d e m n)
    (hi : ∀ k, m.apply i = .ok k → m.sameMeaning d e i = true) :
    Paired (Spoken d e) (m.apply i) (n.apply i) := by
  have hR := likeness_spoken d e
  cases i
  case shiftRight x y =>
    have hn := shiftSource_of_spoken h (hi _ rfl)
    obtain ⟨hd, rfl⟩ := h
    simp only [apply, hn]
    exact .done ⟨hd, rfl⟩
  case shiftLeft x y =>
    have hn := shiftSource_of_spoken h (hi _ rfl)
    obtain ⟨hd, rfl⟩ := h
    simp only [apply, hn]
    exact .done ⟨hd, rfl⟩
  case storeRegisters x =>
    obtain ⟨hd, rfl⟩ := h
    refine paired_map _ fun memory hs => ?_
    have hmemory : Spoken d e { m with memory } { m.speaking e with memory } := ⟨hd, rfl⟩
    exact spoken_moveIndex hmemory (eq_of_beq (hi _ (map_eq_ok_iff.2 ⟨memory, hs, rfl⟩))) _
  case loadRegisters x =>
    have hregs := spoken_setFirstRegs h
    obtain ⟨hd, rfl⟩ := h
    refine paired_map _ fun values hs => ?_
    exact spoken_moveIndex (hregs values) (eq_of_beq (hi _ (map_eq_ok_iff.2 ⟨values, hs, rfl⟩))) _
  case skipEqConst | skipNeConst | skipEqReg | skipNeReg | skipHeld | skipFree =>
    have hskip := hR.skipIf h
    obtain ⟨hd, rfl⟩ := h
    exact hskip _
  case leave =>
    obtain ⟨hd, rfl⟩ := h
    show Paired _ ((m.stack.pop m.pc).bind _) ((m.stack.pop m.pc).bind _)
    rcases m.stack.pop m.pc with f | ⟨site, stack⟩
    · exact .fail f
    · exact paired_map (site.ahead 2) fun _ _ => ⟨hd, rfl⟩
  case call | jumpOffset | draw | storeDecimal =>
    obtain ⟨hd, rfl⟩ := h
    exact paired_map _ fun _ _ => ⟨hd, rfl⟩
  all_goals
    obtain ⟨hd, rfl⟩ := h
    exact .done ⟨hd, rfl⟩

/-- **The same game in two dialects** goes on alike as long as they mean the same by each
instruction that has its effect. -/
theorem lockstep_dialects (d e : Dialect) :
    Lockstep (fun m i => ∀ k, m.apply i = .ok k → m.sameMeaning d e i = true) (Spoken d e) where
  toLikeness := likeness_spoken d e
  apply h _ hi := apply_spoken h hi
  host h a ha := by
    obtain ⟨hd, rfl⟩ := h
    cases a with
    | step => exact absurd rfl ha
    | tick | press key | release key | setKeypad keypad | markDrawn => exact ⟨hd, rfl⟩

/-! ## Shifts -/

/-- Both shifts set their first register, and then the flag, by what they read. -/
theorem exists_apply_shift {x y : UInt8} (hi : i = .shiftRight x y ∨ i = .shiftLeft x y) :
    ∃ (f : UInt8 → UInt8) (t : UInt8 → Bool), ∀ m : Machine, m.apply i =
      .ok ((m.setRegister x (f (m.shiftSource x y))).setFlag (t (m.shiftSource x y))) := by
  rcases hi with rfl | rfl
  · exact ⟨(· >>> 1), (· &&& 1 == 1), fun _ => rfl⟩
  · exact ⟨(· <<< 1), (· >>> 7 == 1), fun _ => rfl⟩

/-- **A shift that reads its second register** leaves what a copy of that register into the first
and a shift that reads the first leave, but for the way to the next word. -/
theorem shift_after_copy (m : Machine) {x y : UInt8} (hx : x < 16) (hy : y < 16)
    (hi : i = .shiftRight x y ∨ i = .shiftLeft x y) (hd : d.shiftReadsY = true)
    (he : e.shiftReadsY = false) :
    let direct := (m.speaking d).execute i
    let copied := (m.speaking e).execute (.copy x y)
    let shifted := copied.machine.execute i
    direct.machine = { shifted.machine.speaking d with pc := direct.machine.pc } ∧
      (m.pc.toNat + 4 < 0x10000 → direct.result = .ok (.executed i) ∧
        copied.result = .ok (.executed (.copy x y)) ∧ shifted.result = .ok (.executed i)) := by
  intro direct copied shifted
  obtain ⟨f, t, hshift⟩ := exists_apply_shift hi
  have hr : ∀ z ∈ i.registers, z < 16 := by
    rcases hi with rfl | rfl <;> simp [Instruction.registers, hx, hy]
  have hk : ∀ z, i ≠ .awaitKey z := by rcases hi with rfl | rfl <;> rintro z ⟨⟩
  have hcf : i.isControlFlow = false := by rcases hi with rfl | rfl <;> rfl
  have ho : i.outcome = .executed i := by rcases hi with rfl | rfl <;> rfl
  -- each of the three has its effect, on a machine that is known up to its program counter
  obtain ⟨p, hcopied, hcopy⟩ : ∃ p, copied.machine =
      { (m.speaking e).setRegister x (m.reg y) with pc := p } ∧ _ :=
    exists_execute (by simp [Instruction.registers, hx, hy]) (by rintro z ⟨⟩) rfl rfl
  obtain ⟨q, hdirect, hone⟩ : ∃ q, direct.machine = _ ∧ _ := exists_execute hr hk hcf (hshift _)
  obtain ⟨r, hshifted, htwo⟩ : ∃ r, shifted.machine = _ ∧ _ := exists_execute hr hk hcf (hshift _)
  have hreads : copied.machine.shiftSource x y = m.reg y := by
    rw [hcopied]
    exact (if_neg (Bool.eq_false_iff.1 he)).trans (reg_setRegister m hx _)
  have hreads' : (m.speaking d).shiftSource x y = m.reg y := if_pos hd
  rw [hreads] at hshifted htwo
  rw [hreads'] at hdirect hone
  refine ⟨?_, fun hpc => ?_⟩
  · rw [hdirect, hshifted, hcopied]
    have hset := setRegister_setRegister m x (m.reg y) (f (m.reg y))
    exact congrArg (fun k : Machine => { (k.setFlag (t (m.reg y))).speaking d with pc := q })
      hset.symm
  · have hm : m.pc.toNat + 2 < 0x10000 := by omega
    obtain ⟨hcopy, hp⟩ := hcopy hm
    have hc : copied.machine.pc.toNat + 2 < 0x10000 := by
      have hsum : p.toNat = m.pc.toNat + 2 := hp
      rw [hcopied]
      show p.toNat + 2 < 0x10000
      omega
    rw [← ho]
    exact ⟨(hone hm).1, hcopy, (htwo hc).1⟩

/-! ## Programs -/

/-- The instruction that is due on a sound machine is carried out if it has its effect. -/
theorem Sound.step_of_apply (h : m.Sound) (hd : m.due = .ok i) (hk : ∀ x, i ≠ .awaitKey x)
    (ha : m.apply i = .ok n) : m.step.result = .ok i.outcome := by
  rcases hm : n.moveOn i with f | k
  · obtain ⟨-, rfl⟩ := breach_of_moveOn hm
    exact absurd (.overrun hk ha hm) (h.not_breach (h.current_of_due hd))
  · exact (step_of_executes h.awaits_lt hd (.done hk ha hm)).1

/-- Two dialects mean the same by the instruction that is due if the step is plain. -/
theorem Plain.sameMeaning (hp : m.Plain d e) (h : m.Sound) (hd : m.due = .ok i)
    (ha : m.apply i = .ok n) : m.sameMeaning d e i = true := by
  by_cases hk : ∃ x, i = .awaitKey x
  · obtain ⟨x, rfl⟩ := hk
    rfl
  · by_cases hb : i = .breakpoint
    · rw [hb]
      rfl
    · have hr := h.step_of_apply hd (fun x hx => hk ⟨x, hx⟩) ha
      rw [Instruction.outcome, if_neg hb] at hr
      exact hp i hr

/-- **A dialect is heard only in the instructions that it is about.** Start a program in two
dialects, and take any course in which both mean the same by each instruction that is carried out:
the steps have the same outcomes, and the machines behind them differ in nothing but the dialect.
And whatever a machine is like, a shift that reads its second register leaves what a copy and a
shift that reads the first leave, but for the program counter. -/
theorem dialect_is_unheard :
    (∀ (program : List UInt8), program.length ≤ 3232 → ∀ (d e : Dialect) (dice : Dice),
      ∃ m₀ n₀, (start program d dice).result = .ok m₀ ∧ (start program e dice).result = .ok n₀ ∧
        ∀ actions, (∀ m ∈ m₀.asked actions, m.Plain d e) →
          n₀.outcomes actions = m₀.outcomes actions ∧
            n₀.play actions = (m₀.play actions).speaking e) ∧
    ∀ (m : Machine) (x y : UInt8), x < 16 → y < 16 →
      ∀ i : Instruction, i = .shiftRight x y ∨ i = .shiftLeft x y →
      ∀ d e : Dialect, d.shiftReadsY = true → e.shiftReadsY = false →
        let direct := (m.speaking d).execute i
        let copied := (m.speaking e).execute (.copy x y)
        let shifted := copied.machine.execute i
        direct.machine = { shifted.machine.speaking d with pc := direct.machine.pc } ∧
          (m.pc.toNat + 4 < 0x10000 → direct.result = .ok (.executed i) ∧
            copied.result = .ok (.executed (.copy x y)) ∧
            shifted.result = .ok (.executed i)) := by
  refine ⟨?_, fun m x y hx hy i hi d e hd he => shift_after_copy m hx hy hi hd he⟩
  intro program hp d e dice
  obtain ⟨m₀, hm₀⟩ := exists_start hp d dice
  have hspoken : Spoken d e m₀ (m₀.speaking e) := by
    obtain ⟨-, rfl⟩ := start_eq_ok_iff.1 hm₀
    exact ⟨rfl, rfl⟩
  have hn₀ : (start program e dice).result = .ok (m₀.speaking e) := by
    obtain ⟨-, rfl⟩ := start_eq_ok_iff.1 hm₀
    exact start_eq_ok_iff.2 ⟨hp, rfl⟩
  refine ⟨m₀, m₀.speaking e, hm₀, hn₀, fun actions hplain => ?_⟩
  have hmeaning : ∀ k ∈ m₀.asked actions, ∀ i, k.due = .ok i →
      ∀ n, k.apply i = .ok n → k.sameMeaning d e i = true := by
    intro k hk i hd n ha
    exact (hplain k hk).sameMeaning ((sound_start hm₀).of_mem_asked hk) hd ha
  obtain ⟨hresults, hend⟩ := (lockstep_dialects d e).play hspoken actions hmeaning
  exact ⟨hresults, hend.eq⟩

/-- A program that shifts a register by another that holds the same value, in dialects that differ
in both points. -/
theorem equal_registers_shift_alike :
    ∃ m₀ n₀, (start [0x61, 0x05, 0x62, 0x05, 0x81, 0x26] ⟨false, true⟩ .loaded).result = .ok m₀ ∧
      (start [0x61, 0x05, 0x62, 0x05, 0x81, 0x26] ⟨true, false⟩ .loaded).result = .ok n₀ ∧
      let actions : List Action := [.step, .tick, .step, .step]
      (m₀.outcomes actions).map Except.toOption =
        [some (.executed (.setConst 1 5)), some (.executed (.setConst 2 5)),
          some (.executed (.shiftRight 1 2))] ∧
      n₀.outcomes actions = m₀.outcomes actions ∧
      n₀.play actions = (m₀.play actions).speaking ⟨true, false⟩ := by
  obtain ⟨hprograms, -⟩ := dialect_is_unheard
  obtain ⟨m₀, n₀, hm₀, hn₀, h⟩ := hprograms [0x61, 0x05, 0x62, 0x05, 0x81, 0x26] (by decide)
    ⟨false, true⟩ ⟨true, false⟩ .loaded
  refine ⟨m₀, n₀, hm₀, hn₀, ?_⟩
  intro actions
  obtain ⟨hshift, hplain⟩ : (m₀.outcomes actions).map Except.toOption =
      [some (.executed (.setConst 1 5)), some (.executed (.setConst 2 5)),
        some (.executed (.shiftRight 1 2))] ∧
      ∀ m ∈ m₀.asked actions, m.Plain ⟨false, true⟩ ⟨true, false⟩ := by
    obtain ⟨-, rfl⟩ := start_eq_ok_iff.1 hm₀
    decide +kernel
  exact ⟨hshift, h actions hplain⟩

end Chip8.Machine
