import Chip8.Proofs.Halting
import Chip8.Proofs.Machine.Sound

/-!
# What the journal is told of a game

A step that decodes a word tells the journal so; if the word is a breakpoint it tells that too, and
if the step fails it tells that the machine halts, and where. A machine that waits for a key or has
halted tells nothing, and neither does the host. As only one step of a game can halt the machine,
the journal knows at most once of it, and it knows nothing else afterwards.

* `Machine.journal` — what the journal is told in the course of a game;
* `Machine.Tells`, `Sound.tells` — what it is told of one step;
* `Sound.halts_step`, `Sound.halts_play` — it is told of each halt, and of nothing that is none;
* `exists_halting` — where the machine halts;
* `journal_is_faithful` — all of this for each program.
-/

namespace Chip8.Machine

/-- What the journal is told in the course of a game, in order. -/
def journal (m : Machine) : List Action → List Event
  | [] => []
  | a :: rest => (m.act a).log ++ (m.act a).machine.journal rest

/-- What a step tells the journal, and what comes of the step. -/
inductive Tells (m : Machine) : Except Failure Outcome → List Event → Prop
  /-- the machine has halted before -/
  | halted (hs : m.status = .halted) : Tells m (.error (.fault .halted)) []
  /-- the machine looks for a key -/
  | waits {x : UInt8} {o : Outcome} (hs : m.status = .awaitingKey x) (ho : o ≠ .breakpoint) :
      Tells m (.ok o) []
  /-- there is no word to be fetched, or it is no instruction -/
  | undecoded {f : Fault} (hs : m.status = .running) (hi : m.current = .error f) :
      Tells m (.error (.fault f)) [.halting m.pc f]
  /-- the instruction is at fault -/
  | faulted {w : Word} {i : Instruction} {f : Fault} (hs : m.status = .running)
      (hw : m.memory.fetch m.pc = .ok w) (hi : m.current = .ok i) :
      Tells m (.error (.fault f)) [.decoded m.pc w i, .halting m.pc f]
  /-- the instruction is a breakpoint -/
  | pauses {w : Word} (hs : m.status = .running) (hw : m.memory.fetch m.pc = .ok w)
      (hi : m.current = .ok .breakpoint) :
      Tells m (.ok .breakpoint) [.decoded m.pc w .breakpoint, .breakpoint m.pc]
  /-- the instruction is another one, and is carried out -/
  | carried {w : Word} {i : Instruction} {o : Outcome} (hs : m.status = .running)
      (hw : m.memory.fetch m.pc = .ok w) (hi : m.current = .ok i) (ho : o ≠ .breakpoint) :
      Tells m (.ok o) [.decoded m.pc w i]

variable {m n : Machine} {i : Instruction} {actions : List Action}

/-! ## One step -/

/-- The breakpoint is the only instruction that asks for a pause. -/
theorem Executes.eq_breakpoint_iff {o : Outcome} (he : m.Executes i (.ok o) n) :
    o = .breakpoint ↔ i = .breakpoint := by
  cases he with
  | done hk ha hm =>
    rw [Instruction.outcome]
    split
    · next hi => exact iff_of_true rfl hi
    · next hi => exact iff_of_false nofun hi
  | waits hi | takes hi =>
    subst hi
    exact iff_of_false nofun nofun

/-- A breakpoint is never at fault. -/
theorem Executes.ne_breakpoint {f : Fault} (he : m.Executes i (.error (.fault f)) n) :
    i ≠ .breakpoint := by
  rintro rfl
  cases he with
  | refused hk ha => cases ha
  | overrun hk ha hm => cases (breach_of_moveOn hm).2
  | stuck hi => cases hi

/-- Looking for a key is never at fault. -/
theorem Executes.ne_awaitKey {f : Fault} (he : m.Executes i (.error (.fault f)) n) (x : UInt8) :
    i ≠ .awaitKey x := by
  cases he with
  | refused hk | overrun hk => exact hk x
  | stuck hi hl hp => exact absurd hp Addr.ahead_ne_fault

/-- A cycle without an instruction fails before the journal is told anything. -/
theorem cycle_of_current_error {f : Fault} (hi : m.current = .error f) :
    m.cycle = ⟨.error (.fault f), m, []⟩ := by
  rcases bind_eq_error_iff.1 hi with hw | ⟨w, hw, hd⟩
  · simp only [cycle, hw]
  · simp only [cycle, hw, hd]

/-- A cycle carries out the instruction at the program counter behind telling that it was
decoded. -/
theorem exists_cycle_of_current (hi : m.current = .ok i) :
    ∃ w, m.memory.fetch m.pc = .ok w ∧
      m.cycle = { m.execute i with log := .decoded m.pc w i :: (m.execute i).log } := by
  obtain ⟨w, hw, hd⟩ := bind_eq_ok_iff.1 hi
  exact ⟨w, hw, by simp only [cycle, hw, hd]⟩

/-- To carry out the instruction at the program counter goes one of the ways of `Executes`, and the
journal is told of breakpoints. -/
theorem exists_execute_of_current (hi : m.current = .ok i) :
    ∃ r n, m.Executes i r n ∧
      m.execute i = ⟨r, n, if i = .breakpoint then [.breakpoint m.pc] else []⟩ :=
  ⟨_, _, executes (inRange_of_current hi).1, by rw [← log_execute]⟩

theorem Sound.tells_of_running (h : m.Sound) (hs : m.status = .running) :
    m.Tells m.step.result m.step.log := by
  have hstep : m.step = settle m.cycle := by rw [Machine.step, hs]
  rw [hstep]
  rcases hi : m.current with f | i
  · rw [cycle_of_current_error hi]
    exact .undecoded hs hi
  · obtain ⟨w, hw, hcycle⟩ := exists_cycle_of_current hi
    obtain ⟨r, n, he, hexecute⟩ := exists_execute_of_current hi
    rw [hcycle, hexecute]
    rcases r with (f | b) | o
    · obtain rfl : n = m := he.eq_of_fault
      simp only [settle, if_neg he.ne_breakpoint]
      exact .faulted hs hw hi
    · exact absurd he (h.not_breach hi)
    · simp only [settle]
      by_cases hb : i = .breakpoint
      · subst hb
        obtain rfl : o = .breakpoint := he.eq_breakpoint_iff.2 rfl
        exact .pauses hs hw hi
      · rw [if_neg hb]
        exact .carried hs hw hi (mt he.eq_breakpoint_iff.1 hb)

theorem Sound.tells_of_awaiting {x : UInt8} (h : m.Sound) (hs : m.status = .awaitingKey x) :
    m.Tells m.step.result m.step.log := by
  have hstep : m.step = settle (m.execute (.awaitKey x)) := by
    rw [Machine.step, hs, ← run_poll hs]
  have hi := h.awaits x hs
  obtain ⟨r, n, he, hexecute⟩ := exists_execute_of_current hi
  rw [hstep, hexecute]
  rcases r with (f | b) | o
  · exact absurd rfl (he.ne_awaitKey x)
  · exact absurd he (h.not_breach hi)
  · exact .waits hs (mt he.eq_breakpoint_iff.1 (by rintro ⟨⟩))

/-- **A step of a sound machine** tells the journal what comes of it. -/
theorem Sound.tells (h : m.Sound) : m.Tells m.step.result m.step.log := by
  rcases hs : m.status with - | x | -
  · exact h.tells_of_running hs
  · exact h.tells_of_awaiting hs
  · rw [Machine.step, hs]
    exact .halted hs

/-- A machine that does not run tells nothing. -/
theorem Tells.eq_nil {r : Except Failure Outcome} {log : List Event} (ht : m.Tells r log)
    (hs : m.status ≠ .running) : log = [] := by
  cases ht with
  | halted | waits => rfl
  | undecoded h | faulted h | pauses h | carried h => exact absurd h hs

/-- The steps that leave a sound machine halted are those that fail. -/
theorem Sound.halted_step_iff (h : m.Sound) :
    m.step.machine.status = .halted ↔ ∃ e, m.step.result = .error e := by
  constructor
  · intro hn
    have hs := steps h.awaits_lt
    generalize m.step.result = r at hs
    generalize m.step.machine = n at hs hn
    cases hs with
    | idle | faulted | breached => exact ⟨_, rfl⟩
    | carried hd he =>
      rw [due, (he.halted_iff.1 hn).1] at hd
      cases hd
  · rintro ⟨e, he⟩
    rw [h.eq_of_error he]

/-! ## The journal of a game -/

/-- Apart from steps, nothing a host does is told. -/
theorem log_act_of_ne {a : Action} (ha : a ≠ .step) : (m.act a).log = [] := by
  cases a with
  | step => exact absurd rfl ha
  | tick | press key | release key | setKeypad keypad | markDrawn => rfl

theorem log_act_step : (m.act .step).log = m.step.log := by
  rw [act, Action.command, obey, log_ofReport]

/-- Apart from steps, nothing a host does changes the status. -/
theorem status_act_of_ne {a : Action} (ha : a ≠ .step) : (m.act a).machine.status = m.status := by
  cases a with
  | step => exact absurd rfl ha
  | tick | press key | release key | setKeypad keypad | markDrawn => rfl

/-- The journal is told what the steps tell it. -/
theorem journal_eq (m : Machine) (actions : List Action) :
    m.journal actions = (m.asked actions).flatMap (·.step.log) := by
  induction actions generalizing m with
  | nil => rfl
  | cons a rest ih =>
    rw [journal, ih]
    by_cases ha : a = .step
    · subst ha
      rw [log_act_step, machine_act_step, asked_step, List.flatMap_cons]
    · rw [log_act_of_ne ha, asked_of_ne ha]
      rfl

/-- Events of which a step tells at most one can be counted by counting steps. -/
theorem countP_journal {p : Event → Bool} {q : Machine → Bool}
    (h : ∀ k ∈ m.asked actions, k.step.log.countP p = if q k then 1 else 0) :
    (m.journal actions).countP p = (m.asked actions).countP q := by
  rw [journal_eq]
  generalize m.asked actions = ks at h
  induction ks with
  | nil => rfl
  | cons k rest ih =>
    rw [List.flatMap_cons, List.countP_append, h k List.mem_cons_self, List.countP_cons,
      ih fun k hk => h k (List.mem_cons_of_mem _ hk), Nat.add_comm]

/-! ## Halting -/

/-- Nothing becomes of a machine that has halted. -/
theorem halted_act (hs : m.status = .halted) (a : Action) :
    (m.act a).machine.status = .halted ∧ (m.act a).log = [] := by
  by_cases ha : a = .step
  · subst ha
    rw [machine_act_step, log_act_step, Machine.step, hs]
    exact ⟨hs, rfl⟩
  · exact ⟨(status_act_of_ne ha).trans hs, log_act_of_ne ha⟩

/-- Behind a halt the journal is told nothing. -/
theorem journal_of_halted (hs : m.status = .halted) (actions : List Action) :
    m.journal actions = [] := by
  induction actions generalizing m with
  | nil => rfl
  | cons a rest ih =>
    obtain ⟨hact, hlog⟩ := halted_act hs a
    rw [journal, hlog, ih hact]
    rfl

/-- A step that fails has the last word in the journal. -/
theorem Tells.exists_halting {e : Failure} {log : List Event} (ht : m.Tells (.error e) log)
    (hs : m.status ≠ .halted) :
    ∃ f before, e = .fault f ∧ m.status = .running ∧ log = before ++ [.halting m.pc f] := by
  cases ht with
  | halted h => exact absurd h hs
  | @undecoded f h => exact ⟨f, [], rfl, h, rfl⟩
  | @faulted w i f h hw => exact ⟨f, [.decoded m.pc w i], rfl, h, rfl⟩

/-- **A game that halts a machine** does so with one of its steps, and this is the last that the
journal is told. -/
theorem Sound.exists_halting (h : m.Sound) (hs : m.status ≠ .halted)
    (hend : (m.play actions).status = .halted) :
    ∃ earlier later f before, actions = earlier ++ .step :: later ∧
      (m.play earlier).status = .running ∧ (m.play earlier).step.result = .error (.fault f) ∧
      m.journal actions = before ++ [.halting (m.play earlier).pc f] := by
  induction actions generalizing m with
  | nil => exact absurd hend hs
  | cons a rest ih =>
    by_cases hact : (m.act a).machine.status = .halted
    · by_cases ha : a = .step
      · subst ha
        rw [machine_act_step] at hact
        obtain ⟨e, he⟩ := h.halted_step_iff.1 hact
        have ht := h.tells
        rw [he] at ht
        obtain ⟨f, before, rfl, hrun, hlog⟩ := ht.exists_halting hs
        refine ⟨[], rest, f, before, rfl, hrun, he, ?_⟩
        rw [journal, log_act_step, machine_act_step, journal_of_halted hact, hlog, List.append_nil]
        rfl
      · exact absurd ((status_act_of_ne ha).symm.trans hact) hs
    · obtain ⟨earlier, later, f, before, rfl, hrun, hf, hlog⟩ := ih (h.act a) hact hend
      refine ⟨a :: earlier, later, f, (m.act a).log ++ before, rfl, hrun, hf, ?_⟩
      rw [journal, hlog, List.append_assoc]
      rfl

/-- How often a machine has halted. -/
def halts (m : Machine) : Nat := if m.status = .halted then 1 else 0

/-- Each step tells the journal of the halt that it brings about. -/
theorem Sound.halts_step (h : m.Sound) :
    m.step.machine.halts = m.halts + m.step.log.countP (·.level = .error) := by
  have hiff := h.halted_step_iff
  have ht := h.tells
  generalize m.step.result = r at hiff ht
  generalize m.step.log = log at ht ⊢
  cases ht with
  | halted hs | waits hs | undecoded hs | faulted hs | pauses hs | carried hs =>
    simp [halts, hiff, hs, Event.level]

/-- **The journal knows of each halt**, and of none that did not happen. -/
theorem Sound.halts_play (h : m.Sound) (actions : List Action) :
    (m.play actions).halts = m.halts + (m.journal actions).countP (·.level = .error) := by
  induction actions generalizing m with
  | nil => rfl
  | cons a rest ih =>
    have hact : (m.act a).machine.halts =
        m.halts + (m.act a).log.countP (·.level = .error) := by
      by_cases ha : a = .step
      · subst ha
        rw [machine_act_step, log_act_step, h.halts_step]
      · rw [log_act_of_ne ha, halts, status_act_of_ne ha]
        rfl
    rw [play_cons, ih (h.act a), hact, journal, List.countP_append, Nat.add_assoc]

/-! ## Words and breakpoints -/

/-- A step of the machine decodes a word. -/
def decodes (m : Machine) : Bool := m.status = .running && m.current.isOk

/-- A step of the machine comes to a breakpoint. -/
def pauses (m : Machine) : Bool := m.step.result matches .ok .breakpoint

/-- The journal is told of each word that is decoded. -/
theorem Sound.decoded_step (h : m.Sound) :
    m.step.log.countP (·.level = .trace) = if m.decodes then 1 else 0 := by
  have ht := h.tells
  generalize m.step.result = r at ht
  generalize m.step.log = log at ht ⊢
  cases ht with
  | halted hs | waits hs => simp [decodes, hs]
  | undecoded hs hi | faulted hs _ hi | pauses hs _ hi | carried hs _ hi =>
    simp [decodes, hs, hi, Event.level, Except.isOk, Except.toBool]

/-- The journal is told of each breakpoint. -/
theorem Sound.breakpoint_step (h : m.Sound) :
    m.step.log.countP (·.level = .warn) = if m.pauses then 1 else 0 := by
  have ht := h.tells
  rw [Machine.pauses]
  generalize m.step.result = r at ht ⊢
  generalize m.step.log = log at ht ⊢
  cases ht with
  | halted | undecoded | faulted | pauses => rfl
  | @waits _ o hs ho | @carried _ _ o hs hw hi ho =>
    cases o with
    | executed | awaitingKey => rfl
    | breakpoint => exact absurd rfl ho

/-! ## Programs -/

/-- **The journal is faithful.** Start a program and take any course: the journal is told of one
error if the machine has halted and of none otherwise, and this is the last that it is told, with
the address of the instruction that failed; it is told of each word that a running machine decodes
and of each breakpoint, once for each; and a step of a machine that does not run tells it nothing. -/
theorem journal_is_faithful (program : List UInt8) (hp : program.length ≤ 3232) (dialect : Dialect)
    (dice : Dice) :
    ∃ m₀, (start program dialect dice).result = .ok m₀ ∧ ∀ actions,
      let news := m₀.journal actions
      news.countP (·.level = .error) = (if (m₀.play actions).status = .halted then 1 else 0) ∧
        ((m₀.play actions).status = .halted → ∃ earlier later f before,
          actions = earlier ++ .step :: later ∧ (m₀.play earlier).status = .running ∧
            (m₀.play earlier).step.result = .error (.fault f) ∧
            news = before ++ [.halting (m₀.play earlier).pc f]) ∧
        news.countP (·.level = .trace) = (m₀.asked actions).countP decodes ∧
        news.countP (·.level = .warn) = (m₀.asked actions).countP pauses ∧
        ∀ k ∈ m₀.asked actions, k.status ≠ .running → k.step.log = [] := by
  obtain ⟨m₀, hm₀⟩ := exists_start hp dialect dice
  have h := sound_start hm₀
  have hs : m₀.status = .running := by
    obtain ⟨-, rfl⟩ := start_eq_ok_iff.1 hm₀
    rfl
  refine ⟨m₀, hm₀, fun actions => ⟨?_, ?_, ?_, ?_, ?_⟩⟩
  · have hnone : m₀.halts = 0 := by rw [halts, hs]; rfl
    have hhalts := h.halts_play actions
    rw [hnone, Nat.zero_add] at hhalts
    exact hhalts.symm
  · exact h.exists_halting (by rw [hs]; nofun)
  · exact countP_journal fun k hk => (h.of_mem_asked hk).decoded_step
  · exact countP_journal fun k hk => (h.of_mem_asked hk).breakpoint_step
  · intro k hk hrun
    exact (h.of_mem_asked hk).tells.eq_nil hrun

/-- A program that comes to a breakpoint, waits for a key and halts on a word that is no
instruction. -/
theorem journal_of_three_words :
    ∃ m₀, (start [0x00, 0x01, 0xF3, 0x0A, 0xFF, 0xFF] ⟨false, true⟩ .loaded).result = .ok m₀ ∧
      let actions : List Action := [.step, .step, .tick, .step, .press 5, .step, .step, .step]
      let news := m₀.journal actions
      news.countP (·.level = .error) = 1 ∧
        (∃ before, news = before ++ [.halting 0x204 (.unknownOpcode 0xFFFF)]) ∧
        news.countP (·.level = .trace) = 2 ∧ news.countP (·.level = .warn) = 1 := by
  obtain ⟨m₀, hm₀, h⟩ := journal_is_faithful [0x00, 0x01, 0xF3, 0x0A, 0xFF, 0xFF] (by decide)
    ⟨false, true⟩ .loaded
  refine ⟨m₀, hm₀, ?_⟩
  intro actions news
  obtain ⟨herror, hlast, htrace, hwarn, -⟩ := h actions
  obtain ⟨hend, hword, hdecoded, hpaused⟩ : (m₀.play actions).status = .halted ∧
      (m₀.journal actions).getLast? = some (.halting 0x204 (.unknownOpcode 0xFFFF)) ∧
      (m₀.asked actions).countP decodes = 2 ∧ (m₀.asked actions).countP pauses = 1 := by
    obtain ⟨-, rfl⟩ := start_eq_ok_iff.1 hm₀
    decide +kernel
  obtain ⟨earlier, later, f, before, -, -, -, hnews⟩ := hlast hend
  rw [hnews, List.getLast?_concat] at hword
  rw [Option.some.inj hword] at hnews
  exact ⟨herror.trans (if_pos hend), ⟨before, hnews⟩, htrace.trans hdecoded, hwarn.trans hpaused⟩

end Chip8.Machine
