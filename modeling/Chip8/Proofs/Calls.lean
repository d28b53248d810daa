import Chip8.Proofs.Machine.Sound

/-!
# Calls and returns of a game

In the course of a game calls and returns are carried out, and like brackets each return belongs to
the latest call before it that no other return belongs to. The history of a game is the list of its
calls and returns, and `openCalls` reads off it which calls are still open, without looking at any
machine. This module shows that it is these calls, the oldest first, that the call stack holds.

* `strays`, `openCalls` — the brackets of a history that have no partner in it;
* `openCalls_call`, `openCalls_leave` — one more call or return at the end of a history;
* `Machine.Nested` — what it means that some calls are the open ones of a machine;
* `Sound.active_act` — an action changes the open calls as it extends the history;
* `nested_play` — so the calls open in a game are those open in its history.
-/

namespace Chip8

/-- A call or a return that was carried out. -/
inductive Mark
  /-- the call at this address -/
  | call (site : Addr)
  /-- a return -/
  | leave
deriving DecidableEq, Repr

/-! ## Histories -/

/-- The number of returns in a history that belong to calls from before it. -/
def strays : List Mark → Nat
  | [] => 0
  | .call _ :: rest => strays rest - 1
  | .leave :: rest => strays rest + 1

/-- The calls of a history that no return in it belongs to, the oldest first. The first of several
returns that a call leaves over belongs to that call. -/
def openCalls : List Mark → List Addr
  | [] => []
  | .call site :: rest => if strays rest = 0 then site :: openCalls rest else openCalls rest
  | .leave :: rest => openCalls rest

example : openCalls [.call 0x200, .call 0x300, .leave, .call 0x304] = [0x200, 0x304] := rfl

variable {site : Addr}

theorem strays_call (past : List Mark) : strays (past ++ [.call site]) = strays past := by
  induction past with
  | nil => rfl
  | cons mark rest ih => cases mark <;> simp only [List.cons_append, strays, ih]

/-- A call at the end of a history is open. -/
theorem openCalls_call (past : List Mark) :
    openCalls (past ++ [.call site]) = openCalls past ++ [site] := by
  induction past with
  | nil => rfl
  | cons mark rest ih =>
    cases mark with
    | call first =>
      rw [List.cons_append, openCalls, openCalls, strays_call, ih]
      split <;> rfl
    | leave => exact ih

/-- A return at the end of a history is stray exactly if no call is open. -/
theorem strays_leave (past : List Mark) :
    strays (past ++ [.leave]) = strays past + if openCalls past = [] then 1 else 0 := by
  induction past with
  | nil => rfl
  | cons mark rest ih =>
    cases mark with
    | call first =>
      rw [List.cons_append, strays, strays, openCalls, ih]
      by_cases h : strays rest = 0
      · -- the first call takes the return if no other call does
        rw [if_pos h, if_neg (List.cons_ne_nil _ _), h]
        split <;> rfl
      · rw [if_neg h]
        omega
    | leave =>
      rw [List.cons_append, strays, strays, openCalls, ih]
      omega

/-- A return at the end of a history closes the call that was opened last. -/
theorem openCalls_leave (past : List Mark) :
    openCalls (past ++ [.leave]) = (openCalls past).dropLast := by
  induction past with
  | nil => rfl
  | cons mark rest ih =>
    cases mark with
    | call first =>
      rw [List.cons_append, openCalls, openCalls, strays_leave, ih]
      by_cases h : strays rest = 0
      · rw [if_pos h, h]
        by_cases hnil : openCalls rest = []
        · rw [hnil]
          rfl
        · rw [if_neg hnil, if_pos rfl, List.dropLast_cons_of_ne_nil hnil]
      · rw [if_neg h, if_neg (by omega)]
    | leave => exact ih

/-- What an instruction at `pc` adds to the history, going by its outcome. -/
def Outcome.marks (pc : Addr) : Outcome → List Mark
  | .executed (.call _) => [.call pc]
  | .executed .leave => [.leave]
  | _ => []

@[simp] theorem Outcome.marks_call (pc target : Addr) :
    Outcome.marks pc (.executed (.call target)) = [.call pc] := rfl

@[simp] theorem Outcome.marks_leave (pc : Addr) :
    Outcome.marks pc (.executed .leave) = [.leave] := rfl

namespace Machine

/-- What an action adds to the history. -/
def marks (m : Machine) (a : Action) : List Mark :=
  match (m.act a).reply with
  | .outcome o => o.marks m.pc
  | _ => []

/-- The calls and returns that a list of actions carries out. -/
def history (m : Machine) : List Action → List Mark
  | [] => []
  | a :: rest => m.marks a ++ (m.act a).machine.history rest

/-- The open calls of a machine are those at some addresses, the oldest first: they are what its
call stack holds, and what decides on calls and returns. -/
structure Nested (m : Machine) (opened : List Addr) : Prop where
  /-- the call stack holds the addresses of the calls -/
  active : m.stack.active = opened
  /-- the depth of the call stack is the number of calls -/
  depth : m.stack.depth = opened.length
  /-- exactly a seventeenth call overflows -/
  overflow : ∀ site, m.step.result = .error (.fault (.stackOverflow site)) ↔
    (∃ target, m.due = .ok (.call target)) ∧ opened.length = 16 ∧ site = m.pc
  /-- exactly a return without a call underflows -/
  underflow : ∀ site, m.step.result = .error (.fault (.stackUnderflow site)) ↔
    m.due = .ok .leave ∧ opened = [] ∧ site = m.pc
  /-- a return goes on behind the latest call and closes it -/
  leave : m.due = .ok .leave → opened ≠ [] → ∃ older site, opened = older ++ [site] ∧
    m.step.result = .ok (.executed .leave) ∧ m.step.machine.pc.toNat = site.toNat + 2 ∧
    m.step.machine.stack.active = older
  /-- nothing else changes the call stack -/
  others : ∀ a, m.marks a = [] → (m.act a).machine.stack = m.stack

variable {m n : Machine} {i : Instruction} {o : Outcome}

/-! ## One instruction -/

/-- The open calls behind an instruction that was carried out, and what it adds to the history. -/
inductive Nests (m : Machine) : Instruction → Outcome → Machine → Prop
  /-- a return closes the latest call and goes on behind it -/
  | leave {site : Addr} {n : Machine} (hs : m.stack.pop m.pc = .ok (site, n.stack))
      (hp : n.pc.toNat = site.toNat + 2) : Nests m .leave (.executed .leave) n
  /-- a call is opened -/
  | call {target : Addr} {n : Machine} (hs : m.stack.push m.pc = .ok n.stack) :
      Nests m (.call target) (.executed (.call target)) n
  /-- nothing else is written into a history -/
  | other {i : Instruction} {o : Outcome} {n : Machine} (hi : i ≠ .leave) (ho : o.marks m.pc = [])
      (hs : n.stack = m.stack) : Nests m i o n

/-- What is not control flow writes nothing into a history. -/
theorem nests_of_isControlFlow (hi : i.isControlFlow = false) (hs : n.stack = m.stack) :
    m.Nests i i.outcome n := by
  refine .other ?_ ?_ hs
  · rintro rfl
    cases hi
  · cases i <;> cases hi <;> rfl

/-- **The calls behind an instruction.** -/
theorem Executes.nests (he : m.Executes i (.ok o) n) : m.Nests i o n := by
  cases he with
  | @done m₁ _ hk ha hm =>
    obtain ⟨pc, rfl, hsum⟩ := pc_of_moveOn hm
    cases flows ha with
    | @leave site back stack hs hp =>
      -- a return places the program counter itself, so moving on adds nothing
      refine .leave hs ?_
      have hback := Addr.ahead_eq_ok_iff.1 hp
      exact hsum.trans hback
    | call hs => exact .call hs
    | jump => exact .other nofun rfl rfl
    | offset hp => exact .other nofun rfl rfl
    | skip hi hp => exact nests_of_isControlFlow hi rfl
    | stay hi hsame => exact nests_of_isControlFlow hi hsame.stack
  | waits hi hl =>
    cases hi
    exact .other nofun rfl rfl
  | takes hi hl hp =>
    cases hi
    exact .other nofun rfl rfl

/-- Only a call overflows the call stack, and only a seventeenth one. -/
theorem apply_overflow_iff (hd : m.stack.depth ≤ 16) (hr : ∀ x ∈ i.registers, x < 16) :
    m.apply i = .error (.fault (.stackOverflow site)) ↔
      (∃ target, i = .call target) ∧ m.stack.depth = 16 ∧ site = m.pc := by
  constructor
  · intro h
    cases refuses hd hr h with
    | overflow h16 => exact ⟨⟨_, rfl⟩, h16, rfl⟩
    | site hs hp | offset hp | skip hi hp => exact absurd hp Addr.ahead_ne_fault
  · rintro ⟨⟨target, rfl⟩, h16, rfl⟩
    exact map_eq_error_iff.2 (CallStack.push_eq_error_iff.2 ⟨Nat.le_of_eq h16.symm, rfl⟩)

/-- Only a return underflows the call stack, and only if no call is open. -/
theorem apply_underflow_iff (hd : m.stack.depth ≤ 16) (hr : ∀ x ∈ i.registers, x < 16) :
    m.apply i = .error (.fault (.stackUnderflow site)) ↔
      i = .leave ∧ m.stack.depth = 0 ∧ site = m.pc := by
  constructor
  · intro h
    cases refuses hd hr h with
    | underflow h0 => exact ⟨rfl, h0, rfl⟩
    | site hs hp | offset hp | skip hi hp => exact absurd hp Addr.ahead_ne_fault
  · rintro ⟨rfl, h0, rfl⟩
    exact bind_eq_error_iff.2 (.inl ((CallStack.pop_eq_error_iff hd).2 ⟨h0, rfl⟩))

/-! ## One step -/

theorem marks_step_of_ok (h : m.step.result = .ok o) : m.marks .step = o.marks m.pc := by
  rw [marks, act, Action.command, obey, ofReport, h]

theorem marks_step_of_error {e : Failure} (h : m.step.result = .error e) : m.marks .step = [] := by
  rw [marks, act, Action.command, obey, ofReport, h]

/-- A step of a sound machine fails and leaves the open calls alone, or it carries out the
instruction that is due. -/
theorem Sound.nests_step (h : m.Sound) :
    (∃ e, m.step.result = .error e ∧ m.step.machine.stack = m.stack) ∨
      ∃ i o, m.due = .ok i ∧ m.step.result = .ok o ∧ m.Nests i o m.step.machine := by
  have hs := steps h.awaits_lt
  generalize m.step.result = r at hs ⊢
  generalize m.step.machine = n at hs ⊢
  cases hs with
  | idle hd => exact .inl ⟨_, rfl, rfl⟩
  | carried hd he => exact .inr ⟨_, _, hd, rfl, he.nests⟩
  | faulted hd he =>
    obtain rfl := he.eq_of_fault
    exact .inl ⟨_, rfl, rfl⟩
  | breached hd he => exact absurd he (h.not_breach (h.current_of_due hd))

/-- Why no instruction is due has nothing to do with the call stack. -/
theorem due_ne_ends :
    m.due ≠ .error (.stackOverflow site) ∧ m.due ≠ .error (.stackUnderflow site) := by
  constructor
  all_goals
    intro h
    rcases fault_of_due h with hf | hf | ⟨w, hf⟩ <;> cases hf

/-- A step overflows the call stack exactly with a seventeenth call. -/
theorem Sound.step_overflow_iff (h : m.Sound) :
    m.step.result = .error (.fault (.stackOverflow site)) ↔
      (∃ target, m.due = .ok (.call target)) ∧ m.stack.depth = 16 ∧ site = m.pc := by
  rw [step_fault_iff h.awaits_lt]
  constructor
  · rintro (hd | ⟨i, hd, ha⟩)
    · exact absurd hd due_ne_ends.1
    · obtain ⟨⟨target, rfl⟩, hrest⟩ :=
        (apply_overflow_iff h.stack.depth_le (registers_lt_of_due h.awaits_lt hd)).1 ha
      exact ⟨⟨target, hd⟩, hrest⟩
  · rintro ⟨⟨target, hd⟩, hrest⟩
    have hr := registers_lt_of_due h.awaits_lt hd
    exact .inr ⟨_, hd, (apply_overflow_iff h.stack.depth_le hr).2 ⟨⟨target, rfl⟩, hrest⟩⟩

/-- A step underflows the call stack exactly with a return when no call is open. -/
theorem Sound.step_underflow_iff (h : m.Sound) :
    m.step.result = .error (.fault (.stackUnderflow site)) ↔
      m.due = .ok .leave ∧ m.stack.depth = 0 ∧ site = m.pc := by
  rw [step_fault_iff h.awaits_lt]
  constructor
  · rintro (hd | ⟨i, hd, ha⟩)
    · exact absurd hd due_ne_ends.2
    · obtain ⟨rfl, hrest⟩ :=
        (apply_underflow_iff h.stack.depth_le (registers_lt_of_due h.awaits_lt hd)).1 ha
      exact ⟨hd, hrest⟩
  · rintro ⟨hd, hrest⟩
    have hr := registers_lt_of_due h.awaits_lt hd
    exact .inr ⟨_, hd, (apply_underflow_iff h.stack.depth_le hr).2 ⟨rfl, hrest⟩⟩

/-- A step with a return closes the latest call, if one is open, and goes on behind it. -/
theorem Sound.step_leave (h : m.Sound) (hd : m.due = .ok .leave) (h0 : m.stack.depth ≠ 0) :
    ∃ site, m.stack.pop m.pc = .ok (site, m.step.machine.stack) ∧
      m.step.result = .ok (.executed .leave) ∧
      m.step.machine.pc.toNat = site.toNat + 2 := by
  rcases h.nests_step with ⟨f | b, hr, -⟩ | ⟨i, o, hd', hr, hn⟩
  · rcases (step_fault_iff h.awaits_lt).1 hr with hf | ⟨i, hd', ha⟩
    · cases hd.symm.trans hf
    · cases hd.symm.trans hd'
      rcases bind_eq_error_iff.1 ha with hs | ⟨⟨site, stack⟩, -, hp⟩
      · exact absurd ((CallStack.pop_eq_error_iff h.stack.depth_le).1 hs).1 h0
      · exact absurd (map_eq_error_iff.1 hp) Addr.ahead_ne_fault
  · exact absurd hr (h.step_ne_breach b)
  · cases hd.symm.trans hd'
    generalize m.step.machine = n at hn ⊢
    cases hn with
    | @leave site n hs hp => exact ⟨site, hs, hr, hp⟩
    | other hi => exact absurd rfl hi

/-! ## One action -/

/-- An action that adds nothing to the history leaves the call stack as it is. -/
theorem Sound.stack_act {a : Action} (h : m.Sound) (ha : m.marks a = []) :
    (m.act a).machine.stack = m.stack := by
  cases a with
  | step =>
    rw [machine_act_step]
    rcases h.nests_step with ⟨e, -, hs⟩ | ⟨i, o, -, hr, hn⟩
    · exact hs
    · rw [marks_step_of_ok hr] at ha
      generalize m.step.machine = n at hn ⊢
      cases hn with
      | leave => cases ha
      | call => cases ha
      | other hi ho hs => exact hs
  | tick | press key | release key | setKeypad keypad | markDrawn => rfl

/-- **An action** changes the open calls as it extends the history. -/
theorem Sound.active_act {past : List Mark} (h : m.Sound) (hp : m.stack.active = openCalls past)
    (a : Action) : (m.act a).machine.stack.active = openCalls (past ++ m.marks a) := by
  cases a with
  | step =>
    rw [machine_act_step]
    rcases h.nests_step with ⟨e, hr, hs⟩ | ⟨i, o, -, hr, hn⟩
    · rw [marks_step_of_error hr, List.append_nil, hs, hp]
    · rw [marks_step_of_ok hr]
      generalize m.step.machine = n at hn ⊢
      cases hn with
      | leave hs hpc =>
        rw [Outcome.marks_leave, openCalls_leave, ← hp, CallStack.active_pop hs,
          List.dropLast_concat]
      | call hs => rw [Outcome.marks_call, openCalls_call, ← hp, CallStack.active_push hs]
      | other hi ho hs => rw [ho, List.append_nil, hs, hp]
  | tick | press key | release key | setKeypad keypad | markDrawn =>
    exact hp.trans (congrArg openCalls (List.append_nil past).symm)

/-! ## A game -/

/-- The calls open in a game, when it was begun after some calls and returns. -/
theorem Sound.active_play {past : List Mark} (h : m.Sound) (hp : m.stack.active = openCalls past)
    (actions : List Action) :
    (m.play actions).stack.active = openCalls (past ++ m.history actions) := by
  -- the past takes over what the first action adds, so it is not fixed
  induction actions generalizing m past with
  | nil => rw [play_nil, history, List.append_nil, hp]
  | cons a rest ih =>
    rw [play_cons, history, ← List.append_assoc]
    exact ih (h.act a) (h.active_act hp a)

/-- The open calls of a sound machine decide on its calls and returns. -/
theorem Sound.nested (h : m.Sound) : m.Nested m.stack.active where
  active := rfl
  depth := (CallStack.length_active h.stack.depth_le).symm
  overflow := by
    intro site
    rw [CallStack.length_active h.stack.depth_le]
    exact h.step_overflow_iff
  underflow := by
    intro site
    rw [CallStack.active_eq_nil_iff h.stack.depth_le]
    exact h.step_underflow_iff
  leave := by
    intro hd hne
    rw [Ne, CallStack.active_eq_nil_iff h.stack.depth_le] at hne
    obtain ⟨site, hs, hr, hp⟩ := h.step_leave hd hne
    exact ⟨_, site, CallStack.active_pop hs, hr, hp, rfl⟩
  others := fun _ ha => h.stack_act ha

/-- **Calls and returns nest.** In each course of a game the open calls are those of its history. -/
theorem nested_play {program : List UInt8} {dialect : Dialect} {dice : Dice} {m₀ : Machine}
    (h : (start program dialect dice).result = .ok m₀) (actions : List Action) :
    (m₀.play actions).Nested (openCalls (m₀.history actions)) := by
  have hempty : m₀.stack.active = openCalls [] := by
    obtain ⟨-, rfl⟩ := start_eq_ok_iff.1 h
    rfl
  have hactive := (sound_start h).active_play hempty actions
  rw [List.nil_append] at hactive
  rw [← hactive]
  exact (sound_play h actions).nested

/-- Two calls of a subroutine that is a return, of which the second is still open. -/
theorem second_call_nests :
    ∃ m₀, (start [0x22, 0x04, 0x22, 0x04, 0x00, 0xEE] {} .loaded).result = .ok m₀ ∧
      m₀.history [.step, .step, .step] = [.call 0x200, .leave, .call 0x202] ∧
      (m₀.play [.step, .step, .step]).Nested [0x202] := by
  obtain ⟨m₀, h, hh⟩ : ∃ m₀,
      (start [0x22, 0x04, 0x22, 0x04, 0x00, 0xEE] {} .loaded).result = .ok m₀ ∧
        m₀.history [.step, .step, .step] = [.call 0x200, .leave, .call 0x202] :=
    ⟨_, start_eq_ok_iff.2 ⟨by decide, rfl⟩, by decide +kernel⟩
  have hn := nested_play h [.step, .step, .step]
  rw [hh] at hn
  exact ⟨m₀, h, hh, hn⟩

end Machine

end Chip8
