import Chip8.Proofs.Machine.Obey

/-!
# Playing

While a program runs, its host asks the machine for steps and timer ticks, reports keys and notes
that the screen was drawn; a debugger's pokes are not among this. An `Action` is one of these
operations, and a list of actions is one course that a game can take.

* `Machine.play` — the machine after a list of actions;
* `Machine.asked`, `Machine.outcomes` — the steps of a game: the machines that make them, and what
  comes of them;
* `Machine.play_induction` — what holds of the start and is preserved by each action holds always.
-/

namespace Chip8

/-- An operation that a host asks for while a program runs. -/
inductive Action
  /-- make a step -/
  | step
  /-- count the timers down -/
  | tick
  /-- hold a key down -/
  | press (key : UInt8)
  /-- let a key go -/
  | release (key : UInt8)
  /-- replace the keypad -/
  | setKeypad (keypad : Keypad)
  /-- note that the screen was drawn -/
  | markDrawn

/-- The command that an action is. -/
def Action.command : Action → Command
  | step => .step
  | tick => .tick
  | press key => .press key
  | release key => .release key
  | setKeypad keypad => .setKeypad keypad
  | markDrawn => .markDrawn

namespace Machine

variable {m : Machine}

/-- What becomes of an action. -/
def act (m : Machine) (a : Action) : Response := m.obey a.command

/-- The machine after a list of actions. -/
def play (m : Machine) (actions : List Action) : Machine := m.obeyAll (actions.map Action.command)

/-- The machines that a list of actions asks for a step, in order. -/
def asked (m : Machine) : List Action → List Machine
  | [] => []
  | .step :: rest => m :: m.step.machine.asked rest
  | a :: rest => (m.act a).machine.asked rest

/-- What comes of the steps that a list of actions asks for, in order. -/
def outcomes (m : Machine) (actions : List Action) : List (Except Failure Outcome) :=
  (m.asked actions).map fun k => k.step.result

@[simp] theorem play_nil : m.play [] = m := rfl

@[simp] theorem play_cons (a : Action) (rest : List Action) :
    m.play (a :: rest) = (m.act a).machine.play rest := rfl

theorem play_append (first second : List Action) :
    m.play (first ++ second) = (m.play first).play second := by
  simp only [play, obeyAll, List.map_append, List.foldl_append]

@[simp] theorem asked_step (rest : List Action) :
    m.asked (.step :: rest) = m :: m.step.machine.asked rest := rfl

/-- Only steps are asked for a step. -/
theorem asked_of_ne {a : Action} (ha : a ≠ .step) (rest : List Action) :
    m.asked (a :: rest) = (m.act a).machine.asked rest := by
  cases a with
  | step => exact absurd rfl ha
  | tick | press key | release key | setKeypad keypad | markDrawn => rfl

/-- A machine that is asked for a step is the one behind some of the actions. -/
theorem exists_play_of_mem_asked {k : Machine} {actions : List Action} (h : k ∈ m.asked actions) :
    ∃ earlier, k = m.play earlier := by
  induction actions generalizing m with
  | nil => cases h
  | cons a rest ih =>
    cases a with
    | step =>
      rcases List.mem_cons.1 h with rfl | h
      · exact ⟨[], rfl⟩
      · obtain ⟨earlier, hk⟩ := ih h
        refine ⟨.step :: earlier, ?_⟩
        rw [play_cons, act, Action.command, obey, machine_ofReport]
        exact hk
    | tick | press key | release key | setKeypad keypad | markDrawn =>
      obtain ⟨earlier, hk⟩ := ih h
      exact ⟨_ :: earlier, hk⟩

@[simp] theorem machine_act_step : (m.act .step).machine = m.step.machine := by
  rw [act, Action.command, obey, machine_ofReport]

/-- What holds of a machine and is preserved by each action holds in the course of each game. -/
theorem play_induction {P : Machine → Prop} (h₀ : P m)
    (hact : ∀ m a, P m → P (m.act a).machine) (actions : List Action) : P (m.play actions) := by
  induction actions generalizing m with
  | nil => exact h₀
  | cons a rest ih => exact ih (hact m a h₀)

end Machine

end Chip8
