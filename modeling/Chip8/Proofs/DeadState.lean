import Chip8.Proofs.CallStack
import Chip8.Proofs.Machine.Lockstep

/-!
# What no program comes back to

A machine keeps more than what can matter to its program. The flag of the screen and the sound timer
are written for the host alone, and the slots of the call stack that are not in use are overwritten
before they are used again. Which slots these are changes with each call and return: a return leaves
behind a slot that was in use, and a call takes one over. So the slots in use have to be compared
anew behind each instruction; what holds throughout is that the open calls are the same.

* `CallStack.SameCalls` — two call stacks with the same open calls, and how calls and returns keep
  it;
* `Machine.SameLive` — two machines that agree on everything but their dead state;
* `paired_apply` — an effect does not depend on dead state;
* `dead_state_is_unseen` — nor does any course of a game.
-/

namespace Chip8

/-- Two call stacks have the same open calls. What the slots that are not in use hold does not
matter. -/
structure CallStack.SameCalls (s t : CallStack) : Prop where
  /-- as many calls are open -/
  depth : t.depth = s.depth
  /-- the open calls have the same addresses -/
  active : t.active = s.active

namespace CallStack.SameCalls

variable {s t s' : CallStack} {pc site : Addr} {e : Failure}

/-- The same call can be opened on both, or is refused on both. -/
theorem push (h : s.SameCalls t) (site : Addr) :
    (∃ e, s.push site = .error e ∧ t.push site = .error e) ∨
      ∃ s' t', s.push site = .ok s' ∧ t.push site = .ok t' ∧ s'.SameCalls t' := by
  rcases hs : s.push site with e | s'
  · refine .inl ⟨e, rfl, ?_⟩
    rwa [push_eq_error_iff, h.depth, ← push_eq_error_iff]
  · have hlt := (push_eq_ok_iff.1 hs).1
    have ht : t.push site = .ok _ := push_eq_ok_iff.2 ⟨h.depth ▸ hlt, rfl⟩
    refine .inr ⟨s', _, rfl, ht, ?_, ?_⟩
    · obtain ⟨-, rfl⟩ := push_eq_ok_iff.1 hs
      exact congrArg (· + 1) h.depth
    · rw [active_push hs, active_push ht, h.active]

/-- A slot that is in use holds the same address. -/
theorem slot (h : s.SameCalls t) {k : Nat} (hk : k < s.depth) : t.slots[k]? = s.slots[k]? := by
  have hlive (u : CallStack) (hu : k < u.depth) : u.active[k]? = u.slots[k]? := by
    rw [CallStack.active, List.getElem?_take_of_lt hu, Vector.getElem?_toList]
  rw [← hlive t (h.depth ▸ hk), h.active, hlive s hk]

/-- The newest call can be closed on both, or on neither. -/
theorem pop (h : s.SameCalls t) (pc : Addr) :
    (∃ e, s.pop pc = .error e ∧ t.pop pc = .error e) ∨
      ∃ site s' t', s.pop pc = .ok (site, s') ∧ t.pop pc = .ok (site, t') ∧ s'.SameCalls t' := by
  rw [CallStack.pop, CallStack.pop, h.depth]
  rcases hd : s.depth with _ | newest
  · exact .inl ⟨_, rfl, rfl⟩
  · have hslot := h.slot (k := newest) (by omega)
    simp only [hslot]
    rcases s.slots[newest]? with _ | site
    · exact .inl ⟨_, rfl, rfl⟩
    · -- the slot that is no longer in use is left out on both sides
      have hactive : (t.slots.toList.take (newest + 1)).take newest =
          (s.slots.toList.take (newest + 1)).take newest := by
        have hnewer := h.active
        rw [CallStack.active, CallStack.active, h.depth, hd] at hnewer
        rw [hnewer]
      rw [List.take_take, List.take_take, Nat.min_eq_left (Nat.le_succ newest)] at hactive
      exact .inr ⟨site, _, _, rfl, rfl, rfl, hactive⟩

end CallStack.SameCalls

namespace Machine

/-- Two machines agree on all that is alive: on everything but the flag of the screen, the sound
timer and the slots of the call stack that are not in use. -/
structure SameLive (m n : Machine) : Prop where
  /-- the same bytes are in memory -/
  memory : n.memory = m.memory
  /-- the registers hold the same values -/
  registers : n.registers = m.registers
  /-- the index is at the same address -/
  index : n.index = m.index
  /-- the same instruction is next -/
  pc : n.pc = m.pc
  /-- the same calls are open -/
  stack : m.stack.SameCalls n.stack
  /-- the delay timers are the same -/
  delay : n.timers.delay = m.timers.delay
  /-- the same pixels are lit -/
  rows : n.screen.rows = m.screen.rows
  /-- the same keys are held -/
  keypad : n.keypad = m.keypad
  /-- they do the same when asked for a step -/
  status : n.status = m.status
  /-- they speak the same dialect -/
  dialect : n.dialect = m.dialect
  /-- the same random bytes are to come -/
  dice : n.dice = m.dice

/-- The machine with other dead state. -/
def withDead (m : Machine) (stack : CallStack) (sound : UInt8) (redraw : Bool) : Machine :=
  { m with
    stack
    timers := { m.timers with sound }
    screen := { m.screen with redraw } }

variable {m n : Machine} {i : Instruction} {stack : CallStack} {sound : UInt8} {redraw : Bool}

/-- Other dead state is all that is left to differ. -/
theorem SameLive.eq_withDead (h : m.SameLive n) :
    n = m.withDead n.stack n.timers.sound n.screen.redraw := by
  obtain ⟨memory, registers, index, pc, stack, ⟨delay, sound⟩, ⟨rows, redraw⟩, keypad, status,
    dialect, dice⟩ := n
  obtain ⟨rfl, rfl, rfl, rfl, -, hdelay, hrows, rfl, rfl, rfl, rfl⟩ := h
  cases hdelay
  cases hrows
  rfl

theorem sameLive_withDead (h : m.stack.SameCalls stack) (sound : UInt8) (redraw : Bool) :
    m.SameLive (m.withDead stack sound redraw) :=
  ⟨rfl, rfl, rfl, rfl, h, rfl, rfl, rfl, rfl, rfl, rfl⟩

theorem likeness_sameLive : Likeness SameLive where
  memory h := h.memory
  pc h := h.pc
  status h := h.status
  keypad h := h.keypad
  setCounter h pc := { h with pc := rfl }
  setStatus h status := { h with status := rfl }
  setRegister h x value := { h with registers := by rw [setRegister, setRegister, h.registers] }

theorem sameLive_setFirstRegs (h : m.SameLive n) (values : List UInt8) :
    (m.setFirstRegs values).SameLive (n.setFirstRegs values) := by
  rw [h.eq_withDead]
  constructor <;> simp only [setFirstRegs, withDead, h.stack]

theorem sameLive_moveIndex (h : m.SameLive n) (count : Nat) :
    (m.moveIndex count).SameLive (n.moveIndex count) := by
  have hindex : n.index + .ofNat count = m.index + .ofNat count := by rw [h.index]
  unfold moveIndex
  exact { h with index := by rw [h.dialect, hindex, h.index] }

/-- **An effect** does not depend on dead state. -/
theorem paired_apply (h : m.SameLive n) : Paired SameLive (m.apply i) (n.apply i) := by
  have hskip := likeness_sameLive.skipIf h
  have hregs := sameLive_setFirstRegs h
  have hs := h.stack
  -- an effect that does not look at the call stack computes to the same on an update of `m`
  rw [h.eq_withDead] at hskip hregs ⊢
  cases i
  case leave =>
    show Paired _ ((m.stack.pop m.pc).bind _) ((n.stack.pop m.pc).bind _)
    rcases hs.pop m.pc with ⟨e, hm, hn⟩ | ⟨site, s', t', hm, hn, hst⟩
    · rw [hm, hn]
      exact .fail e
    · rw [hm, hn]
      exact paired_map (site.ahead 2) fun _ _ =>
        ⟨rfl, rfl, rfl, rfl, hst, rfl, rfl, rfl, rfl, rfl, rfl⟩
  case call target =>
    show Paired _ ((m.stack.push m.pc).map _) ((n.stack.push m.pc).map _)
    rcases hs.push m.pc with ⟨e, hm, hn⟩ | ⟨s', t', hm, hn, hst⟩
    · rw [hm, hn]
      exact .fail e
    · rw [hm, hn]
      exact .done ⟨rfl, rfl, rfl, rfl, hst, rfl, rfl, rfl, rfl, rfl, rfl⟩
  case storeRegisters =>
    refine paired_map _ fun memory _ => sameLive_moveIndex ?_ _
    exact ⟨rfl, rfl, rfl, rfl, hs, rfl, rfl, rfl, rfl, rfl, rfl⟩
  case loadRegisters => exact paired_map _ fun values _ => sameLive_moveIndex (hregs values) _
  case skipEqConst | skipNeConst | skipEqReg | skipNeReg | skipHeld | skipFree => exact hskip _
  case jumpOffset | draw | storeDecimal =>
    exact paired_map _ fun _ _ => ⟨rfl, rfl, rfl, rfl, hs, rfl, rfl, rfl, rfl, rfl, rfl⟩
  all_goals exact .done ⟨rfl, rfl, rfl, rfl, hs, rfl, rfl, rfl, rfl, rfl, rfl⟩

/-- **The same game on machines that differ in dead state** goes on alike, whatever it comes to. -/
theorem lockstep_sameLive : Lockstep (fun _ _ => True) SameLive where
  toLikeness := likeness_sameLive
  apply h _ _ := paired_apply h
  host h a ha := by
    cases a with
    | step => exact absurd rfl ha
    | tick => exact { h with delay := congrArg Timers.countDown h.delay }
    | press key => exact { h with keypad := congrArg (·.press key) h.keypad }
    | release key => exact { h with keypad := congrArg (·.release key) h.keypad }
    | setKeypad keypad => exact { h with keypad := rfl }
    | markDrawn => exact { h with rows := h.rows }

/-- **Dead state is never seen.** If two machines differ in nothing but the flag of the screen, the
sound timer and the slots of the call stack that are not in use, then the steps of each game have
the same outcomes on both, and behind it they still differ in nothing else; in particular the same
calls are open. -/
theorem dead_state_is_unseen (h : m.SameLive n) (actions : List Action) :
    n.outcomes actions = m.outcomes actions ∧ (m.play actions).SameLive (n.play actions) :=
  lockstep_sameLive.play h actions fun _ _ _ _ => trivial

/-- A program that opens a call and closes it again, among slots that hold something else. -/
theorem unused_slots_are_overwritten :
    ∃ m n, (start [0x22, 0x04, 0x12, 0x02, 0x00, 0xEE] ⟨false, false⟩ .loaded).result = .ok m ∧
      n = m.withDead ⟨Vector.replicate 16 0x123, 0⟩ 7 true ∧
      let actions : List Action := [.step, .tick, .step, .step]
      (m.outcomes actions).map Except.toOption =
        [some (.executed (.call 0x204)), some (.executed .leave),
          some (.executed (.jump 0x202))] ∧
      n.outcomes actions = m.outcomes actions ∧ (m.play actions).SameLive (n.play actions) := by
  have hfits : ([0x22, 0x04, 0x12, 0x02, 0x00, 0xEE] : List UInt8).length ≤ 3232 := by decide
  obtain ⟨m, hm⟩ := exists_start hfits ⟨false, false⟩ .loaded
  have hcalls : m.stack.SameCalls ⟨Vector.replicate 16 0x123, 0⟩ := by
    obtain ⟨-, rfl⟩ := start_eq_ok_iff.1 hm
    exact ⟨rfl, rfl⟩
  refine ⟨m, _, hm, rfl, ?_⟩
  intro actions
  refine ⟨?_, dead_state_is_unseen (sameLive_withDead hcalls 7 true) actions⟩
  obtain ⟨-, rfl⟩ := start_eq_ok_iff.1 hm
  decide +kernel

end Machine

end Chip8
