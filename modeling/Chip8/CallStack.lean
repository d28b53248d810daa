import Chip8.Fault

/-!
# The call stack

Sixteen slots, of which the first `depth` hold the addresses of the open calls, the oldest first;
what the slots behind them hold does not matter to a program, but a debugger may look at it.

* `active` — the view of a call stack as the list of its open calls;
* `push`, `pop` — open and close the newest call, or fault at the ends of the stack;
* `setDepth?`, `setSlot?` — pokes of a debugger, refused outside of the stack.
-/

namespace Chip8

/-- The slots of the call stack and how many of them are in use. -/
structure CallStack where
  /-- the addresses of calls -/
  slots : Vector Addr 16
  /-- the number of open calls -/
  depth : Nat
deriving DecidableEq

namespace CallStack

/-- The largest number of open calls. -/
def capacity : Nat := 16

/-- No call is open. -/
def empty : CallStack := ⟨Vector.replicate 16 0, 0⟩

/-- The addresses of the open calls, the oldest first. -/
def active (s : CallStack) : List Addr := s.slots.toList.take s.depth

/-- Open a call from `site`. -/
def push (s : CallStack) (site : Addr) : Except Failure CallStack :=
  if h : s.depth < 16 then .ok ⟨s.slots.set s.depth site h, s.depth + 1⟩
  else .error (.fault (.stackOverflow site))

/-- Close the newest call for the instruction at `pc`, and give back where it came from. -/
def pop (s : CallStack) (pc : Addr) : Except Failure (Addr × CallStack) :=
  match s.depth with
  | 0 => .error (.fault (.stackUnderflow pc))
  | newest + 1 =>
    match s.slots[newest]? with
    | some site => .ok (site, { s with depth := newest })
    | none => .error (.breach (.stackSlot newest))

/-- Say that `depth` calls are open. -/
def setDepth? (s : CallStack) (depth : Nat) : Option CallStack :=
  if depth ≤ capacity then some { s with depth } else none

/-- Replace the content of a slot, in use or not. -/
def setSlot? (s : CallStack) (slot : Nat) (site : Addr) : Option CallStack :=
  if h : slot < 16 then some { s with slots := s.slots.set slot site h } else none

/-- Opening a call adds it behind the open ones. -/
theorem active_push {s t : CallStack} {site : Addr} (h : s.push site = .ok t) :
    t.active = s.active ++ [site] := by
  unfold push at h
  split at h
  · next hd =>
    cases h
    have hl : s.depth < s.slots.toList.length := by simpa using hd
    simp only [active, Vector.toList_set, List.take_add_one, List.take_set,
      List.getElem?_set_self hl, Option.toList_some]
    rw [List.set_eq_of_length_le (by simp only [List.length_take]; omega)]
  · cases h

/-- Closing a call takes the newest one away. -/
theorem active_pop {s t : CallStack} {pc site : Addr} (h : s.pop pc = .ok (site, t)) :
    s.active = t.active ++ [site] := by
  unfold pop at h
  split at h
  · cases h
  · next newest hd =>
    split at h
    · next found hs =>
      cases h
      have hs' : s.slots.toList[newest]? = some site := by
        rw [← Vector.getElem?_toList] at hs
        exact hs
      simp only [active, hd, List.take_add_one, hs', Option.toList_some]
    · cases h

end CallStack

end Chip8
