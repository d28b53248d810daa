import Chip8.Terminal.Key

/-!
# The key queue

The part of the program that listens to the keyboard and the part that runs frames share a
`KeyQueue`: one side adds keys at the back, the other takes all of them at once. Each operation is
atomic, so a history of the queue is a list of them.
-/

namespace Chip8.Terminal

/-- The keys that nobody has taken yet, the oldest first. -/
structure KeyQueue where
  /-- the keys in the order of their presses -/
  waiting : List Key
deriving DecidableEq

namespace KeyQueue

/-- No key is waiting. -/
def empty : KeyQueue := ⟨[]⟩

/-- Add a key at the back. -/
def push (q : KeyQueue) (key : Key) : KeyQueue := ⟨q.waiting ++ [key]⟩

/-- Take all keys, the oldest first. -/
def drain (q : KeyQueue) : List Key × KeyQueue := (q.waiting, empty)

/-- An operation on a queue. -/
inductive Op
  /-- add a key -/
  | push (key : Key)
  /-- take all keys -/
  | drain
deriving DecidableEq

/-- Carry out an operation; the keys are those it takes. -/
def apply (q : KeyQueue) : Op → List Key × KeyQueue
  | .push key => ([], q.push key)
  | .drain => q.drain

/-- Carry out operations in order; the keys are those that each of them takes. -/
def applyAll (q : KeyQueue) : List Op → List (List Key) × KeyQueue
  | [] => ([], q)
  | op :: ops =>
    let (taken, next) := q.apply op
    let (others, last) := next.applyAll ops
    (taken :: others, last)

@[simp] theorem waiting_push (q : KeyQueue) (key : Key) :
    (q.push key).waiting = q.waiting ++ [key] := rfl

@[simp] theorem drain_eq (q : KeyQueue) : q.drain = (q.waiting, empty) := rfl

@[simp] theorem apply_push (q : KeyQueue) (key : Key) :
    q.apply (.push key) = ([], q.push key) := rfl

@[simp] theorem apply_drain (q : KeyQueue) : q.apply .drain = (q.waiting, empty) := rfl

@[simp] theorem applyAll_nil (q : KeyQueue) : q.applyAll [] = ([], q) := rfl

@[simp] theorem applyAll_cons (q : KeyQueue) (op : Op) (ops : List Op) :
    q.applyAll (op :: ops) =
      ((q.apply op).1 :: ((q.apply op).2.applyAll ops).1, ((q.apply op).2.applyAll ops).2) := rfl

end KeyQueue

end Chip8.Terminal
