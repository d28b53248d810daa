import Chip8.Terminal.KeyQueue

/-!
# Keys arrive once and in order

Two sides share a queue. One listens to the keyboard and adds each key that is pressed, the other
takes all keys before it runs a frame. Neither waits for the other, so that a frame may find no key
or many, and any order of their steps is possible as long as each side makes its own steps one after
the other. A step is one operation on the queue, and a list of operations is one such order.

In each of them no key is lost, taken twice or overtaken by another: at any time the keys that were
taken, followed by those that wait, are the keys that were added so far.

* `KeyQueue.pushed`, `drained` — the keys that operations add, and what the drains among them take;
* `KeyQueue.apply_conserves`, `applyAll_conserves` — an operation loses nothing, and so do many;
* `KeyQueue.drained_concat` — a drain takes what was added since the drain before;
* `Exchange`, `Exchange.Run` — the two sides with the queue between them, and their steps;
* `Exchange.run_iff` — which orders are possible, and what becomes of them;
* `Exchange.keys_arrive_in_order` — all of it.
-/

namespace Chip8.Terminal

namespace KeyQueue

/-- The keys that an operation adds. -/
def Op.keys : Op → List Key
  | push key => [key]
  | drain => []

/-- The keys that operations add, in order. -/
def pushed (ops : List Op) : List Key := ops.flatMap Op.keys

/-- What each of the drains among operations takes, in order. -/
def drained (q : KeyQueue) (ops : List Op) : List (List Key) :=
  (ops.zip (q.applyAll ops).1).filterMap fun
    | (.drain, keys) => some keys
    | (.push _, _) => none

variable {q : KeyQueue} {op : Op} {ops : List Op} {key : Key}

@[simp] theorem pushed_nil : pushed [] = [] := rfl

@[simp] theorem pushed_cons : pushed (op :: ops) = op.keys ++ pushed ops := rfl

@[simp] theorem drained_nil : q.drained [] = [] := rfl

@[simp] theorem drained_push : q.drained (.push key :: ops) = (q.push key).drained ops := rfl

@[simp] theorem drained_drain : q.drained (.drain :: ops) = q.waiting :: empty.drained ops := rfl

/-- The first of some operations drains what it would drain alone. -/
theorem drained_cons : q.drained (op :: ops) = q.drained [op] ++ (q.apply op).2.drained ops := by
  cases op with
  | push key => rfl
  | drain => rfl

/-- Nothing is taken but by drains. -/
theorem flatten_drained : (q.drained ops).flatten = (q.applyAll ops).1.flatten := by
  induction ops generalizing q with
  | nil => rfl
  | cons op rest ih =>
    cases op with
    | push key => simp [ih]
    | drain => simp [ih]

/-! ## Nothing is lost -/

/-- **An operation** loses no key: what it takes and what it leaves is what was waiting and what it
adds. -/
theorem apply_conserves (q : KeyQueue) (op : Op) :
    (q.apply op).1 ++ (q.apply op).2.waiting = q.waiting ++ op.keys := by
  cases op with
  | push key => rfl
  | drain => rfl

/-- **Operations** lose no key. -/
theorem applyAll_conserves (q : KeyQueue) (ops : List Op) :
    (q.applyAll ops).1.flatten ++ (q.applyAll ops).2.waiting = q.waiting ++ pushed ops := by
  induction ops generalizing q with
  | nil => exact (List.append_nil _).symm
  | cons op rest ih =>
    calc (q.apply op).1 ++ ((q.apply op).2.applyAll rest).1.flatten ++
          ((q.apply op).2.applyAll rest).2.waiting
      _ = (q.apply op).1 ++ ((q.apply op).2.waiting ++ pushed rest) := by
        rw [List.append_assoc, ih]
      _ = q.waiting ++ (op.keys ++ pushed rest) := by
        rw [← List.append_assoc, apply_conserves, List.append_assoc]

/-- **A drain** takes what was added since the drain before, and what was added since the last one
is waiting. What was waiting at first goes to the first drain. -/
theorem drained_concat (q : KeyQueue) (ops : List Op) :
    q.drained ops ++ [(q.applyAll ops).2.waiting] =
      ((ops.splitOn .drain).map pushed).modifyHead (q.waiting ++ ·) := by
  induction ops generalizing q with
  | nil => simp
  | cons op rest ih =>
    obtain ⟨first, others, hsplit⟩ := List.exists_cons_of_ne_nil (List.splitOn_ne_nil .drain rest)
    rw [hsplit] at ih
    rw [List.splitOn_cons_eq_if_modifyHead, hsplit, applyAll_cons]
    cases op with
    | push key =>
      -- the key is the first of those that go to the next drain
      rw [drained_push, apply_push, ih]
      simp [Op.keys]
    | drain =>
      rw [drained_drain, apply_drain, List.cons_append, ih]
      simp [empty]

end KeyQueue

open KeyQueue

/-- The two sides of a queue, and the queue between them. -/
@[ext] structure Exchange where
  /-- the keys that will be added, the next one first -/
  ahead : List Key
  /-- the queue -/
  queue : KeyQueue
  /-- what was taken for each frame so far, in order -/
  taken : List (List Key)

namespace Exchange

/-- Nothing was done yet. -/
def opening (keys : List Key) : Exchange := ⟨keys, .empty, []⟩

/-- One of the two sides makes a step. -/
inductive Step : Exchange → Op → Exchange → Prop
  /-- the next key is added -/
  | push {key : Key} {ahead : List Key} {queue : KeyQueue} {taken : List (List Key)} :
      Step ⟨key :: ahead, queue, taken⟩ (.push key) ⟨ahead, queue.push key, taken⟩
  /-- all keys are taken for a frame -/
  | drain {ahead : List Key} {queue : KeyQueue} {taken : List (List Key)} :
      Step ⟨ahead, queue, taken⟩ .drain ⟨ahead, queue.drain.2, taken ++ [queue.drain.1]⟩

/-- The two sides make steps in some order. -/
inductive Run : Exchange → List Op → Exchange → Prop
  /-- no step is made -/
  | nil {e : Exchange} : Run e [] e
  /-- one of the two sides makes the first step -/
  | cons {e f g : Exchange} {op : Op} {ops : List Op} (hs : Step e op f) (hr : Run f ops g) :
      Run e (op :: ops) g

variable {e f g : Exchange} {op : Op} {ops : List Op}

/-- A step is an operation on the queue that adds the next key, or takes the keys for a frame. -/
theorem step_iff :
    Step e op f ↔ op.keys ++ f.ahead = e.ahead ∧ f.queue = (e.queue.apply op).2 ∧
      f.taken = e.taken ++ e.queue.drained [op] := by
  constructor
  · rintro (- | -)
    · exact ⟨rfl, rfl, (List.append_nil _).symm⟩
    · exact ⟨rfl, rfl, rfl⟩
  · obtain ⟨ahead, queue, taken⟩ := e
    obtain ⟨ahead', queue', taken'⟩ := f
    rintro ⟨hahead, hqueue, htaken⟩
    cases op with
    | push key =>
      obtain rfl : key :: ahead' = ahead := hahead
      obtain rfl : queue' = queue.push key := hqueue
      obtain rfl : taken' = taken := htaken.trans (List.append_nil _)
      exact .push
    | drain =>
      obtain rfl : ahead' = ahead := hahead
      obtain rfl : queue' = queue.drain.2 := hqueue
      obtain rfl : taken' = taken ++ [queue.drain.1] := htaken
      exact .drain

/-- **A run** of the two sides is a list of operations on the queue that adds the keys in order. -/
theorem run_iff :
    Run e ops g ↔ pushed ops ++ g.ahead = e.ahead ∧ g.queue = (e.queue.applyAll ops).2 ∧
      g.taken = e.taken ++ e.queue.drained ops := by
  induction ops generalizing e with
  | nil =>
    constructor
    · rintro ⟨⟩
      exact ⟨rfl, rfl, (List.append_nil _).symm⟩
    · rintro ⟨hahead, hqueue, htaken⟩
      have heq : g = e := Exchange.ext hahead hqueue (htaken.trans (List.append_nil _))
      exact heq ▸ .nil
  | cons op rest ih =>
    constructor
    · rintro (- | ⟨hs, hr⟩)
      obtain ⟨hahead, hqueue, htaken⟩ := step_iff.1 hs
      obtain ⟨hahead', hqueue', htaken'⟩ := ih.1 hr
      refine ⟨?_, ?_, ?_⟩
      · rw [pushed_cons, List.append_assoc, hahead', hahead]
      · rw [hqueue', hqueue, applyAll_cons]
      · rw [htaken', htaken, hqueue, List.append_assoc, ← drained_cons]
    · rintro ⟨hahead, hqueue, htaken⟩
      rw [pushed_cons, List.append_assoc] at hahead
      rw [drained_cons, ← List.append_assoc] at htaken
      have hs : Step e op ⟨pushed rest ++ g.ahead, _, _⟩ := step_iff.2 ⟨hahead, rfl, rfl⟩
      exact .cons hs (ih.2 ⟨rfl, hqueue, htaken⟩)

/-- **Keys arrive once and in order.** The two sides can make their steps in any order in which the
keys are added as they come. At any time the keys that were taken, followed by those that wait, are
the keys that were added so far, and these followed by the keys ahead are all keys. The keys for a
frame are those that were added since the frame before it. Taking the keys leaves none, so that
nothing is taken by a frame if nothing was added since the frame before. -/
theorem keys_arrive_in_order (keys : List Key) (ops : List Op) :
    ((∃ e, Run (opening keys) ops e) ↔ pushed ops <+: keys) ∧
    ∀ e, Run (opening keys) ops e →
      e.taken.flatten ++ e.queue.waiting = pushed ops ∧
      pushed ops ++ e.ahead = keys ∧
      e.taken ++ [e.queue.waiting] = (ops.splitOn .drain).map pushed ∧
      (e.taken = KeyQueue.empty.drained ops ∧ e.queue = (KeyQueue.empty.applyAll ops).2) ∧
      ∀ f, Step e .drain f →
        f.queue = .empty ∧ ∀ g, Step f .drain g → g.taken = f.taken ++ [[]] := by
  refine ⟨⟨fun ⟨e, h⟩ => ⟨e.ahead, (run_iff.1 h).1⟩, fun ⟨ahead, hahead⟩ => ?_⟩, fun e h => ?_⟩
  · exact ⟨⟨ahead, _, _⟩, run_iff.2 ⟨hahead, rfl, rfl⟩⟩
  · obtain ⟨hahead, hqueue, htaken⟩ :
        pushed ops ++ e.ahead = keys ∧ e.queue = (KeyQueue.empty.applyAll ops).2 ∧
          e.taken = KeyQueue.empty.drained ops := run_iff.1 h
    refine ⟨?_, hahead, ?_, ⟨htaken, hqueue⟩, fun f hf => ?_⟩
    · rw [htaken, hqueue, flatten_drained]
      exact applyAll_conserves .empty ops
    · rw [htaken, hqueue, drained_concat]
      exact congrFun List.modifyHead_id _
    · obtain ⟨-, hempty, -⟩ := step_iff.1 hf
      refine ⟨hempty, fun g hg => ?_⟩
      obtain ⟨-, -, hg⟩ := step_iff.1 hg
      rw [hg, hempty]
      rfl

/-- Two keys between the first frame and the second, none before the third, and one behind it. -/
theorem two_keys_for_one_frame :
    let keys : List Key := [.char 'q', .escape, .char 'p']
    let ops : List Op :=
      [.drain, .push (.char 'q'), .push .escape, .drain, .drain, .push (.char 'p')]
    ∃ e, Run (opening keys) ops e ∧ e.ahead = [] ∧
      e.taken ++ [e.queue.waiting] = [[], [.char 'q', .escape], [], [.char 'p']] := by
  intro keys ops
  obtain ⟨⟨-, hpossible⟩, harrive⟩ := keys_arrive_in_order keys ops
  obtain ⟨e, he⟩ := hpossible List.prefix_rfl
  obtain ⟨-, hahead, hframes, -⟩ := harrive e he
  exact ⟨e, he, List.append_right_eq_self.1 hahead, hframes.trans (by decide)⟩

end Exchange

end Chip8.Terminal
