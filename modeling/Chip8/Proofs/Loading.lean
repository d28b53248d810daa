import Chip8.Proofs.Instruction.Table
import Chip8.Proofs.Machine.Obey

/-!
# Loading programs

A program of at most 3232 bytes is put into memory from `0x200` on, over whatever lies there. A
longer one is refused, and the error tells its length. Neither touches anything else: not the bytes
in front of `0x200`, the glyphs among them, not those from `0xEA0` on, and nothing of the machine
but its memory.

Programs can be loaded one after the other. An address then holds the byte of the last program that
puts one there, since a shorter program leaves the end of a longer one in place.

* `Memory.placed?` — the byte that loading a program puts at an address;
* `Machine.Overlaid` — some bytes of memory are covered, and nothing else is different;
* `overlaid_load`, `overlaid_loads` — loading a program does that, and so do several;
* `result_start`, `fetch_start` — programs that a machine is started with;
* `loading_is_all_or_nothing` — all of it.
-/

namespace Chip8

namespace Memory

/-- The byte that loading a program puts at an address, if the program fits and puts one there. -/
def placed? (address : Nat) (program : List UInt8) : Option UInt8 :=
  if program.length ≤ 3232 ∧ 0x200 ≤ address then program[address - 0x200]? else none

variable {m n : Memory} {program : List UInt8} {a : Nat}

/-- The area for programs ends at `0xEA0`. -/
theorem placed?_of_outside (h : a < 0x200 ∨ 0xEA0 ≤ a) : placed? a program = none := by
  rw [placed?]
  split
  · next hin =>
    obtain ⟨hle, hstart⟩ := hin
    exact List.getElem?_eq_none (by omega)
  · rfl

/-- A program that fits places its bytes one behind the other, over what is there. -/
theorem placed?_or (h : program.length ≤ 3232) (byte? : Option UInt8) :
    (placed? a program).or byte? =
      if 0x200 ≤ a ∧ a < 0x200 + program.length then program[a - 0x200]? else byte? := by
  by_cases hin : 0x200 ≤ a ∧ a < 0x200 + program.length
  · have hbyte : a - 0x200 < program.length := by omega
    rw [placed?, if_pos ⟨h, hin.1⟩, if_pos hin, List.getElem?_eq_getElem hbyte, Option.some_or]
  · rw [if_neg hin, placed?]
    split
    · next hp =>
      have hend : program.length ≤ a - 0x200 := by omega
      rw [List.getElem?_eq_none hend, Option.none_or]
    · exact Option.none_or

/-- A program that does not fit places nothing. -/
theorem placed?_of_lt (h : 3232 < program.length) : placed? a program = none :=
  if_neg fun hin => absurd hin.1 (Nat.not_le.2 h)

/-- What was loaded lies over what was there. -/
theorem get?_of_loadProgram (h : m.loadProgram program = .ok n) (a : Nat) :
    n.get? a = (placed? a program).or (m.get? a) := by
  obtain ⟨hle, rfl⟩ := loadProgram_eq_ok_iff.1 h
  have hle' : program.length ≤ 3232 := hle
  have hstart : programStart = 0x200 := rfl
  rw [getElem?_put, placed?_or hle', hstart]
  -- a program that fits ends inside of memory
  have hend : (0x200 ≤ a ∧ a < 0x200 + program.length ∧ a < 4096) ↔
      0x200 ≤ a ∧ a < 0x200 + program.length := by omega
  simp only [hend]

end Memory

namespace Machine

/-- The bytes that `cover` gives lie over those of `m` in the memory of `n`, and nothing else of the
two machines is different. -/
structure Overlaid (m : Machine) (cover : Nat → Option UInt8) (n : Machine) : Prop where
  /-- nothing but memory is different -/
  others : n = { m with memory := n.memory }
  /-- an address holds the byte that covers it, or else what it held -/
  byte : ∀ a, n.memory.get? a = (cover a).or (m.memory.get? a)

variable {m n k : Machine} {program : List UInt8} {cover cover' : Nat → Option UInt8}

/-- Nothing is covered by nothing. -/
theorem overlaid_self : m.Overlaid (fun _ => none) m where
  others := rfl
  byte _ := rfl

/-- What is covered later lies over what was covered before. -/
theorem Overlaid.trans (h : m.Overlaid cover n) (h' : n.Overlaid cover' k) :
    m.Overlaid (fun a => (cover' a).or (cover a)) k where
  others := by rw [h'.others, h.others]
  byte a := by rw [h'.byte, h.byte, Option.or_assoc]

/-! ## Loading one program, and several -/

/-- A program that fits is loaded. -/
theorem obey_load_of_le (h : program.length ≤ 3232) :
    m.obey (.load program) =
      ⟨.done, { m with memory := m.memory.put Memory.programStart program },
        [.loaded program.length]⟩ := by
  rw [obey, load, Memory.loadProgram_eq_ok_iff.2 ⟨h, rfl⟩]
  rfl

/-- A program that does not fit is refused, and leaves the machine as it is. -/
theorem obey_load_of_lt (h : 3232 < program.length) :
    m.obey (.load program) = ⟨.refused (.tooLarge program.length 3232), m, []⟩ := by
  rw [obey, load, Memory.loadProgram_eq_error_iff.2 ⟨h, rfl⟩]
  rfl

/-- A program is loaded exactly if it fits. -/
theorem reply_load_eq_done_iff :
    (m.obey (.load program)).reply = .done ↔ program.length ≤ 3232 := by
  rcases Nat.lt_or_ge 3232 program.length with hlt | hle
  · rw [obey_load_of_lt hlt]
    exact ⟨nofun, fun hle => absurd hle (Nat.not_le.2 hlt)⟩
  · rw [obey_load_of_le hle]
    exact iff_of_true rfl hle

/-- A program is refused exactly if it does not fit. -/
theorem reply_load_eq_refused_iff {e : LoadError} :
    (m.obey (.load program)).reply = .refused e ↔
      3232 < program.length ∧ e = .tooLarge program.length 3232 := by
  rcases Nat.lt_or_ge 3232 program.length with hlt | hle
  · rw [obey_load_of_lt hlt]
    exact ⟨fun h => ⟨hlt, (Reply.refused.inj h).symm⟩, fun h => congrArg Reply.refused h.2.symm⟩
  · rw [obey_load_of_le hle]
    exact ⟨nofun, fun h => absurd h.1 (Nat.not_lt.2 hle)⟩

/-- **Loading a program** covers memory with the bytes that the program places, if it fits and if it
does not. -/
theorem overlaid_load (m : Machine) (program : List UInt8) :
    m.Overlaid (fun a => Memory.placed? a program) (m.obey (.load program)).machine := by
  rcases Nat.lt_or_ge 3232 program.length with hlt | hle
  · rw [obey_load_of_lt hlt]
    refine ⟨rfl, fun a => ?_⟩
    rw [Memory.placed?_of_lt hlt, Option.none_or]
  · rw [obey_load_of_le hle]
    exact ⟨rfl, Memory.get?_of_loadProgram (Memory.loadProgram_eq_ok_iff.2 ⟨hle, rfl⟩)⟩

/-- **Loading programs** one after the other covers memory with the bytes that the last of them
place. -/
theorem overlaid_loads (m : Machine) (programs : List (List UInt8)) :
    m.Overlaid (fun a => programs.reverse.findSome? (Memory.placed? a))
      (m.obeyAll (programs.map .load)) := by
  induction programs generalizing m with
  | nil => exact overlaid_self
  | cons program rest ih =>
    have h := (overlaid_load m program).trans (ih (m.obey (.load program)).machine)
    simp only [List.reverse_cons, List.findSome?_append, List.findSome?_singleton]
    exact h

/-! ## Starting with a program -/

/-- A machine is started by loading its program. -/
theorem result_start (program : List UInt8) (dialect : Dialect) (dice : Dice) :
    (start program dialect dice).result = (boot dialect dice).load program := by
  rw [start]
  cases (boot dialect dice).load program with
  | error e => rfl
  | ok m => rfl

/-- A machine cannot be started exactly with a program that does not fit. -/
theorem start_eq_error_iff {dialect : Dialect} {dice : Dice} {e : LoadError} :
    (start program dialect dice).result = .error e ↔
      3232 < program.length ∧ e = .tooLarge program.length 3232 := by
  rw [result_start, load, map_eq_error_iff]
  exact Memory.loadProgram_eq_error_iff

/-- A machine that was started with a program fetches the words that the bytes of the program
make. -/
theorem fetch_start {dialect : Dialect} {dice : Dice}
    (h : (start program dialect dice).result = .ok m) {i : Nat} (hi : i + 1 < program.length) :
    m.memory.fetch (UInt16.ofNat (0x200 + i)) = .ok (.ofBytes program[i] program[i + 1]) := by
  obtain ⟨hle, rfl⟩ := start_eq_ok_iff.1 h
  have hload := Memory.loadProgram_eq_ok_iff (m := .initial).2 ⟨hle, rfl⟩
  have hbyte (j : Nat) (hj : j < program.length) :
      (Memory.initial.put Memory.programStart program).get? (0x200 + j) = some program[j] := by
    rw [Memory.get?_of_loadProgram hload, Memory.placed?_or hle, if_pos (by omega),
      Nat.add_sub_cancel_left, List.getElem?_eq_getElem hj]
  have hpc : (UInt16.ofNat (0x200 + i)).toNat = 0x200 + i :=
    UInt16.toNat_ofNat_of_lt' (Nat.lt_of_lt_of_le (m := 4096) (by omega) (by decide))
  refine Instruction.fetch_of_get? ?_ ?_
  · rw [hpc]
    exact hbyte i (Nat.lt_of_succ_lt hi)
  · rw [hpc]
    exact hbyte (i + 1) hi

/-- **Loading is all or nothing.** On any machine exactly the programs of at most 3232 bytes can be
loaded. One of them is then found at `0x200`, and the other bytes and the rest of the machine are as
before; after any other program the machine is as before, and the error tells the length. So each
program of several lies over those loaded before it, and none of them reaches in front of `0x200`
or to `0xEA0`. A machine is refused exactly the programs that cannot be loaded, with the same error,
and if it is started it fetches the words that the bytes of its program make. -/
theorem loading_is_all_or_nothing (m : Machine) (program : List UInt8) :
    let r := m.obey (.load program)
    (r.reply = .done ↔ program.length ≤ 3232) ∧
    (program.length ≤ 3232 →
      r.machine = { m with memory := r.machine.memory } ∧
      ∀ a, r.machine.memory.get? a =
        if 0x200 ≤ a ∧ a < 0x200 + program.length then program[a - 0x200]?
        else m.memory.get? a) ∧
    (3232 < program.length →
      r.reply = .refused (.tooLarge program.length 3232) ∧ r.machine = m) ∧
    (∀ programs : List (List UInt8),
      m.Overlaid (fun a => programs.reverse.findSome? (Memory.placed? a))
        (m.obeyAll (programs.map .load)) ∧
      ∀ a, a < 0x200 ∨ 0xEA0 ≤ a →
        (m.obeyAll (programs.map .load)).memory.get? a = m.memory.get? a) ∧
    ∀ dialect dice,
      (∀ e, (start program dialect dice).result = .error e ↔ r.reply = .refused e) ∧
      ∀ n, (start program dialect dice).result = .ok n → ∀ i (_ : i + 1 < program.length), ∃ w,
        n.memory.fetch (UInt16.ofNat (0x200 + i)) = .ok w ∧
          w.toNat = 256 * program[i].toNat + program[i + 1].toNat := by
  intro r
  have hr := overlaid_load m program
  refine ⟨reply_load_eq_done_iff, fun hle => ⟨hr.others, fun a => ?_⟩, fun hlt => ⟨?_, ?_⟩,
    fun programs => ⟨overlaid_loads m programs, fun a ha => ?_⟩,
    fun dialect dice => ⟨fun e => ?_, fun n hn i hi => ?_⟩⟩
  · rw [hr.byte, Memory.placed?_or hle]
  · exact reply_load_eq_refused_iff.2 ⟨hlt, rfl⟩
  · exact congrArg Response.machine (obey_load_of_lt hlt)
  · have hnone : programs.reverse.findSome? (Memory.placed? a) = none :=
      List.findSome?_eq_none_iff.2 fun _ _ => Memory.placed?_of_outside ha
    rw [(overlaid_loads m programs).byte, hnone, Option.none_or]
  · exact start_eq_error_iff.trans reply_load_eq_refused_iff.symm
  · exact ⟨_, fetch_start hn hi, Word.toNat_ofBytes _ _⟩

/-- A program of one byte over one of four, and a program that is one byte too long. -/
theorem shorter_program_lies_over_longer :
    let m := boot {} .loaded
    let twice := m.obeyAll [.load [0x60, 0x05, 0x00, 0xE0], .load [0xA2]]
    twice.memory.get? 0x200 = some 0xA2 ∧ twice.memory.get? 0x201 = some 0x05 ∧
      twice.pc = 0x200 ∧
      (twice.obey (.load (List.replicate 3233 0))).reply = .refused (.tooLarge 3233 3232) := by
  intro m twice
  obtain ⟨-, -, -, hloads, -⟩ := loading_is_all_or_nothing m []
  obtain ⟨htwice, -⟩ := hloads [[0x60, 0x05, 0x00, 0xE0], [0xA2]]
  obtain ⟨-, -, hrefused, -⟩ := loading_is_all_or_nothing twice (List.replicate 3233 0)
  have hlong : (List.replicate 3233 (0 : UInt8)).length = 3233 := List.length_replicate
  rw [hlong] at hrefused
  exact ⟨(htwice.byte 0x200).trans rfl, (htwice.byte 0x201).trans rfl,
    congrArg Machine.pc htwice.others, (hrefused (by decide)).1⟩

end Machine

end Chip8
