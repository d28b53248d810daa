import Chip8.Machine.Command
import Chip8.Machine.Window
import Chip8.Proofs.Instruction.Table
import Chip8.Proofs.Span

/-!
# What a debugger sees

A window shows the bytes from 120 in front of the program counter up to and with 121 behind it, as
far as memory has them, and pairs them up from its start on. The pairs are the words that could be
fetched there.

The word at the program counter is among them whenever the distance to the start is even. It is,
unless the start was moved up to the first address of memory: then a program counter that is odd
falls between two words, and none is marked.

* `Memory.slice_window` — a window is a slice whose bounds were moved into memory;
* `Window.length_pairs`, `getElem?_pairs` — pairing up bytes;
* `filter_current_of_eq`, `filter_current_of_ne` — the word that is marked, if one is;
* `Window.Shows`, `window_shows_surroundings` — what is shown, for each program counter;
* `window_marks_current` — whether the word at the program counter is marked.
-/

namespace Chip8

namespace Memory

variable {m : Memory} {start stop : Nat}

theorem get?_eq_none_of_le {a : Nat} (h : size ≤ a) : m.get? a = none :=
  Vector.getElem?_eq_none h

/-- A window holds the bytes of memory in order, up to its end or the end of memory. -/
theorem getElem?_window {k : Nat} (h : start + k < stop) :
    (m.window start stop)[k]? = m.get? (start + k) := by
  rw [window, getElem?_takeFrom, if_pos (by omega)]

/-- **A window is a slice** that is granted: first its end is moved into memory, and then its start
in front of its end. -/
theorem slice_window :
    m.slice (min start (min stop size)) (min stop size - min start (min stop size)) =
      .ok (m.window start stop) := by
  have hsize : size = 4096 := rfl
  refine slice_eq_ok_iff.2 ⟨by omega, ?_⟩
  apply List.ext_getElem?
  intro k
  rw [window, getElem?_takeFrom, getElem?_takeFrom]
  by_cases hk : start + k < min stop size
  · rw [if_pos (by omega), if_pos (by omega), Nat.min_eq_left (by omega)]
  · -- behind the end of the slice the window has ended, or memory has
    rw [if_neg (show ¬k < min stop size - min start (min stop size) by omega)]
    split
    · exact get?_eq_none_of_le (by omega)
    · rfl

end Memory

namespace Window

variable {pc : Addr}

/-! ## Pairs of bytes -/

/-- Two bytes make a word, and a single byte makes none. -/
theorem length_pairs : ∀ (address : Nat) (bytes : List UInt8),
    (pairs pc address bytes).length = bytes.length / 2
  | _, [] => rfl
  | _, [_] => by simp [pairs]
  | address, high :: low :: rest => by
    rw [pairs, List.length_cons, length_pairs, List.length_cons, List.length_cons]
    omega

/-- The words are made of the bytes at even distances and the bytes behind them. -/
theorem getElem?_pairs {high low : UInt8} : ∀ {address n : Nat} {bytes : List UInt8},
    bytes[2 * n]? = some high → bytes[2 * n + 1]? = some low →
      (pairs pc address bytes)[n]? =
        some ⟨address + 2 * n, .ofBytes high low, address + 2 * n == pc.toNat⟩
  | _, _, [], hhigh, _ => by cases hhigh
  | _, _, [_], _, hlow => by cases hlow
  | address, 0, first :: second :: rest, hhigh, hlow => by
    obtain rfl : first = high := Option.some.inj hhigh
    obtain rfl : second = low := Option.some.inj hlow
    rfl
  | address, n + 1, first :: second :: rest, hhigh, hlow => by
    have hhigh' : rest[2 * n]? = some high := hhigh
    have hlow' : rest[2 * n + 1]? = some low := hlow
    rw [pairs, List.getElem?_cons_succ, getElem?_pairs hhigh' hlow',
      show address + 2 + 2 * n = address + 2 * (n + 1) by omega]

/-- No word is marked if none of them starts at the program counter. -/
theorem filter_current_of_ne : ∀ {address : Nat} (bytes : List UInt8),
    (∀ n, address + 2 * n ≠ pc.toNat) → (pairs pc address bytes).filter (·.current) = []
  | _, [], _ | _, [_], _ => rfl
  | address, high :: low :: rest, h => by
    have hne : address ≠ pc.toNat := h 0
    rw [pairs, List.filter_cons_of_neg (by simpa using hne)]
    refine filter_current_of_ne rest fun n => ?_
    rw [show address + 2 + 2 * n = address + 2 * (n + 1) by omega]
    exact h (n + 1)

/-- Only the word that starts at the program counter is marked, if there are bytes for it. -/
theorem filter_current_of_eq : ∀ {address n : Nat} (bytes : List UInt8),
    address + 2 * n = pc.toNat →
      (pairs pc address bytes).filter (·.current) = (pairs pc address bytes)[n]?.toList
  | _, _, [], _ | _, _, [_], _ => rfl
  | address, 0, high :: low :: rest, h => by
    -- all the others start behind it
    have hrest : (pairs pc (address + 2) rest).filter (·.current) = [] :=
      filter_current_of_ne rest fun n => by omega
    rw [pairs, List.filter_cons_of_pos (by simpa using h), hrest]
    rfl
  | address, n + 1, high :: low :: rest, h => by
    have hne : address ≠ pc.toNat := by omega
    rw [pairs, List.filter_cons_of_neg (by simpa using hne), List.getElem?_cons_succ]
    exact filter_current_of_eq rest (by omega)

/-- A window shows the memory around a program counter. -/
structure Shows (w : Window) (memory : Memory) (pc : Addr) : Prop where
  /-- it starts 120 bytes in front of the program counter, or where memory starts -/
  start : (w.start : Int) = max ((pc.toNat : Int) - 120) 0
  /-- it goes up to and with 121 bytes behind the program counter, or to the end of memory -/
  covers : ∀ a, (∃ k < w.bytes.length, w.start + k = a) ↔
    (pc.toNat : Int) - 120 ≤ a ∧ a ≤ pc.toNat + 121 ∧ a < Memory.size
  /-- its bytes are those of memory -/
  byte : ∀ k < w.bytes.length, ∃ b, memory.get? (w.start + k) = some b ∧ w.bytes[k]? = some b
  /-- it is empty if all of this is past the end of memory -/
  empty_iff : w.bytes = [] ↔ 4216 ≤ pc.toNat
  /-- cutting it out of memory stays in the bounds of memory -/
  bounds : memory.slice (min w.start (min (pc.toNat + 122) Memory.size))
    (min (pc.toNat + 122) Memory.size - min w.start (min (pc.toNat + 122) Memory.size)) =
      .ok w.bytes
  /-- there is a word for each two bytes -/
  length_words : w.words.length = w.bytes.length / 2
  /-- the words are those that can be fetched at every other address from the start on -/
  word : ∀ n < w.words.length, ∃ high low word current,
    w.words[n]? = some ⟨w.start + 2 * n, word, current⟩ ∧
    memory.get? (w.start + 2 * n) = some high ∧ memory.get? (w.start + 2 * n + 1) = some low ∧
    word.toNat = 256 * high.toNat + low.toNat ∧
    memory.fetch (UInt16.ofNat (w.start + 2 * n)) = .ok word ∧
    (current = true ↔ w.start + 2 * n = pc.toNat)
  /-- at most one of them is marked -/
  marked : (w.words.filter (·.current)).length ≤ 1

end Window

namespace Machine

variable {m : Machine}

theorem start_window (m : Machine) : m.window.start = m.pc.toNat - 120 := rfl

theorem bytes_window (m : Machine) :
    m.window.bytes = m.memory.window m.window.start (m.pc.toNat + 122) := by
  simp only [window, Window.radius, Nat.add_assoc, Nat.reduceAdd]

theorem words_window (m : Machine) :
    m.window.words = Window.pairs m.pc m.window.start m.window.bytes := rfl

/-- A window ends 121 bytes behind the program counter, unless memory ends before. -/
theorem length_window (m : Machine) :
    m.window.bytes.length = min (m.pc.toNat + 122) Memory.size - (m.pc.toNat - 120) := by
  have hsize : Memory.size = 4096 := rfl
  rw [bytes_window, start_window, Memory.window, Memory.length_takeFrom]
  omega

/-- The bytes of a window are those of memory. -/
theorem getElem?_bytes_window {k : Nat} (h : k < m.window.bytes.length) :
    m.window.bytes[k]? = m.memory.get? (m.window.start + k) := by
  rw [length_window] at h
  rw [bytes_window, start_window, Memory.getElem?_window (by omega)]

/-- Each of its bytes is a byte that memory has. -/
theorem exists_byte_window {k : Nat} (h : k < m.window.bytes.length) :
    ∃ b, m.memory.get? (m.window.start + k) = some b ∧ m.window.bytes[k]? = some b :=
  ⟨m.window.bytes[k], by rw [← getElem?_bytes_window h, List.getElem?_eq_getElem h],
    List.getElem?_eq_getElem h⟩

/-- The words of a window can be fetched from memory. -/
theorem exists_word_window {n : Nat} (h : n < m.window.words.length) :
    ∃ high low word, m.window.words[n]? =
        some ⟨m.window.start + 2 * n, word, m.window.start + 2 * n == m.pc.toNat⟩ ∧
      m.memory.get? (m.window.start + 2 * n) = some high ∧
      m.memory.get? (m.window.start + 2 * n + 1) = some low ∧
      word.toNat = 256 * high.toNat + low.toNat ∧
      m.memory.fetch (UInt16.ofNat (m.window.start + 2 * n)) = .ok word := by
  rw [words_window, Window.length_pairs] at h
  obtain ⟨high, hhigh, hhigh'⟩ := exists_byte_window (m := m) (k := 2 * n) (by omega)
  obtain ⟨low, hlow, hlow'⟩ := exists_byte_window (m := m) (k := 2 * n + 1) (by omega)
  have haddress : (UInt16.ofNat (m.window.start + 2 * n)).toNat = m.window.start + 2 * n := by
    refine UInt16.toNat_ofNat_of_lt' (Nat.lt_trans (m := Memory.size) ?_ (by decide))
    refine Nat.lt_of_not_le fun hle => ?_
    rw [Memory.get?_eq_none_of_le hle] at hhigh
    cases hhigh
  rw [← Nat.add_assoc] at hlow
  refine ⟨high, low, .ofBytes high low, ?_, hhigh, hlow, Word.toNat_ofBytes high low, ?_⟩
  · rw [words_window, Window.getElem?_pairs hhigh' hlow']
  · exact Instruction.fetch_of_get? (by rw [haddress, hhigh]) (by rw [haddress, hlow])

/-- At most one word of a window is marked. -/
theorem length_filter_current_le (m : Machine) :
    (m.window.words.filter (·.current)).length ≤ 1 := by
  rw [words_window]
  by_cases h : ∃ n, m.window.start + 2 * n = m.pc.toNat
  · obtain ⟨n, hn⟩ := h
    rw [Window.filter_current_of_eq _ hn]
    exact Option.length_toList_le
  · rw [Window.filter_current_of_ne _ fun n hn => h ⟨n, hn⟩]
    exact Nat.zero_le 1

/-- **A window shows the memory around the program counter**, wherever that is. -/
theorem window_shows_surroundings (m : Machine) : m.window.Shows m.memory m.pc where
  start := by
    rw [start_window]
    omega
  covers := by
    intro a
    have hsize : Memory.size = 4096 := rfl
    rw [length_window, start_window]
    refine ⟨fun ⟨k, hk, hka⟩ => by omega, fun ha => ⟨a - (m.pc.toNat - 120), ?_, ?_⟩⟩ <;> omega
  byte := fun _ => exists_byte_window
  empty_iff := by
    have hsize : Memory.size = 4096 := rfl
    rw [← List.length_eq_zero_iff, length_window]
    omega
  bounds := by rw [bytes_window, Memory.slice_window]
  length_words := Window.length_pairs _ _
  word := by
    intro n hn
    obtain ⟨high, low, word, hword, hhigh, hlow, hnat, hfetch⟩ := exists_word_window hn
    exact ⟨high, low, word, _, hword, hhigh, hlow, hnat, hfetch, beq_iff_eq⟩
  marked := length_filter_current_le m

/-- A word that starts at the program counter is the one that is marked. -/
theorem filter_current_window {n : Nat} (h : n < m.window.words.length)
    (hn : m.window.start + 2 * n = m.pc.toNat) :
    ∃ word, m.memory.fetch m.pc = .ok word ∧
      m.window.words.filter (·.current) = [⟨m.pc.toNat, word, true⟩] := by
  obtain ⟨-, -, word, hword, -, -, -, hfetch⟩ := exists_word_window h
  rw [hn, UInt16.ofNat_toNat] at hfetch
  rw [hn, beq_self_eq_true, words_window] at hword
  refine ⟨word, hfetch, ?_⟩
  rw [words_window, Window.filter_current_of_eq _ hn, hword]
  rfl

/-- **The word at the program counter is marked**, and no other, whenever it can be fetched, unless
the program counter is odd and the window starts with memory. Then none is marked. -/
theorem window_marks_current {m : Machine} (h : m.pc.toNat ≤ 4094) :
    ∃ word, m.memory.fetch m.pc = .ok word ∧
      m.window.words.filter (·.current) =
        if 120 ≤ m.pc.toNat ∨ m.pc.toNat % 2 = 0 then [⟨m.pc.toNat, word, true⟩] else [] := by
  by_cases heven : 120 ≤ m.pc.toNat ∨ m.pc.toNat % 2 = 0
  · simp only [if_pos heven]
    apply filter_current_window (n := (m.pc.toNat - (m.pc.toNat - 120)) / 2)
    · have hsize : Memory.size = 4096 := rfl
      rw [words_window, Window.length_pairs, length_window]
      omega
    · rw [start_window]
      omega
  · simp only [if_neg heven, words_window]
    rcases hfetch : m.memory.fetch m.pc with f | word
    · have hpc := (Memory.fetch_eq_error_iff.1 hfetch).1
      omega
    · refine ⟨word, rfl, Window.filter_current_of_ne _ fun n => ?_⟩
      rw [start_window]
      omega

/-- The last word of memory is marked when the program counter is there. -/
theorem last_word_is_marked :
    let m := (boot {} .loaded).obeyAll [.setCounter 4094]
    m.pc.toNat ≤ 4094 ∧ m.window.words.filter (·.current) = [⟨4094, 0, true⟩] := by
  intro m
  have hpc : m.pc.toNat = 4094 := rfl
  have hle : m.pc.toNat ≤ 4094 := Nat.le_of_eq hpc
  have hbytes : m.memory.get? m.pc.toNat = some 0 ∧ m.memory.get? (m.pc.toNat + 1) = some 0 := by
    decide +kernel
  have hfetch : m.memory.fetch m.pc = .ok (.ofBytes 0 0) :=
    Instruction.fetch_of_get? hbytes.1 hbytes.2
  obtain ⟨word, hword, hmarked⟩ := window_marks_current hle
  cases hfetch.symm.trans hword
  exact ⟨hle, hmarked⟩

/-- **A word between two words is not marked.** After a jump to the address one, the word there can
be fetched, but the words of the window start at even addresses. -/
theorem odd_counter_is_unmarked :
    ¬∀ m : Machine, m.pc.toNat ≤ 4094 → ∃ word, m.memory.fetch m.pc = .ok word ∧
      m.window.words.filter (·.current) = [⟨m.pc.toNat, word, true⟩] := by
  intro h
  let m := (boot {} .loaded).obeyAll [.load [0x10, 0x01], .step]
  have hpc : m.pc.toNat = 1 := by decide +kernel
  obtain ⟨word, -, hmarked⟩ := h m (by rw [hpc]; decide)
  have hnone : m.window.words.filter (·.current) = [] := by
    rw [words_window]
    refine Window.filter_current_of_ne _ fun n => ?_
    rw [start_window, hpc]
    omega
  cases hnone.symm.trans hmarked

end Machine

end Chip8
