import Chip8.Memory
import Chip8.Proofs.Instruction.Range

/-!
# The instruction table is read both ways

A table entry is a word with some digits given and the others left to the operands. So there are
two ways to read the table: from an instruction to its word (`encode`) and from a word to its
instruction (`decode`), and as long as the operands fit in their digits each way undoes the other.
Neither a word nor an operand is lost, and no word has two rows.

* `entryNNN_eq_iff`, `entryXNN_eq_iff`, `entryXYN_eq_iff` — the digits of the entries, layout by
  layout;
* `encode_of_decode?`, `decode?_of_encode` — one way and the other, row by row;
* `decode_eq_ok_iff`, `decode_eq_error_iff` — what decoding answers;
* `decode_inverts_encode` — the two readings as a whole, and decoding of bytes in memory.
-/

namespace Chip8.Instruction

variable {kind x y n v high low : UInt8} {a : Addr} {w : Word} {i : Instruction} {f : Fault}

/-! ## The layouts of the table -/

theorem entryNNN_eq_iff (hk : kind < 16) (ha : a < 4096) :
    entryNNN kind a = w ↔ w.kind = kind ∧ w.nnn = a := by
  have hk' : kind.toNat < 16 := hk
  have ha' : a.toNat < 4096 := ha
  have hw := w.toNat_lt
  simp only [← UInt16.toNat_inj, ← UInt8.toNat_inj, entryNNN, UInt16.toNat_add, UInt16.toNat_mul,
    UInt8.toNat_toUInt16, UInt16.reduceToNat, Word.toNat_kind, Word.toNat_nnn]
  omega

theorem entryXNN_eq_iff (hk : kind < 16) (hx : x < 16) :
    entryXNN kind x v = w ↔ w.kind = kind ∧ w.x = x ∧ w.nn = v := by
  have hk' : kind.toNat < 16 := hk
  have hx' : x.toNat < 16 := hx
  have hv := v.toNat_lt
  have hw := w.toNat_lt
  simp only [← UInt16.toNat_inj, ← UInt8.toNat_inj, entryXNN, UInt16.toNat_add, UInt16.toNat_mul,
    UInt8.toNat_toUInt16, UInt16.reduceToNat, Word.toNat_kind, Word.toNat_x, Word.toNat_nn]
  omega

theorem entryXYN_eq_iff (hk : kind < 16) (hx : x < 16) (hy : y < 16) (hn : n < 16) :
    entryXYN kind x y n = w ↔ w.kind = kind ∧ w.x = x ∧ w.y = y ∧ w.n = n := by
  have hk' : kind.toNat < 16 := hk
  have hx' : x.toNat < 16 := hx
  have hy' : y.toNat < 16 := hy
  have hn' : n.toNat < 16 := hn
  have hw := w.toNat_lt
  simp only [← UInt16.toNat_inj, ← UInt8.toNat_inj, entryXYN, UInt16.toNat_add, UInt16.toNat_mul,
    UInt8.toNat_toUInt16, UInt16.reduceToNat, Word.toNat_kind, Word.toNat_x, Word.toNat_y,
    Word.toNat_n]
  omega

/-! ## Row by row -/

/-- The instruction of a word stands in the row of that word. -/
theorem encode_of_decode? (h : decode? w = some i) : encode i = w := by
  rw [decode?] at h
  repeat' split at h
  all_goals cases h
  -- the splits have compared just the digits that the row gives
  all_goals
    simp [encode, entryNNN_eq_iff, entryXNN_eq_iff, entryXYN_eq_iff, Word.x_lt, Word.y_lt,
      Word.n_lt, Word.nnn_lt, *]

/-- The word of an instruction is decoded to it, if the operands fit. -/
theorem decode?_of_encode (hi : i.InRange) (hw : encode i = w) : decode? w = some i := by
  obtain ⟨hr, ha, hh⟩ := hi
  cases i
  case breakpoint | clearScreen | leave =>
    subst hw
    rfl
  case jump | call | setIndex | jumpOffset =>
    obtain ⟨hk, ha⟩ := (entryNNN_eq_iff (by decide) (ha _ rfl)).1 hw
    simp only [decode?, hk, ha]
  case draw x y n =>
    have hn : n < 16 := hh
    obtain ⟨hx, hr⟩ := List.forall_mem_cons.1 hr
    obtain ⟨hy, -⟩ := List.forall_mem_cons.1 hr
    obtain ⟨hk, hx, hy, hn⟩ := (entryXYN_eq_iff (by decide) hx hy hn).1 hw
    simp only [decode?, hk, hx, hy, hn]
  case skipEqReg | copy | bitOr | bitAnd | bitXor | addReg | subReg | shiftRight | subFrom
      | shiftLeft | skipNeReg =>
    obtain ⟨hx, hr⟩ := List.forall_mem_cons.1 hr
    obtain ⟨hy, -⟩ := List.forall_mem_cons.1 hr
    obtain ⟨hk, hx, hy, hn⟩ := (entryXYN_eq_iff (by decide) hx hy (by decide)).1 hw
    simp only [decode?, hk, hx, hy, hn, if_true]
  -- what is left has a register and a constant, of which some rows give the constant
  all_goals
    obtain ⟨hx, -⟩ := List.forall_mem_cons.1 hr
    obtain ⟨hk, hx, hv⟩ := (entryXNN_eq_iff (by decide) hx).1 hw
    simp only [decode?, hk, hx, hv]

theorem decode?_eq_some_iff : decode? w = some i ↔ i.InRange ∧ encode i = w :=
  ⟨fun h => ⟨inRange_of_decode? h, encode_of_decode? h⟩, fun h => decode?_of_encode h.1 h.2⟩

theorem decode?_eq_none_iff : decode? w = none ↔ ∀ i : Instruction, i.InRange → encode i ≠ w := by
  rw [Option.eq_none_iff_forall_ne_some]
  exact forall_congr' fun i => by rw [Ne, decode?_eq_some_iff, not_and]

/-! ## What decoding answers -/

/-- Decoding gives the instruction in the row of the word. -/
theorem decode_eq_ok_iff : decode w = .ok i ↔ i.InRange ∧ encode i = w := by
  rw [← decode?_eq_some_iff, decode]
  split
  · next found hf => rw [hf, Except.ok.injEq, Option.some.injEq]
  · next hf => exact ⟨fun h => (by cases h), fun h => (by cases hf.symm.trans h)⟩

/-- Decoding fails exactly on the words of no row, and names the word. -/
theorem decode_eq_error_iff :
    decode w = .error f ↔ f = .unknownOpcode w ∧ ∀ i : Instruction, i.InRange → encode i ≠ w := by
  rw [← decode?_eq_none_iff, decode]
  split
  · next found hf => exact ⟨fun h => (by cases h), fun h => (by cases hf.symm.trans h.2)⟩
  · next hf => rw [and_iff_left hf, Except.error.injEq, eq_comm]

/-- The word with these two bytes, as a number. -/
theorem ofBytes_eq_ofNat : Word.ofBytes high low = UInt16.ofNat (256 * high.toNat + low.toNat) := by
  have hhigh := high.toNat_lt
  have hlow := low.toNat_lt
  apply UInt16.toNat_inj.1
  rw [Word.toNat_ofBytes, UInt16.toNat_ofNat_of_lt' (show _ < 65536 by omega)]

/-- The word at a program counter is made of the byte there and the byte behind it. -/
theorem fetch_of_get? {m : Memory} {pc : Addr} (hhigh : m.get? pc.toNat = some high)
    (hlow : m.get? (pc.toNat + 1) = some low) : m.fetch pc = .ok (.ofBytes high low) := by
  rw [Memory.fetch, hhigh, hlow]

/-- **Decoding and encoding undo each other.** The word of an instruction whose operands fit in the
table is decoded to that instruction; what is decoded fits and has the word that was decoded, so no
two words are decoded to the same; and the words that are not decoded, each answered with the fault
that names it, are those of no such instruction. Two bytes are decoded as the word that they make,
and this is what a program counter in front of them comes to. -/
theorem decode_inverts_encode :
    (∀ i : Instruction, i.InRange → decode (encode i) = .ok i) ∧
    (∀ w i, decode w = .ok i → i.InRange ∧ encode i = w) ∧
    (∀ v w i, decode v = .ok i → decode w = .ok i → v = w) ∧
    (∀ w f, decode w = .error f ↔
      f = .unknownOpcode w ∧ ∀ i : Instruction, i.InRange → encode i ≠ w) ∧
    ∀ high low : UInt8,
      decodeBytes high low = decode (UInt16.ofNat (256 * high.toNat + low.toNat)) ∧
      ∀ (m : Memory) (pc : Addr), m.get? pc.toNat = some high →
        m.get? (pc.toNat + 1) = some low → (m.fetch pc).bind decode = decodeBytes high low := by
  refine ⟨?_, fun _ _ => decode_eq_ok_iff.1, ?_, fun _ _ => decode_eq_error_iff, ?_⟩
  · intro i hi
    exact decode_eq_ok_iff.2 ⟨hi, rfl⟩
  · intro v w i hv hw
    obtain ⟨-, hv⟩ := decode_eq_ok_iff.1 hv
    obtain ⟨-, hw⟩ := decode_eq_ok_iff.1 hw
    exact hv.symm.trans hw
  · intro high low
    refine ⟨?_, ?_⟩
    · rw [decodeBytes, ofBytes_eq_ofNat]
    · intro m pc hhigh hlow
      rw [fetch_of_get? hhigh hlow]
      rfl

/-- The row of a sprite as high as a row can say, and a word next to some rows that is in none. -/
theorem sprite_is_decoded :
    let i := draw 0x1 0x2 0xF
    i.InRange ∧ encode i = 0xD12F ∧ decode 0xD12F = .ok i ∧
      decode 0xFA25 = .error (.unknownOpcode 0xFA25) ∧
      ∀ j : Instruction, j.InRange → encode j ≠ 0xFA25 := by
  intro i
  have hi : i.InRange := inRange_of_decode? (by decide +kernel : decode? 0xD12F = some i)
  have hfault : decode 0xFA25 = .error (.unknownOpcode 0xFA25) := rfl
  obtain ⟨hdecode, -, -, herror, -⟩ := decode_inverts_encode
  exact ⟨hi, rfl, hdecode i hi, hfault, ((herror _ _).1 hfault).2⟩

end Chip8.Instruction
