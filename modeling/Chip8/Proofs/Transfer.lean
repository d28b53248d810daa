import Chip8.Proofs.Machine.Execute

/-!
# Storing and loading registers

`FX55` copies the registers up to `X` to memory, from the index on, and `FX65` copies them back. As
long as the bytes at the index end inside of memory each of the two undoes the other, wherever that
is and whatever lies there, and both move the index behind the bytes or leave it, as the dialect
says. What the other registers hold, and the other bytes, does not matter and is not touched.

* `Memory.ext_get?` — a memory is told by its bytes;
* `Machine.Stores`, `Loads` — what the two instructions leave;
* `stores`, `loads` — the instructions do that;
* `getElem?_load_stored`, `memory_store_loaded` — one after the other;
* `transfers_undo_each_other` — all of it.
-/

namespace Chip8

/-- Memories that agree on each byte are the same. -/
theorem Memory.ext_get? {m n : Memory} (h : ∀ a, m.get? a = n.get? a) : m = n := by
  obtain ⟨bytes⟩ := m
  obtain ⟨bytes'⟩ := n
  refine congrArg Memory.mk (Vector.ext fun a ha => ?_)
  have hbyte : bytes[a]? = bytes'[a]? := h a
  rw [Vector.getElem?_eq_getElem ha, Vector.getElem?_eq_getElem ha] at hbyte
  exact Option.some.inj hbyte

namespace Machine

variable {m : Machine} {x : UInt8}

/-- The index behind a transfer of the registers up to `x`. -/
def indexBehind (m : Machine) (x : UInt8) : Nat :=
  if m.dialect.transferMovesIndex then m.index.toNat + x.toNat + 1 else m.index.toNat

/-- An instruction is carried out and goes on with the next word, if there is one. -/
def GoesOn (m : Machine) (i : Instruction) : Prop :=
  m.pc.toNat + 2 < 0x10000 → (m.execute i).result = .ok (.executed i) ∧
    (m.execute i).machine.pc.toNat = m.pc.toNat + 2

/-- What storing the registers up to `x` leaves. -/
structure Stores (m : Machine) (x : UInt8) : Prop where
  /-- the registers are found at the index -/
  byte : ∀ k ≤ x.toNat,
    (m.execute (.storeRegisters x)).machine.memory.get? (m.index.toNat + k) = m.registers[k]?
  /-- the other bytes stay -/
  others : ∀ a, a < m.index.toNat ∨ m.index.toNat + x.toNat < a →
    (m.execute (.storeRegisters x)).machine.memory.get? a = m.memory.get? a
  /-- the index is behind the bytes, or stays -/
  index : (m.execute (.storeRegisters x)).machine.index.toNat = m.indexBehind x
  /-- the program goes on -/
  goesOn : m.GoesOn (.storeRegisters x)

/-- What loading the registers up to `x` leaves. -/
structure Loads (m : Machine) (x : UInt8) : Prop where
  /-- the bytes at the index are found in the registers -/
  register : ∀ k ≤ x.toNat,
    (m.execute (.loadRegisters x)).machine.registers[k]? = m.memory.get? (m.index.toNat + k)
  /-- the other registers stay -/
  others : ∀ k, x.toNat < k →
    (m.execute (.loadRegisters x)).machine.registers[k]? = m.registers[k]?
  /-- memory stays -/
  memory : (m.execute (.loadRegisters x)).machine.memory = m.memory
  /-- the index is behind the bytes, or stays -/
  index : (m.execute (.loadRegisters x)).machine.index.toNat = m.indexBehind x
  /-- the program goes on -/
  goesOn : m.GoesOn (.loadRegisters x)

/-! ## One transfer -/

/-- Inside of memory the index does not wrap around. -/
theorem toNat_index_moveIndex {n : Machine} (hindex : n.index = m.index)
    (hdialect : n.dialect = m.dialect) (h : m.index.toNat + x.toNat + 1 ≤ Memory.size) :
    (n.moveIndex (x.toNat + 1)).index.toNat = m.indexBehind x := by
  have hsize : Memory.size = 4096 := rfl
  have hcount : (UInt16.ofNat (x.toNat + 1)).toNat = x.toNat + 1 :=
    UInt16.toNat_ofNat_of_lt' (Nat.lt_of_le_of_lt (m := 4096) (by omega) (by decide))
  simp only [moveIndex, indexBehind, hindex, hdialect]
  split
  · rw [UInt16.toNat_add, hcount]
    omega
  · rfl

/-- Registers are set as far as there are values for them. -/
theorem getElem?_setFirstRegs {values : List UInt8} (h : values.length ≤ 16) (k : Nat) :
    (m.setFirstRegs values).registers[k]? =
      if k < values.length then values[k]? else m.registers[k]? := by
  simp only [setFirstRegs, Vector.getElem?_ofFn]
  by_cases hv : k < values.length
  · rw [dif_pos (Nat.lt_of_lt_of_le hv h), if_pos hv, List.getElem?_eq_getElem hv]
    rfl
  · rw [if_neg hv, List.getElem?_eq_none (Nat.not_lt.1 hv)]
    split
    · next hk => exact (Vector.getElem?_eq_getElem hk).symm
    · next hk => exact (Vector.getElem?_eq_none (Nat.not_lt.1 hk)).symm

/-- An effect that leaves the program counter alone is all that is left behind. -/
theorem exists_execute_of_pc {n : Machine} {i : Instruction} (hr : ∀ z ∈ i.registers, z < 16)
    (hk : ∀ z, i ≠ .awaitKey z) (hi : i.isControlFlow = false) (ho : i.outcome = .executed i)
    (ha : m.apply i = .ok n) (hn : n.pc = m.pc) :
    (∃ pc, (m.execute i).machine = { n with pc }) ∧ m.GoesOn i := by
  obtain ⟨pc, hmachine, hresult⟩ := exists_execute hr hk hi ha
  rw [ho, hn] at hresult
  refine ⟨⟨pc, hmachine⟩, fun hlt => ?_⟩
  obtain ⟨hok, hpc⟩ := hresult hlt
  exact ⟨hok, by rw [hmachine, ← hpc]⟩

/-- **Storing registers.** -/
theorem stores (hx : x < 16) (h : m.index.toNat + x.toNat + 1 ≤ Memory.size) : m.Stores x := by
  have hsize : Memory.size = 4096 := rfl
  have hr : ∀ z ∈ (Instruction.storeRegisters x).registers, z < 16 :=
    fun z hz => List.mem_singleton.1 hz ▸ hx
  have hk : ∀ z, Instruction.storeRegisters x ≠ .awaitKey z := by rintro z ⟨⟩
  obtain ⟨values, hvalues⟩ : ∃ values, m.registers.toList.take (x.toNat + 1) = values := ⟨_, rfl⟩
  have hlength : values.length = x.toNat + 1 := hvalues ▸ m.length_take_registers hx
  have hspan : m.index.toNat + values.length ≤ Memory.size := by
    rw [hlength]
    exact h
  have ha : m.apply (.storeRegisters x) =
      .ok ({ m with memory := m.memory.put m.index.toNat values }.moveIndex (x.toNat + 1)) := by
    rw [apply, hvalues]
    exact map_eq_ok_iff.2 ⟨_, Memory.overwrite_eq_ok_iff.2 ⟨hspan, rfl⟩, rfl⟩
  obtain ⟨⟨pc, hmachine⟩, hgoesOn⟩ := exists_execute_of_pc hr hk rfl rfl ha rfl
  have hmemory : (m.execute (.storeRegisters x)).machine.memory =
      m.memory.put m.index.toNat values := by
    rw [hmachine]
    rfl
  refine ⟨?_, ?_, ?_, hgoesOn⟩
  · intro k hk
    rw [hmemory, Memory.getElem?_put, if_pos (by omega), Nat.add_sub_cancel_left, ← hvalues,
      List.getElem?_take_of_lt (Nat.lt_succ_of_le hk), Vector.getElem?_toList]
  · intro a ha
    rw [hmemory, Memory.getElem?_put, if_neg (by omega)]
  · rw [hmachine]
    exact toNat_index_moveIndex rfl rfl h

/-- **Loading registers.** -/
theorem loads (hx : x < 16) (h : m.index.toNat + x.toNat + 1 ≤ Memory.size) : m.Loads x := by
  have hx' : x.toNat < 16 := hx
  have hr : ∀ z ∈ (Instruction.loadRegisters x).registers, z < 16 :=
    fun z hz => List.mem_singleton.1 hz ▸ hx
  have hk : ∀ z, Instruction.loadRegisters x ≠ .awaitKey z := by rintro z ⟨⟩
  obtain ⟨values, hvalues⟩ : ∃ values, m.memory.slice m.index.toNat (x.toNat + 1) = .ok values :=
    ⟨_, Memory.slice_eq_ok_iff.2 ⟨h, rfl⟩⟩
  have hlength := Memory.length_of_slice hvalues
  have ha : m.apply (.loadRegisters x) = .ok ((m.setFirstRegs values).moveIndex (x.toNat + 1)) :=
    map_eq_ok_iff.2 ⟨values, hvalues, rfl⟩
  have hcourse : m.SameCourse ((m.setFirstRegs values).moveIndex (x.toNat + 1)) :=
    (sameCourse_setFirstRegs values).trans (sameCourse_moveIndex _)
  obtain ⟨⟨pc, hmachine⟩, hgoesOn⟩ := exists_execute_of_pc hr hk rfl rfl ha hcourse.pc
  have hregisters (k : Nat) : (m.execute (.loadRegisters x)).machine.registers[k]? =
      if k < values.length then values[k]? else m.registers[k]? := by
    rw [hmachine, ← getElem?_setFirstRegs (by omega), moveIndex]
  refine ⟨?_, ?_, ?_, ?_, hgoesOn⟩
  · intro k hk
    obtain ⟨-, rfl⟩ := Memory.slice_eq_ok_iff.1 hvalues
    rw [hregisters, if_pos (by omega), Memory.getElem?_takeFrom, if_pos (Nat.lt_succ_of_le hk)]
  · intro k hk
    rw [hregisters, if_neg (by omega)]
  · rw [hmachine, moveIndex, setFirstRegs]
  · rw [hmachine]
    have hindex : (m.setFirstRegs values).index = m.index := by simp only [setFirstRegs]
    exact toNat_index_moveIndex hindex (sameCourse_setFirstRegs values).dialect h

/-! ## One transfer after the other -/

/-- The machine after the registers up to `x` were stored, all registers were overwritten, and the
index was set back. -/
def stored (m : Machine) (x : UInt8) (registers : Registers) : Machine :=
  { (m.execute (.storeRegisters x)).machine with registers, index := m.index }

/-- The machine after the registers up to `x` were loaded and the index was set back. -/
def loaded (m : Machine) (x : UInt8) : Machine :=
  { (m.execute (.loadRegisters x)).machine with index := m.index }

/-- Two transfers are carried out if there are two words to go on with. -/
theorem GoesOn.again {n : Machine} {i j : Instruction} (hi : m.GoesOn i)
    (hn : n.pc = (m.execute i).machine.pc) (hj : n.GoesOn j) (h : m.pc.toNat + 4 < 0x10000) :
    (n.execute j).result = .ok (.executed j) := by
  have hpc : n.pc.toNat = m.pc.toNat + 2 := by
    rw [hn]
    exact (hi (by omega)).2
  exact (hj (by omega)).1

/-- **Loading what was stored** brings back the registers that were stored, and leaves those behind
as they were overwritten. -/
theorem getElem?_load_stored (hx : x < 16) (h : m.index.toNat + x.toNat + 1 ≤ Memory.size)
    (registers : Registers) (k : Nat) :
    ((m.stored x registers).execute (.loadRegisters x)).machine.registers[k]? =
      if k ≤ x.toNat then m.registers[k]? else registers[k]? := by
  have hl : (m.stored x registers).Loads x := loads hx h
  split
  · next hk => exact (hl.register k hk).trans ((stores hx h).byte k hk)
  · next hk => exact hl.others k (Nat.not_le.1 hk)

/-- **Storing what was loaded** leaves memory as it was. -/
theorem memory_store_loaded (hx : x < 16) (h : m.index.toNat + x.toNat + 1 ≤ Memory.size) :
    ((m.loaded x).execute (.storeRegisters x)).machine.memory = m.memory := by
  have hl : m.Loads x := loads hx h
  have hs : (m.loaded x).Stores x := stores hx h
  apply Memory.ext_get?
  intro a
  by_cases ha : a < m.index.toNat ∨ m.index.toNat + x.toNat < a
  · rw [hs.others a ha, loaded, hl.memory]
  · obtain ⟨k, rfl⟩ : ∃ k, a = m.index.toNat + k := ⟨a - m.index.toNat, by omega⟩
    have hk : k ≤ x.toNat := by omega
    exact (hs.byte k hk).trans (hl.register k hk)

/-- **Transfers undo each other**, wherever the bytes at the index end inside of memory and in each
dialect. Registers that were stored are brought back by loading them from the same place, whatever
the registers were overwritten with, and those behind stay overwritten. Bytes that were loaded are
what is stored at the same place, so that memory is as it was. Storing changes no other byte, and
both move the index behind the bytes, or leave it if the dialect says so. They are carried out as
long as there is a next word. -/
theorem transfers_undo_each_other (m : Machine) {x : UInt8} (hx : x < 16)
    (h : m.index.toNat + x.toNat + 1 ≤ Memory.size) :
    (∀ registers k,
      ((m.stored x registers).execute (.loadRegisters x)).machine.registers[k]? =
        if k ≤ x.toNat then m.registers[k]? else registers[k]?) ∧
    ((m.loaded x).execute (.storeRegisters x)).machine.memory = m.memory ∧
    (∀ a, a < m.index.toNat ∨ m.index.toNat + x.toNat < a →
      (m.execute (.storeRegisters x)).machine.memory.get? a = m.memory.get? a) ∧
    (m.execute (.storeRegisters x)).machine.index.toNat = m.indexBehind x ∧
    (m.execute (.loadRegisters x)).machine.index.toNat = m.indexBehind x ∧
    m.GoesOn (.storeRegisters x) ∧ m.GoesOn (.loadRegisters x) ∧
    (m.pc.toNat + 4 < 0x10000 →
      ((m.loaded x).execute (.storeRegisters x)).result = .ok (.executed (.storeRegisters x)) ∧
      ∀ registers, ((m.stored x registers).execute (.loadRegisters x)).result =
        .ok (.executed (.loadRegisters x))) := by
  have hs : m.Stores x := stores hx h
  have hl : m.Loads x := loads hx h
  refine ⟨getElem?_load_stored hx h, memory_store_loaded hx h, hs.others, hs.index, hl.index,
    hs.goesOn, hl.goesOn, fun hpc => ⟨?_, fun registers => ?_⟩⟩
  · have hs' : (m.loaded x).Stores x := stores hx h
    exact hl.goesOn.again rfl hs'.goesOn hpc
  · have hl' : (m.stored x registers).Loads x := loads hx h
    exact hs.goesOn.again rfl hl'.goesOn hpc

/-- All sixteen registers fit in the last sixteen bytes of memory. -/
theorem last_bytes_bring_back :
    let m := (boot {} .loaded).obeyAll [.setRegister 0xF 9, .setIndex 0xFF0]
    let blank : Registers := Vector.replicate 16 0
    (0xF : UInt8) < 16 ∧ m.index.toNat + (0xF : UInt8).toNat + 1 ≤ Memory.size ∧
      ((m.stored 0xF blank).execute (.loadRegisters 0xF)).machine.reg 0xF = 9 ∧
      (m.execute (.storeRegisters 0xF)).machine.index = 0x1000 := by
  intro m blank
  have hx : (0xF : UInt8) < 16 := by decide
  have h : m.index.toNat + (0xF : UInt8).toNat + 1 ≤ Memory.size := by decide +kernel
  obtain ⟨hback, -, -, hindex, -⟩ := transfers_undo_each_other m hx h
  refine ⟨hx, h, ?_, UInt16.toNat_inj.1 hindex⟩
  have hflag : (0xF : UInt8).toNat ≤ (0xF : UInt8).toNat := Nat.le_refl _
  rw [reg, hback, if_pos hflag]
  rfl

end Machine

end Chip8
