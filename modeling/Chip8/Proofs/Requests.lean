import Chip8.Proofs.Machine.Execute

/-!
# What is asked of memory

A request for `length` bytes from `start` on asks for the addresses `start`, …,
`start + length - 1`. It is granted if memory has them all. Then reading gives their bytes in order,
and writing replaces them and no others. If memory lacks one of them the request is refused, and the
fault names one that is missing.

A request for no bytes misses nothing, wherever it starts. Yet past the end of memory it is refused,
and the fault names the address in front of its start, which nobody asked for. A sprite without rows
makes such a request.

* `Memory.Answers` — a request is granted or refused as its addresses deserve;
* `forall_mem_lt_size_iff` — when that is;
* `answers_of_checkSpan` — requests that are refused by `checkSpan` and nothing else;
* `map_takeFrom`, `map_get?_put`, `get?_put_of_not_mem` — what is given;
* `Machine.draw_nothing_fault_iff` — the sprite without rows;
* `requests_are_answered` — reading and writing, and the request for no bytes.
-/

namespace Chip8

namespace Memory

/-- A request for some addresses is granted exactly if memory has them all, what is granted is what
is to be given, and a refusal names one of the addresses that memory does not have. -/
structure Answers {α : Type} (r : Except Failure α) (addresses : List Nat) (gives : α → Prop) :
    Prop where
  /-- the request is granted if no address is missing -/
  granted_iff : (∃ a, r = .ok a) ↔ ∀ a ∈ addresses, a < size
  /-- what is granted is right -/
  gives : ∀ a, r = .ok a → gives a
  /-- a missing address is to blame for a refusal -/
  refused : ∀ e, r = .error e →
    ∃ a ∈ addresses, size ≤ a ∧ e = .fault (.addressOutOfBounds a)

variable {m : Memory} {start length : Nat}

/-- A span that asks for something has all of its addresses in memory exactly if it ends there, and
so does a span that asks for nothing and starts there. -/
theorem forall_mem_lt_size_iff (h : length = 0 → start ≤ size) :
    (∀ a ∈ List.range' start length, a < size) ↔ start + length ≤ size := by
  simp only [List.mem_range'_1]
  refine ⟨fun hall => ?_, fun hle a ha => by omega⟩
  rcases Nat.eq_zero_or_pos length with rfl | hpos
  · exact h rfl
  · have := hall (start + length - 1) (by omega)
    omega

/-- **A request that is refused by `checkSpan`**, and granted otherwise, is answered as its
addresses deserve, unless it asks for nothing past the end of memory. -/
theorem answers_of_checkSpan {α : Type} {r : Except Failure α} {given : α} {gives : α → Prop}
    (h : start + length < 0x10000000000000000) (hempty : length = 0 → start ≤ size)
    (hok : ∀ a, r = .ok a ↔ start + length ≤ size ∧ a = given)
    (herror : ∀ e, r = .error e ↔ checkSpan start length = .error e)
    (hgives : start + length ≤ size → gives given) :
    Answers r (List.range' start length) gives where
  granted_iff := by
    rw [forall_mem_lt_size_iff hempty]
    exact ⟨fun ⟨a, ha⟩ => ((hok a).1 ha).1, fun hle => ⟨given, (hok given).2 ⟨hle, rfl⟩⟩⟩
  gives := by
    intro a ha
    obtain ⟨hle, rfl⟩ := (hok a).1 ha
    exact hgives hle
  refused := by
    intro e he
    obtain ⟨hlt, rfl⟩ := (checkSpan_eq_error_iff h).1 ((herror e).1 he)
    -- the last address is missing, and it was asked for since there is a last one
    have hpos : length ≠ 0 := fun h0 => by
      have := hempty h0
      omega
    exact ⟨start + length - 1, List.mem_range'_1.2 (by omega), by omega, rfl⟩

/-- A run of bytes that memory has is made of the bytes at its addresses. -/
theorem map_takeFrom (h : start + length ≤ size) :
    (m.takeFrom start length).map some = (List.range' start length).map m.get? := by
  apply List.ext_getElem?
  intro k
  rw [List.getElem?_map, List.getElem?_map, getElem?_takeFrom]
  by_cases hk : k < length
  · have hbyte : start + k < 4096 := Nat.lt_of_lt_of_le (Nat.add_lt_add_left hk start) h
    have hget : m.get? (start + k) = some m.bytes[start + k] := Vector.getElem?_eq_getElem hbyte
    rw [List.getElem?_range' hk, if_pos hk, Nat.one_mul, Option.map_some, hget, Option.map_some]
  · rw [List.getElem?_eq_none (by simpa using hk), if_neg hk]
    rfl

/-- A run of bytes that was put into memory is found at its addresses. -/
theorem map_get?_put {values : List UInt8} (h : start + values.length ≤ size) :
    (List.range' start values.length).map (m.put start values).get? = values.map some := by
  apply List.ext_getElem?
  intro k
  rw [List.getElem?_map, List.getElem?_map]
  by_cases hk : k < values.length
  · have hle : start + values.length ≤ 4096 := h
    have hin : start ≤ start + k ∧ start + k < start + values.length ∧ start + k < 4096 := by omega
    rw [List.getElem?_range' hk, Nat.one_mul, Option.map_some, getElem?_put, if_pos hin,
      Nat.add_sub_cancel_left, List.getElem?_eq_getElem hk, Option.map_some]
  · rw [List.getElem?_eq_none (by simpa using hk), List.getElem?_eq_none (by simpa using hk)]
    rfl

/-- Nothing else is found changed. -/
theorem get?_put_of_not_mem {values : List UInt8} {a : Nat}
    (h : a ∉ List.range' start values.length) : (m.put start values).get? a = m.get? a := by
  rw [List.mem_range'_1] at h
  rw [getElem?_put, if_neg fun hin => h ⟨hin.1, hin.2.1⟩]

/-- A request for no bytes past the end of memory is refused for the address in front of it. -/
theorem checkSpan_zero (h : start < 0x10000000000000000) (hs : size < start) :
    checkSpan start 0 = .error (.fault (.addressOutOfBounds (start - 1))) :=
  (checkSpan_eq_error_iff h).2 ⟨hs, rfl⟩

end Memory

/-- **A sprite without rows** cannot be drawn if the index is past the end of memory, and only
then. -/
theorem Machine.draw_nothing_fault_iff {m : Machine} {x y : UInt8} {f : Fault} (hx : x < 16)
    (hy : y < 16) :
    (m.execute (.draw x y 0)).result = .error (.fault f) ↔
      Memory.size < m.index.toNat ∧ f = .addressOutOfBounds (m.index.toNat - 1) := by
  have hr : ∀ z ∈ [x, y], z < 16 := by simp [hx, hy]
  have hindex : m.index.toNat < 0x10000000000000000 := by
    have := m.index.toNat_lt
    omega
  have he := executes (m := m) (i := .draw x y 0) hr
  refine ⟨fun h => ?_, ?_⟩
  · rw [h] at he
    generalize (m.execute (.draw x y 0)).machine = n at he
    cases he with
    | refused hk ha =>
      have hspan := Memory.slice_eq_error_iff.1 (map_eq_error_iff.1 ha)
      obtain ⟨hlt, hf⟩ := (Memory.checkSpan_eq_error_iff hindex).1 hspan
      exact ⟨hlt, Failure.fault.inj hf⟩
    | overrun hk ha hm => cases (breach_of_moveOn hm).2
    | stuck hi hl hp => cases hi
  · rintro ⟨hlt, rfl⟩
    exact he.result_of_refused (apply_of_checkSpan hr rfl (Memory.checkSpan_zero hindex hlt))

namespace Memory

/-- **Requests are answered.** Reading and writing a span is granted exactly if memory has each
address that is asked for. What is read are the bytes at these addresses in order; what is written
is found there, and no other byte is different. A refusal names an address that was asked for and is
missing. Only a request for no bytes past the end of memory is refused though it misses nothing, for
the address in front of it, and so is a sprite without rows. Filling a span is writing one byte
throughout. -/
theorem requests_are_answered (m : Memory) {start length : Nat}
    (h : start + length < 0x10000000000000000) :
    ((length = 0 → start ≤ size) →
      Answers (m.slice start length) (List.range' start length)
        (fun values => values.map some = (List.range' start length).map m.get?) ∧
      ∀ values, values.length = length →
        Answers (m.overwrite start values) (List.range' start length) fun n =>
          (List.range' start length).map n.get? = values.map some ∧
            ∀ a ∉ List.range' start length, n.get? a = m.get? a) ∧
    (length = 0 → size < start →
      m.slice start 0 = .error (.fault (.addressOutOfBounds (start - 1))) ∧
      m.overwrite start [] = .error (.fault (.addressOutOfBounds (start - 1)))) ∧
    (∀ (k : Machine) (x y : UInt8) (f : Fault), x < 16 → y < 16 →
      ((k.execute (.draw x y 0)).result = .error (.fault f) ↔
        size < k.index.toNat ∧ f = .addressOutOfBounds (k.index.toNat - 1))) ∧
    ∀ byte, m.fill start length byte = m.overwrite start (List.replicate length byte) := by
  refine ⟨fun hempty => ⟨?_, ?_⟩, ?_, ?_, ?_⟩
  · exact answers_of_checkSpan h hempty (fun _ => slice_eq_ok_iff) (fun _ => slice_eq_error_iff)
      map_takeFrom
  · rintro values rfl
    exact answers_of_checkSpan h hempty (fun _ => overwrite_eq_ok_iff)
      (fun _ => overwrite_eq_error_iff) fun hle => ⟨map_get?_put hle, fun _ => get?_put_of_not_mem⟩
  · rintro rfl hs
    have hrefused := checkSpan_zero h hs
    exact ⟨slice_eq_error_iff.2 hrefused, overwrite_eq_error_iff.2 hrefused⟩
  · intro k x y f hx hy
    exact Machine.draw_nothing_fault_iff hx hy
  · intro byte
    rw [fill, overwrite, List.length_replicate]

/-- The last byte of a request is the first that memory does not have. -/
theorem one_byte_too_many :
    4090 + 7 < 0x10000000000000000 ∧ (7 = 0 → 4090 ≤ size) ∧
      initial.slice 4090 7 = .error (.fault (.addressOutOfBounds 4096)) := by
  have h : 4090 + 7 < 0x10000000000000000 := by decide
  have hempty : 7 = 0 → 4090 ≤ size := nofun
  obtain ⟨hanswers, -, -⟩ := requests_are_answered initial h
  obtain ⟨hslice, -⟩ := hanswers hempty
  refine ⟨h, hempty, ?_⟩
  rcases hresult : initial.slice 4090 7 with e | values
  · obtain ⟨a, ha, hmissing, rfl⟩ := hslice.refused e hresult
    obtain ⟨-, hlt⟩ := List.mem_range'_1.1 ha
    have hlast : a = 4096 := Nat.le_antisymm (Nat.le_of_lt_succ hlt) hmissing
    rw [hlast]
  · have hall := hslice.granted_iff.1 ⟨values, hresult⟩
    exact absurd (hall 4096 (List.mem_range'_1.2 (by decide))) (Nat.lt_irrefl 4096)

/-- **A request for no bytes is refused**, though memory has all that it asks for. -/
theorem empty_request_is_refused :
    ¬∀ (m : Memory) (start length : Nat), start + length < 0x10000000000000000 →
      ((∃ values, m.slice start length = .ok values) ↔
        ∀ a ∈ List.range' start length, a < size) := by
  intro h
  obtain ⟨values, hgranted⟩ := (h initial 5000 0 (by decide)).2 nofun
  have hrefused : initial.slice 5000 0 = .error (.fault (.addressOutOfBounds 4999)) :=
    slice_eq_error_iff.2 (checkSpan_zero (by decide) (by decide))
  cases hrefused.symm.trans hgranted

end Memory

end Chip8
