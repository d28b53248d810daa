import Chip8.Memory

/-!
# Spans of memory

A span is refused as a whole: the bytes of a span are read or replaced exactly if the span ends
inside of memory, and a span that does not is answered with the fault that names its last address.

* `checkSpan_eq_ok_iff`, `checkSpan_eq_error_iff` — when a span is refused, and how;
* `slice_eq_ok_iff`, `overwrite_eq_ok_iff` — what is read and written when it is not;
* `slice_eq_error_iff`, `overwrite_eq_error_iff` — what is said when it is;
* `lt_size_of_fetch`, `fetch_eq_error_iff` — where the words lie that can be fetched;
* `loadProgram_eq_ok_iff`, `loadProgram_eq_error_iff` — which programs can be loaded, and what is
  said of the others.
-/

namespace Chip8.Memory

/-- A span is accepted exactly if it ends inside of memory. -/
theorem checkSpan_eq_ok_iff {start length : Nat} :
    checkSpan start length = .ok () ↔ start + length ≤ size := by
  rw [checkSpan, size]
  split
  · next h => exact ⟨fun hc => (by cases hc), fun hc => (by omega)⟩
  · split
    · next h => exact ⟨fun hc => (by cases hc), fun hc => (by omega)⟩
    · next h => exact ⟨fun _ => (by omega), fun _ => rfl⟩

/-- A span whose end fits in 64 bits is refused exactly if it does not end inside of memory, with
the fault that names its last address. -/
theorem checkSpan_eq_error_iff {start length : Nat} {e : Failure}
    (h : start + length < 0x10000000000000000) :
    checkSpan start length = .error e ↔
      size < start + length ∧ e = .fault (.addressOutOfBounds (start + length - 1)) := by
  rw [checkSpan, if_neg (Nat.not_le.2 h)]
  split
  · next hs => exact ⟨fun he => ⟨hs, (Except.error.inj he).symm⟩, fun he => (by rw [he.2])⟩
  · next hs => exact ⟨fun he => (by cases he), fun he => absurd he.1 hs⟩

/-- The bytes of a span can be read exactly if it ends inside of memory. -/
theorem slice_eq_ok_iff {m : Memory} {start length : Nat} {values : List UInt8} :
    m.slice start length = .ok values ↔
      start + length ≤ size ∧ values = m.takeFrom start length := by
  rw [← checkSpan_eq_ok_iff, slice]
  rcases checkSpan start length with e | u
  · exact ⟨fun h => (by cases h), fun h => (by cases h.1)⟩
  · exact ⟨fun h => ⟨rfl, (Except.ok.inj h).symm⟩, fun h => (by rw [h.2]; rfl)⟩

/-- The bytes of a span can be replaced exactly if it ends inside of memory. -/
theorem overwrite_eq_ok_iff {m m' : Memory} {start : Nat} {values : List UInt8} :
    m.overwrite start values = .ok m' ↔
      start + values.length ≤ size ∧ m' = m.put start values := by
  rw [← checkSpan_eq_ok_iff, overwrite]
  rcases checkSpan start values.length with e | u
  · exact ⟨fun h => (by cases h), fun h => (by cases h.1)⟩
  · exact ⟨fun h => ⟨rfl, (Except.ok.inj h).symm⟩, fun h => (by rw [h.2]; rfl)⟩

/-- The bytes of a span are not read exactly if the span is refused. -/
theorem slice_eq_error_iff {m : Memory} {start length : Nat} {e : Failure} :
    m.slice start length = .error e ↔ checkSpan start length = .error e := by
  rw [slice]
  rcases checkSpan start length with f | u
  · exact ⟨fun h => (by rw [Except.error.inj h]), fun h => (by rw [Except.error.inj h]; rfl)⟩
  · exact ⟨fun h => (by cases h), fun h => (by cases h)⟩

/-- The bytes of a span are not replaced exactly if the span is refused. -/
theorem overwrite_eq_error_iff {m : Memory} {start : Nat} {values : List UInt8} {e : Failure} :
    m.overwrite start values = .error e ↔ checkSpan start values.length = .error e := by
  rw [overwrite]
  rcases checkSpan start values.length with f | u
  · exact ⟨fun h => (by rw [Except.error.inj h]), fun h => (by rw [Except.error.inj h]; rfl)⟩
  · exact ⟨fun h => (by cases h), fun h => (by cases h)⟩

/-- A span that was read is as long as asked for. -/
theorem length_of_slice {m : Memory} {start length : Nat} {values : List UInt8}
    (h : m.slice start length = .ok values) : values.length = length := by
  obtain ⟨hle, rfl⟩ := slice_eq_ok_iff.1 h
  have hle' : start + length ≤ 4096 := hle
  rw [length_takeFrom]
  omega

/-- Both bytes of a word that was fetched lie inside of memory. -/
theorem lt_size_of_fetch {m : Memory} {pc : Addr} {w : Word} (h : m.fetch pc = .ok w) :
    pc.toNat + 1 < size := by
  rw [fetch] at h
  split at h
  · next high low hhigh hlow =>
    rw [get?, Vector.getElem?_eq_some_iff] at hlow
    exact hlow.1
  · cases h

/-- A word cannot be fetched exactly if no whole word lies at the program counter. -/
theorem fetch_eq_error_iff {m : Memory} {pc : Addr} {f : Fault} :
    m.fetch pc = .error f ↔ 4094 < pc.toNat ∧ f = .counterOutOfRange pc := by
  constructor
  · intro h
    rw [fetch] at h
    split at h
    · cases h
    · next hnone =>
      refine ⟨Nat.lt_of_not_le fun hle => ?_, (Except.error.inj h).symm⟩
      have hhigh : pc.toNat < 4096 := by omega
      have hlow : pc.toNat + 1 < 4096 := by omega
      exact hnone _ _ (Vector.getElem?_eq_getElem hhigh) (Vector.getElem?_eq_getElem hlow)
  · rintro ⟨hlt, rfl⟩
    rcases hw : m.fetch pc with f | w
    · rw [fetch] at hw
      split at hw
      · cases hw
      · exact hw.symm
    · have hsize : pc.toNat + 1 < 4096 := lt_size_of_fetch hw
      omega

/-- A program can be loaded exactly if there is room for it. -/
theorem loadProgram_eq_ok_iff {m m' : Memory} {program : List UInt8} :
    m.loadProgram program = .ok m' ↔
      program.length ≤ programRoom ∧ m' = m.put programStart program := by
  rw [loadProgram]
  split
  · next h => exact ⟨fun hm => (by cases hm), fun hm => absurd h (Nat.not_lt.2 hm.1)⟩
  · next h =>
    exact ⟨fun hm => ⟨Nat.not_lt.1 h, (Except.ok.inj hm).symm⟩, fun hm => (by rw [hm.2])⟩

/-- A program cannot be loaded exactly if there is no room for it; the error tells its length. -/
theorem loadProgram_eq_error_iff {m : Memory} {program : List UInt8} {e : LoadError} :
    m.loadProgram program = .error e ↔
      programRoom < program.length ∧ e = .tooLarge program.length programRoom := by
  rw [loadProgram]
  split
  · next h => exact ⟨fun hm => ⟨h, (Except.error.inj hm).symm⟩, fun hm => (by rw [hm.2])⟩
  · next h => exact ⟨fun hm => (by cases hm), fun hm => absurd hm.1 h⟩

end Chip8.Memory
