import Chip8.Screen

/-!
# Changes of the screen

A screen is its pixels and its flag, and a place is refused exactly if the screen has no pixel
there. What a sprite does to the pixels is to flip those that it covers, all at once. When a screen
becomes another, a host that keeps looking at the flag misses nothing as long as the new screen
announces each difference (`Screen.Announces`): a pixel that changed sets the flag, and a flag that
was set stays set.

* `pixel_eq_error_iff`, `setPixel_eq_error_iff` — which places are refused;
* `ext_pixel` — a screen is its pixels and its flag;
* `Screen.Covers` — the pixels that a sprite has set bits over, on the screen or not;
* `Screen.draw`, `Screen.collides` — flip what a sprite covers, and whether a lit pixel is covered;
* `Screen.Binary` — each pixel is zero or one, and drawing keeps it so;
* `announces_clear`, `announces_draw` — blanking and drawing announce what they do.
-/

namespace Chip8.Screen

variable {s t u : Screen} {column row : Nat} {value : UInt8} {e : Failure}

/-! ## Pixels -/

/-- A pixel is a byte in its row. -/
theorem pixel?_eq (s : Screen) (hc : column < 64) (hr : row < 32) :
    s.pixel? column row = some s.rows[row][column] := by
  rw [pixel?, Vector.getElem?_eq_getElem hr, Option.bind_some, Vector.getElem?_eq_getElem hc]

/-- The screen has no other pixels. -/
theorem pixel?_outside (s : Screen) (h : ¬(column < width ∧ row < height)) :
    s.pixel? column row = none := by
  rw [pixel?]
  by_cases hr : row < 32
  · have hc : 64 ≤ column := Nat.not_lt.1 fun hc => h ⟨hc, hr⟩
    rw [Vector.getElem?_eq_getElem hr, Option.bind_some, Vector.getElem?_eq_none hc]
  · rw [Vector.getElem?_eq_none (Nat.not_lt.1 hr), Option.bind_none]

/-- What is a pixel lies on the screen. -/
theorem inside_of_pixel? (h : s.pixel? column row = some value) :
    column < width ∧ row < height := by
  refine Decidable.byContradiction fun hout => ?_
  rw [pixel?_outside s hout] at h
  cases h

/-- **A pixel is refused** exactly if the screen does not have it. -/
theorem pixel_eq_error_iff :
    s.pixel column row = .error e ↔
      ¬(column < width ∧ row < height) ∧ e = .breach (.pixel column row) := by
  rw [pixel]
  by_cases hin : column < width ∧ row < height
  · rw [pixel?_eq s hin.1 hin.2]
    exact ⟨nofun, fun h => absurd hin h.1⟩
  · rw [pixel?_outside s hin]
    exact ⟨fun h => ⟨hin, (Except.error.inj h).symm⟩, fun h => by rw [h.2]⟩

theorem pixel_eq_ok_iff : s.pixel column row = .ok value ↔ s.pixel? column row = some value := by
  rw [pixel]
  rcases s.pixel? column row with _ | v
  · exact ⟨nofun, nofun⟩
  · exact ⟨fun h => congrArg some (Except.ok.inj h), fun h => by rw [Option.some.inj h]⟩

/-- To set a pixel is refused exactly if the screen does not have it. -/
theorem setPixel_eq_error_iff :
    s.setPixel column row value = .error e ↔
      ¬(column < width ∧ row < height) ∧ e = .breach (.pixel column row) := by
  rw [setPixel]
  split
  · next hin => exact ⟨nofun, fun h => absurd hin h.1⟩
  · next hin => exact ⟨fun h => ⟨hin, (Except.error.inj h).symm⟩, fun h => by rw [h.2]⟩

/-- Setting a pixel sets that pixel and no other, and leaves the flag alone. -/
theorem exists_setPixel (s : Screen) (hc : column < width) (hr : row < height) (value : UInt8) :
    ∃ t, s.setPixel column row value = .ok t ∧ t.redraw = s.redraw ∧
      ∀ k j, t.pixel? k j = if k = column ∧ j = row then some value else s.pixel? k j := by
  have hr' : row < 32 := hr
  refine ⟨_, dif_pos ⟨hc, hr⟩, rfl, fun k j => ?_⟩
  simp only [pixel?, Vector.getElem?_set]
  by_cases hj : row = j
  · subst hj
    simp only [if_true, Option.bind_some, Vector.getElem?_set, and_true,
      Vector.getElem?_eq_getElem hr', eq_comm (a := k)]
  · have hj' : ¬(k = column ∧ j = row) := fun h => hj h.2.symm
    rw [if_neg hj, if_neg hj']

/-- Two screens with the same pixels and the same flag are the same. -/
theorem ext_pixel (hpixel : ∀ column row, s.pixel? column row = t.pixel? column row)
    (hredraw : s.redraw = t.redraw) : s = t := by
  have hrows : s.rows = t.rows := by
    apply Vector.ext
    intro row hr
    apply Vector.ext
    intro column hc
    have h := hpixel column row
    rw [pixel?_eq s hc hr, pixel?_eq t hc hr] at h
    exact Option.some.inj h
  cases s
  cases t
  cases hrows
  cases hredraw
  rfl

theorem lit_iff : s.lit column row = true ↔ s.pixel? column row = some 1 := beq_iff_eq

@[simp] theorem pixel?_markDrawn (s : Screen) :
    s.markDrawn.pixel? column row = s.pixel? column row := rfl

/-- Each pixel of the blank screen is zero. -/
theorem pixel?_blank (column row : Nat) :
    blank.pixel? column row = if column < width ∧ row < height then some 0 else none := by
  split
  · next hin =>
    rw [pixel?_eq blank hin.1 hin.2]
    simp only [blank, Vector.getElem_replicate]
  · next hout => exact pixel?_outside blank hout

theorem eq_zero_of_blank (h : blank.pixel? column row = some value) : value = 0 := by
  have hin := inside_of_pixel? h
  rw [pixel?_blank, if_pos hin] at h
  exact (Option.some.inj h).symm

/-! ## Drawing -/

/-- A sprite with its upper left corner at column `left` and row `top` has a set bit over a pixel.
The pixel need not be on the screen. -/
def Covers (left top : Nat) (sprite : List UInt8) (column row : Nat) : Prop :=
  left ≤ column ∧ column < left + 8 ∧ top ≤ row ∧
    ∃ h : row - top < sprite.length, sprite[row - top].toNat.testBit (7 - (column - left)) = true

instance (left top : Nat) (sprite : List UInt8) (column row : Nat) :
    Decidable (Covers left top sprite column row) :=
  inferInstanceAs (Decidable (_ ∧ _ ∧ _ ∧ ∃ _, _))

/-- A sprite that is drawn at `(x, y)` modulo the size of the screen has a set bit over a pixel. -/
abbrev CoversAt (x y : UInt8) (sprite : List UInt8) (column row : Nat) : Prop :=
  Covers (x.toNat % width) (y.toNat % height) sprite column row

/-- Flip all pixels that a sprite covers at once. -/
def draw (s : Screen) (x y : UInt8) (sprite : List UInt8) : Screen where
  rows := s.rows.mapIdx fun row pixels => pixels.mapIdx fun column value =>
    if CoversAt x y sprite column row then value ^^^ 1 else value
  redraw := true

/-- A sprite covers a lit pixel. -/
def collides (s : Screen) (x y : UInt8) (sprite : List UInt8) : Bool :=
  (List.range height).any fun row => (List.range width).any fun column =>
    s.lit column row && CoversAt x y sprite column row

variable {x y : UInt8} {sprite : List UInt8}

/-- **A pixel behind a drawn sprite.** -/
theorem pixel?_draw (s : Screen) (x y : UInt8) (sprite : List UInt8) (column row : Nat) :
    (s.draw x y sprite).pixel? column row = (s.pixel? column row).map fun value =>
      if CoversAt x y sprite column row then value ^^^ 1 else value := by
  simp only [pixel?, draw, Vector.getElem?_mapIdx, Option.bind_map, Option.map_bind]
  congr 1
  funext pixels
  exact Vector.getElem?_mapIdx

/-- To flip a pixel is to change it. -/
theorem xor_one_ne (value : UInt8) : value ^^^ 1 ≠ value := by
  intro h
  have hzero : value ^^^ (value ^^^ 1) = 0 := by rw [h, UInt8.xor_self]
  rw [← UInt8.xor_assoc, UInt8.xor_self, UInt8.zero_xor] at hzero
  cases hzero

/-- The pixels that drawing changes are those on the screen that the sprite covers. -/
theorem draw_ne_iff :
    (s.draw x y sprite).pixel? column row ≠ s.pixel? column row ↔
      column < width ∧ row < height ∧ CoversAt x y sprite column row := by
  rw [pixel?_draw]
  by_cases hin : column < width ∧ row < height
  · obtain ⟨hc, hr⟩ := hin
    rw [pixel?_eq s hc hr, Option.map_some]
    split
    · next hcovers =>
      exact ⟨fun _ => ⟨hc, hr, hcovers⟩, fun _ h => xor_one_ne _ (Option.some.inj h)⟩
    · next hcovers => exact ⟨fun h => absurd rfl h, fun h => absurd h.2.2 hcovers⟩
  · rw [pixel?_outside s hin]
    exact ⟨fun h => absurd rfl h, fun h => absurd ⟨h.1, h.2.1⟩ hin⟩

/-- **A sprite collides** exactly if it covers a lit pixel. -/
theorem collides_iff (s : Screen) (x y : UInt8) (sprite : List UInt8) :
    s.collides x y sprite = true ↔
      ∃ column row, CoversAt x y sprite column row ∧ s.lit column row = true := by
  simp only [collides, List.any_eq_true, List.mem_range, Bool.and_eq_true, decide_eq_true_iff]
  constructor
  · rintro ⟨row, -, column, -, hlit, hcovers⟩
    exact ⟨column, row, hcovers, hlit⟩
  · rintro ⟨column, row, hcovers, hlit⟩
    obtain ⟨hc, hr⟩ := inside_of_pixel? (lit_iff.1 hlit)
    exact ⟨row, hr, column, hc, hlit, hcovers⟩

/-! ## The range of a pixel -/

/-- Each pixel is zero or one. -/
def Binary (s : Screen) : Prop :=
  ∀ column row value, s.pixel? column row = some value → value = 0 ∨ value = 1

/-- So each place on the screen has a zero or a one. -/
theorem Binary.pixel? (h : s.Binary) (hc : column < width) (hr : row < height) :
    s.pixel? column row = some 0 ∨ s.pixel? column row = some 1 := by
  have hvalue : s.pixel? column row = some s.rows[row][column] := pixel?_eq s hc hr
  rw [hvalue]
  rcases h column row _ hvalue with hzero | hone
  · exact .inl (congrArg some hzero)
  · exact .inr (congrArg some hone)

theorem Binary.congr (h : s.Binary) (hrows : t.rows = s.rows) : t.Binary := by
  intro column row value hvalue
  rw [Screen.pixel?, hrows] at hvalue
  exact h column row value hvalue

theorem binary_blank : blank.Binary := fun _ _ _ h => .inl (eq_zero_of_blank h)

theorem binary_clear (s : Screen) : s.clear.Binary := binary_blank

theorem Binary.markDrawn (h : s.Binary) : s.markDrawn.Binary := h

/-- **Drawing keeps the range of a pixel**, since one less a bit is a bit. -/
theorem Binary.draw (h : s.Binary) (x y : UInt8) (sprite : List UInt8) :
    (s.draw x y sprite).Binary := by
  intro column row value hvalue
  rw [pixel?_draw, Option.map_eq_some_iff] at hvalue
  obtain ⟨old, hold, rfl⟩ := hvalue
  split
  · rcases h column row old hold with rfl | rfl
    · exact .inr rfl
    · exact .inl rfl
  · exact h column row old hold

/-! ## Announcing -/

/-- Of what a screen has become, the host learns by the flag: it is set if a pixel differs from
before, and if it was set before. -/
structure Announces (s t : Screen) : Prop where
  /-- a pixel that differs sets the flag -/
  changed : ∀ column row, t.pixel? column row ≠ s.pixel? column row → t.redraw = true
  /-- a flag that is set stays set -/
  pending : s.redraw = true → t.redraw = true

theorem Announces.refl (s : Screen) : s.Announces s :=
  ⟨fun _ _ h => absurd rfl h, fun h => h⟩

theorem Announces.trans (h₁ : s.Announces t) (h₂ : t.Announces u) : s.Announces u where
  changed := by
    intro column row h
    by_cases ht : t.pixel? column row = s.pixel? column row
    · exact h₂.changed column row fun hu => h (hu.trans ht)
    · exact h₂.pending (h₁.changed column row ht)
  pending := fun h => h₂.pending (h₁.pending h)

/-- Everything that leaves the flag set is announced. -/
theorem announces_of_redraw (h : t.redraw = true) : s.Announces t :=
  ⟨fun _ _ _ => h, fun _ => h⟩

theorem announces_clear (s : Screen) : s.Announces s.clear := announces_of_redraw rfl

theorem announces_draw (s : Screen) (x y : UInt8) (sprite : List UInt8) :
    s.Announces (s.draw x y sprite) := announces_of_redraw rfl

/-- Without the flag nothing has changed, neither the pixels nor the flag. -/
theorem Announces.eq_of_redraw (h : s.Announces t) (ht : t.redraw = false) : s = t := by
  refine ext_pixel ?_ ?_
  · intro column row
    refine Decidable.byContradiction fun hne => ?_
    cases ht.symm.trans (h.changed column row (Ne.symm hne))
  · rw [ht]
    refine Bool.eq_false_iff.2 fun hs => ?_
    cases ht.symm.trans (h.pending hs)

/-- Going back to the blank screen of a machine without a history announces nothing, so it is missed
unless the screen was that one already. -/
theorem announces_blank_iff : s.Announces blank ↔ s = blank := by
  constructor
  · intro h
    exact h.eq_of_redraw rfl
  · rintro rfl
    exact .refl blank

end Chip8.Screen
