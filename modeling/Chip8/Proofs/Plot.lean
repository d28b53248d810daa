import Chip8.Proofs.Screen

/-!
# Going over a sprite

Drawing goes over a sprite bit by bit and asks for the pixel below each bit, before it adds the bit
to it. It gives up a row at the right edge of the screen and the sprite at the lower one, so all the
places that it asks for are on the screen, and it is never refused one. And since it meets no pixel
twice, it comes to flipping all the pixels that the sprite covers at once.

* `Sketch.Flips` — from one sketch to another, just the pixels of an area are flipped;
* `exists_blend`, `exists_plotByte`, `exists_plotRows` — what is granted, and what it flips;
* `plot_eq` — drawing is granted, and it is `draw` with `collides`.
-/

namespace Chip8.Screen

/-- The rows of a sprite are its first row and those of the rest, one further down. -/
theorem covers_cons {left top : Nat} {byte : UInt8} {rest : List UInt8} {column row : Nat} :
    Covers left top (byte :: rest) column row ↔
      (left ≤ column ∧ column < left + 8 ∧ row = top ∧
        byte.toNat.testBit (7 - (column - left)) = true) ∨
      Covers left (top + 1) rest column row := by
  constructor
  · rintro ⟨hleft, hright, htop, hline, hbit⟩
    rcases Nat.eq_or_lt_of_le htop with rfl | hlt
    · simp only [Nat.sub_self, List.getElem_cons_zero] at hbit
      exact .inl ⟨hleft, hright, rfl, hbit⟩
    · have hnext : row - top = (row - (top + 1)) + 1 := by omega
      simp only [hnext, List.length_cons, List.getElem_cons_succ] at hline hbit
      exact .inr ⟨hleft, hright, hlt, Nat.lt_of_succ_lt_succ hline, hbit⟩
  · rintro (⟨hleft, hright, rfl, hbit⟩ | ⟨hleft, hright, htop, hline, hbit⟩)
    · refine ⟨hleft, hright, Nat.le_refl _, ?_⟩
      simp only [Nat.sub_self, List.getElem_cons_zero]
      exact ⟨Nat.succ_pos _, hbit⟩
    · have hnext : row - top = (row - (top + 1)) + 1 := by omega
      refine ⟨hleft, hright, by omega, ?_⟩
      simp only [hnext, List.length_cons, List.getElem_cons_succ]
      exact ⟨Nat.succ_lt_succ hline, hbit⟩

/-- A bit of a byte, as zero or one. -/
theorem shiftRight_and_one (byte : UInt8) {n : Nat} (hn : n < 8) :
    byte >>> .ofNat n &&& 1 = if byte.toNat.testBit n then 1 else 0 := by
  have hshift : (UInt8.ofNat n).toNat = n :=
    UInt8.toNat_ofNat_of_lt' (Nat.lt_trans hn (by decide))
  apply UInt8.toNat_inj.1
  rw [UInt8.toNat_and, UInt8.toNat_shiftRight, hshift, Nat.mod_eq_of_lt hn,
    Nat.testBit_eq_decide_div_mod_eq, Nat.shiftRight_eq_div_pow]
  show byte.toNat / 2 ^ n &&& 1 = _
  rw [Nat.and_one_is_mod]
  rcases Nat.mod_two_eq_zero_or_one (byte.toNat / 2 ^ n) with h | h <;> rw [h] <;> rfl

namespace Sketch

/-- From one sketch to another, the pixels of an area are flipped and no others, and a lit one among
them is a hit. -/
structure Flips (area : Nat → Nat → Prop) (p q : Sketch) : Prop where
  /-- each pixel of the area is flipped -/
  inside : ∀ column row, area column row →
    q.screen.pixel? column row = (p.screen.pixel? column row).map (· ^^^ 1)
  /-- each other pixel stays -/
  outside : ∀ column row, ¬area column row →
    q.screen.pixel? column row = p.screen.pixel? column row
  /-- the lit pixels of the area are hits -/
  hit : q.hit = true ↔ p.hit = true ∨ ∃ column row, area column row ∧ p.screen.lit column row = true
  /-- the flag of the screen stays -/
  redraw : q.screen.redraw = p.screen.redraw

variable {p q r : Sketch} {A B : Nat → Nat → Prop}

theorem Flips.congr (h : Flips A p q) (hAB : ∀ column row, A column row ↔ B column row) :
    Flips B p q where
  inside column row hB := h.inside column row ((hAB column row).2 hB)
  outside column row hB := h.outside column row fun hA => hB ((hAB column row).1 hA)
  hit := by simp only [h.hit, hAB]
  redraw := h.redraw

/-- Nothing is flipped without an area. -/
theorem flips_self (hA : ∀ column row, ¬A column row) : Flips A p p where
  inside column row h := absurd h (hA column row)
  outside _ _ _ := rfl
  hit := ⟨.inl, fun h => h.elim id fun ⟨column, row, h, _⟩ => absurd h (hA column row)⟩
  redraw := rfl

/-- One area is flipped after another. The second look is at pixels that have not changed, since the
areas have no pixel in common. -/
theorem Flips.trans (h₁ : Flips A p q) (h₂ : Flips B q r)
    (hAB : ∀ column row, A column row → ¬B column row) :
    Flips (fun column row => A column row ∨ B column row) p r where
  inside := by
    rintro column row (hA | hB)
    · rw [h₂.outside column row (hAB column row hA), h₁.inside column row hA]
    · rw [h₂.inside column row hB, h₁.outside column row fun hA => hAB column row hA hB]
  outside := by
    intro column row h
    rw [h₂.outside column row fun hB => h (.inr hB), h₁.outside column row fun hA => h (.inl hA)]
  hit := by
    have hsame (column row : Nat) (hB : B column row) :
        q.screen.lit column row = p.screen.lit column row := by
      rw [lit, lit, h₁.outside column row fun hA => hAB column row hA hB]
    rw [h₂.hit, h₁.hit]
    constructor
    · rintro ((hp | ⟨column, row, hA, hlit⟩) | ⟨column, row, hB, hlit⟩)
      · exact .inl hp
      · exact .inr ⟨column, row, .inl hA, hlit⟩
      · exact .inr ⟨column, row, .inr hB, (hsame column row hB).symm.trans hlit⟩
    · rintro (hp | ⟨column, row, hA | hB, hlit⟩)
      · exact .inl (.inl hp)
      · exact .inl (.inr ⟨column, row, hA, hlit⟩)
      · exact .inr ⟨column, row, hB, (hsame column row hB).trans hlit⟩
  redraw := h₂.redraw.trans h₁.redraw

/-- **A bit is added to a pixel of the screen**: it is granted, and flips that pixel if it is
set. -/
theorem exists_blend (p : Sketch) {column row : Nat} (hc : column < width) (hr : row < height)
    (bit : Bool) :
    ∃ q, p.blend column row (if bit then 1 else 0) = .ok q ∧
      Flips (fun k j => k = column ∧ j = row ∧ bit = true) p q := by
  have hold : p.screen.pixel? column row = some p.screen.rows[row][column] := pixel?_eq _ hc hr
  generalize p.screen.rows[row][column] = old at hold
  obtain ⟨t, ht, hredraw, hpixel⟩ :=
    p.screen.exists_setPixel hc hr (old ^^^ if bit then 1 else 0)
  refine ⟨⟨t, p.hit || (old == 1 && (if bit then 1 else 0 : UInt8) == 1)⟩, ?_, ?_, ?_, ?_, hredraw⟩
  · rw [blend, pixel_eq_ok_iff.2 hold]
    show (p.screen.setPixel column row _ >>= _) = _
    rw [ht]
    rfl
  · rintro k j ⟨rfl, rfl, rfl⟩
    rw [hpixel, hold, if_pos ⟨rfl, rfl⟩]
    rfl
  · intro k j hout
    rw [hpixel]
    split
    · next hplace =>
      obtain ⟨rfl, rfl⟩ := hplace
      -- the bit is not set, and to add it changes nothing
      have hbit : bit = false := Bool.eq_false_iff.2 fun hbit => hout ⟨rfl, rfl, hbit⟩
      rw [hbit, hold, if_neg Bool.false_ne_true, UInt8.xor_zero]
    · rfl
  · rw [Bool.or_eq_true]
    refine or_congr_right ⟨fun h => ?_, ?_⟩
    · rw [Bool.and_eq_true, beq_iff_eq] at h
      obtain ⟨rfl, hbit⟩ := h
      refine ⟨column, row, ⟨rfl, rfl, ?_⟩, lit_iff.2 hold⟩
      cases bit
      · cases hbit
      · rfl
    · rintro ⟨k, j, ⟨rfl, rfl, rfl⟩, hlit⟩
      cases hold.symm.trans (lit_iff.1 hlit)
      rfl

/-- **Going over a byte** is granted, and flips the pixels below its set bits, as far as they are on
the screen. By induction on the number of bits that are left. -/
theorem exists_plotByte (byte : UInt8) (left : Nat) {row : Nat} (hr : row < height) {n : Nat}
    (hn : n ≤ 8) (p : Sketch) :
    ∃ q, plotByte byte left row n p = .ok q ∧
      Flips (fun k j => k < width ∧ j = row ∧ left + 8 ≤ k + n ∧ k < left + 8 ∧
        byte.toNat.testBit (7 - (k - left)) = true) p q := by
  induction n generalizing p with
  | zero => exact ⟨p, rfl, flips_self fun k j h => by omega⟩
  | succ n ih =>
    rw [plotByte]
    split
    · next hedge => exact ⟨p, rfl, flips_self fun k j h => by omega⟩
    · next hedge =>
      rw [shiftRight_and_one byte (by omega)]
      obtain ⟨q, hq, hfirst⟩ := p.exists_blend (Nat.not_le.1 hedge) hr (byte.toNat.testBit n)
      obtain ⟨r, hr, hrest⟩ := ih (by omega) q
      refine ⟨r, by rw [hq]; exact hr,
        (hfirst.trans hrest fun k j h => by omega).congr fun k j => ?_⟩
      constructor
      · rintro (⟨rfl, hj, hbit⟩ | ⟨hk, hj, hlow, hhigh, hbit⟩)
        · refine ⟨Nat.not_le.1 hedge, hj, by omega, by omega, ?_⟩
          rwa [show 7 - (left + (7 - n) - left) = n by omega]
        · exact ⟨hk, hj, by omega, hhigh, hbit⟩
      · rintro ⟨hk, hj, hlow, hhigh, hbit⟩
        by_cases hnext : k = left + (7 - n)
        · refine .inl ⟨hnext, hj, ?_⟩
          rwa [show 7 - (k - left) = n by omega] at hbit
        · exact .inr ⟨hk, hj, by omega, hhigh, hbit⟩

/-- **Going over a sprite** is granted, and flips the pixels on the screen that it covers. By
induction on its rows. -/
theorem exists_plotRows (left top : Nat) (sprite : List UInt8) (p : Sketch) :
    ∃ q, plotRows left top sprite p = .ok q ∧
      Flips (fun k j => k < width ∧ j < height ∧ Covers left top sprite k j) p q := by
  induction sprite generalizing top p with
  | nil =>
    exact ⟨p, rfl, flips_self fun k j ⟨_, _, _, _, _, hline, _⟩ =>
      absurd hline (Nat.not_lt_zero _)⟩
  | cons byte rest ih =>
    rw [plotRows]
    split
    · next hedge =>
      refine ⟨p, rfl, flips_self fun k j ⟨_, hj, _, _, htop, _⟩ => ?_⟩
      omega
    · next hedge =>
      have hrow : top < height := Nat.not_le.1 hedge
      obtain ⟨q, hq, hfirst⟩ := exists_plotByte byte left hrow (Nat.le_refl 8) p
      obtain ⟨r, hr, hrest⟩ := ih (top + 1) q
      refine ⟨r, by rw [hq]; exact hr, (hfirst.trans hrest
        fun k j ⟨_, hj, _⟩ ⟨_, _, _, _, htop, _⟩ => by omega).congr fun k j => ?_⟩
      rw [covers_cons]
      constructor
      · rintro (⟨hk, rfl, hlow, hhigh, hbit⟩ | ⟨hk, hj, hcovers⟩)
        · exact ⟨hk, hrow, .inl ⟨by omega, hhigh, rfl, hbit⟩⟩
        · exact ⟨hk, hj, .inr hcovers⟩
      · rintro ⟨hk, hj, ⟨hlow, hhigh, rfl, hbit⟩ | hcovers⟩
        · exact .inl ⟨hk, rfl, by omega, hhigh, hbit⟩
        · exact .inr ⟨hk, hj, hcovers⟩

end Sketch

/-- **Drawing is granted**, whatever the pixels are: no place is asked for that the screen does not
have. It flips what the sprite covers, and the hits are its collision. -/
theorem plot_eq (s : Screen) (x y : UInt8) (sprite : List UInt8) :
    s.plot x y sprite = .ok ⟨s.draw x y sprite, s.collides x y sprite⟩ := by
  obtain ⟨q, hq, hflips⟩ :=
    Sketch.exists_plotRows (x.toNat % width) (y.toNat % height) sprite ⟨s, false⟩
  have hscreen : { q.screen with redraw := true } = s.draw x y sprite := by
    refine ext_pixel (fun column row => ?_) rfl
    show q.screen.pixel? column row = _
    rw [pixel?_draw]
    by_cases hin : column < width ∧ row < height ∧ CoversAt x y sprite column row
    · rw [hflips.inside column row hin]
      simp only [hin.2.2, if_true]
    · rw [hflips.outside column row hin]
      -- a pixel that is covered all the same is not on the screen
      rcases hp : s.pixel? column row with _ | value
      · rfl
      · have hout : ¬CoversAt x y sprite column row := fun hcovers =>
          hin ⟨(inside_of_pixel? hp).1, (inside_of_pixel? hp).2, hcovers⟩
        rw [Option.map_some, if_neg hout]
  have hhit : q.hit = s.collides x y sprite := by
    rw [Bool.eq_iff_iff, collides_iff]
    refine hflips.hit.trans ⟨?_, ?_⟩
    · rintro (h | ⟨column, row, ⟨-, -, hcovers⟩, hlit⟩)
      · cases h
      · exact ⟨column, row, hcovers, hlit⟩
    · rintro ⟨column, row, hcovers, hlit⟩
      obtain ⟨hc, hr⟩ := inside_of_pixel? (lit_iff.1 hlit)
      exact .inr ⟨column, row, ⟨hc, hr, hcovers⟩, hlit⟩
  rw [plot, hq, ← hscreen, ← hhit]
  rfl

end Chip8.Screen
