import Chip8.Proofs.Plot

/-!
# Drawing sprites

A sprite flips the pixels that it covers, and flipping one pixel does not depend on any other. So
drawing can be told pixel by pixel, sprites can be drawn in any order, and drawing one a second time
takes it away.

* `draw_flips_covered` — drawing as a statement about each pixel;
* `pixel?_drawAll` — after a list of sprites, what counts is how many of them cover a pixel;
* `drawing_in_any_order` — the order does not matter, and twice is not at all.
-/

namespace Chip8.Screen

/-! ## One sprite -/

/-- **Drawing is the exclusive or with the clipped sprite.** It is never refused. A pixel of the
screen changes exactly if it is in one of the eight columns from the start on, in a row for which
the sprite has a byte, and its bit of that byte is set; nothing comes out at the opposite edge. A
pixel that changes is flipped, from zero to one or back, so zeros and ones stay zeros and ones. The
collision tells whether a flipped pixel was lit, and the flag is set in any case. -/
theorem draw_flips_covered (s : Screen) (x y : UInt8) (sprite : List UInt8) :
    let left := x.toNat % 64
    let top := y.toNat % 32
    ∃ t hit, s.plot x y sprite = .ok ⟨t, hit⟩ ∧
      (∀ column row, column < 64 → row < 32 →
        (t.pixel? column row ≠ s.pixel? column row ↔
          left ≤ column ∧ column < left + 8 ∧ top ≤ row ∧ ∃ h : row - top < sprite.length,
            sprite[row - top].toNat.testBit (7 - (column - left)) = true)) ∧
      (∀ column row value, s.pixel? column row = some value →
        t.pixel? column row = some value ∨ t.pixel? column row = some (value ^^^ 1)) ∧
      (s.Binary → t.Binary) ∧
      (hit = true ↔ ∃ column row,
        t.pixel? column row ≠ s.pixel? column row ∧ s.pixel? column row = some 1) ∧
      t.redraw = true := by
  intro left top
  refine ⟨_, _, plot_eq s x y sprite, fun column row hc hr => ?_, fun column row value hvalue => ?_,
    fun hs => hs.draw x y sprite, ?_, rfl⟩
  · exact draw_ne_iff.trans ⟨fun h => h.2.2, fun h => ⟨hc, hr, h⟩⟩
  · rw [pixel?_draw, hvalue, Option.map_some]
    split
    · exact .inr rfl
    · exact .inl rfl
  · rw [collides_iff]
    constructor
    · rintro ⟨column, row, hcovers, hlit⟩
      have hone := lit_iff.1 hlit
      obtain ⟨hc, hr⟩ := inside_of_pixel? hone
      exact ⟨column, row, draw_ne_iff.2 ⟨hc, hr, hcovers⟩, hone⟩
    · rintro ⟨column, row, hne, hone⟩
      exact ⟨column, row, (draw_ne_iff.1 hne).2.2, lit_iff.2 hone⟩

/-- A sprite over the lower right corner, which is lit: the start is taken modulo the size of the
screen, the corner is flipped and collides, and nothing comes out at the left or at the top. -/
theorem corner_is_clipped :
    ∃ s t, blank.plot 63 31 [0x80] = .ok ⟨s, false⟩ ∧
      s.plot 124 62 [0xFF, 0xFF, 0xFF] = .ok ⟨t, true⟩ ∧
      t.pixel? 60 30 ≠ s.pixel? 60 30 ∧ t.pixel? 63 31 ≠ s.pixel? 63 31 ∧
      t.pixel? 0 30 = s.pixel? 0 30 ∧ t.pixel? 60 0 = s.pixel? 60 0 := by
  obtain ⟨s, hit, hs, hchanged, hflipped, -, hfirst, -⟩ := draw_flips_covered blank 63 31 [0x80]
  obtain ⟨t, hit', ht, hchanged', -, -, hsecond, -⟩ :=
    draw_flips_covered s 124 62 [0xFF, 0xFF, 0xFF]
  have hmiss : hit = false := Bool.eq_false_iff.2 fun h => by
    obtain ⟨column, row, -, hone⟩ := hfirst.1 h
    cases eq_zero_of_blank hone
  have hlit : s.pixel? 63 31 = some 1 := by
    have hzero : blank.pixel? 63 31 = some 0 := by decide
    have hcorner := (hchanged 63 31 (by decide) (by decide)).2 (by decide)
    rw [hzero] at hcorner
    exact (hflipped 63 31 0 hzero).resolve_left hcorner
  have hcorner := (hchanged' 63 31 (by decide) (by decide)).2 (by decide)
  have hcollides : hit' = true := hsecond.2 ⟨63, 31, hcorner, hlit⟩
  subst hmiss hcollides
  refine ⟨s, t, hs, ht, (hchanged' 60 30 (by decide) (by decide)).2 (by decide), hcorner, ?_, ?_⟩
  · exact Decidable.not_not.1 fun hne =>
      absurd ((hchanged' 0 30 (by decide) (by decide)).1 hne) (by decide)
  · exact Decidable.not_not.1 fun hne =>
      absurd ((hchanged' 60 0 (by decide) (by decide)).1 hne) (by decide)

/-! ## Many sprites -/

/-- A sprite and where it is drawn. -/
structure Stroke where
  /-- the column of its upper left corner, modulo the width of the screen -/
  x : UInt8
  /-- the row of its upper left corner, modulo the height of the screen -/
  y : UInt8
  /-- its rows -/
  sprite : List UInt8

/-- A sprite that is drawn somewhere covers a pixel. -/
abbrev Stroke.Covers (k : Stroke) (column row : Nat) : Prop := CoversAt k.x k.y k.sprite column row

/-- Draw one sprite after another. -/
def plotAll (s : Screen) (strokes : List Stroke) : Except Failure Screen :=
  strokes.foldlM (fun s k => (s.plot k.x k.y k.sprite).map Sketch.screen) s

/-- Flip what the sprites cover, for one after another. -/
def drawAll (s : Screen) (strokes : List Stroke) : Screen :=
  strokes.foldl (fun s k => s.draw k.x k.y k.sprite) s

@[simp] theorem drawAll_cons (s : Screen) (k : Stroke) (rest : List Stroke) :
    s.drawAll (k :: rest) = (s.draw k.x k.y k.sprite).drawAll rest := rfl

variable {strokes strokes' : List Stroke}

/-- Drawing sprites is never refused. -/
theorem plotAll_eq (s : Screen) (strokes : List Stroke) :
    s.plotAll strokes = .ok (s.drawAll strokes) := by
  induction strokes generalizing s with
  | nil => rfl
  | cons k rest ih =>
    rw [plotAll, List.foldlM_cons, plot_eq]
    exact ih _

/-- **A pixel after many sprites** is flipped if an odd number of them covers it. By induction on
the sprites, each of which flips it or not. -/
theorem pixel?_drawAll (s : Screen) (strokes : List Stroke) (column row : Nat) :
    (s.drawAll strokes).pixel? column row = (s.pixel? column row).map fun value =>
      if strokes.countP (·.Covers column row) % 2 = 1 then value ^^^ 1 else value := by
  induction strokes generalizing s with
  | nil => exact Option.map_id'.symm
  | cons k rest ih =>
    rw [drawAll_cons, ih, pixel?_draw, Option.map_map, List.countP_cons]
    congr 1
    funext value
    have htwice : value ^^^ 1 ^^^ 1 = value := by
      rw [UInt8.xor_assoc, UInt8.xor_self, UInt8.xor_zero]
    have hparity (n : Nat) : (n + 1) % 2 = 1 ↔ ¬n % 2 = 1 := by omega
    by_cases hcovers : k.Covers column row
    · by_cases hrest : rest.countP (·.Covers column row) % 2 = 1 <;>
        simp only [Function.comp_apply, hcovers, decide_true, if_true, hparity, hrest, htwice,
          not_true, not_false_iff, if_false]
    · simp only [Function.comp_apply, hcovers, decide_false, Bool.false_eq_true, if_false,
        Nat.add_zero]

/-- The flag is set by the first sprite. -/
theorem redraw_drawAll (s : Screen) (strokes : List Stroke) :
    (s.drawAll strokes).redraw = (s.redraw || !strokes.isEmpty) := by
  induction strokes generalizing s with
  | nil => exact (Bool.or_false _).symm
  | cons k rest ih =>
    rw [drawAll_cons, ih]
    exact (Bool.or_true _).symm

/-- As many sprites cover a pixel in one order as in another. -/
theorem drawAll_perm (s : Screen) (h : strokes.Perm strokes') :
    s.drawAll strokes = s.drawAll strokes' := by
  refine ext_pixel (fun column row => ?_) ?_
  · rw [pixel?_drawAll, pixel?_drawAll, h.countP_eq]
  · rw [redraw_drawAll, redraw_drawAll, h.isEmpty_eq]

/-- Drawing a sprite twice only sets the flag. -/
theorem draw_draw (s : Screen) (x y : UInt8) (sprite : List UInt8) :
    (s.draw x y sprite).draw x y sprite = { s with redraw := true } := by
  let twice : List Stroke := [⟨x, y, sprite⟩, ⟨x, y, sprite⟩]
  refine ext_pixel (fun column row => ?_) rfl
  show (s.drawAll twice).pixel? column row = s.pixel? column row
  rw [pixel?_drawAll]
  have heven : twice.countP (·.Covers column row) % 2 ≠ 1 := by
    simp only [twice, List.countP_cons, List.countP_nil]
    split <;> decide
  simp only [heven, if_false, Option.map_id']

/-- **The order of drawing does not matter, and drawing twice is not drawing.** However a list of
sprites is ordered, they can be drawn, and the screen is the same in the end. A sprite that is drawn
a second time at its place leaves the pixels as they were before the first time, and what the second
time collides with are the lit pixels, just before it, of those that the sprite covers. -/
theorem drawing_in_any_order :
    (∀ (s : Screen) (strokes strokes' : List Stroke), strokes.Perm strokes' →
      ∃ t, s.plotAll strokes = .ok t ∧ s.plotAll strokes' = .ok t) ∧
    ∀ (s : Screen) (x y : UInt8) (sprite : List UInt8),
      ∃ drawn first restored second, s.plot x y sprite = .ok ⟨drawn, first⟩ ∧
        drawn.plot x y sprite = .ok ⟨restored, second⟩ ∧
        (∀ column row, restored.pixel? column row = s.pixel? column row) ∧
        (second = true ↔ ∃ column row, column < 64 ∧ row < 32 ∧
          Covers (x.toNat % 64) (y.toNat % 32) sprite column row ∧
            drawn.pixel? column row = some 1) := by
  refine ⟨fun s strokes strokes' h => ?_, fun s x y sprite => ?_⟩
  · exact ⟨_, plotAll_eq s strokes, (drawAll_perm s h) ▸ plotAll_eq s strokes'⟩
  · refine ⟨_, _, _, _, plot_eq s x y sprite, plot_eq _ x y sprite, fun column row => ?_, ?_⟩
    · rw [draw_draw]
      rfl
    · refine (collides_iff _ x y sprite).trans ⟨?_, ?_⟩
      · rintro ⟨column, row, hcovers, hlit⟩
        have hone := lit_iff.1 hlit
        exact ⟨column, row, (inside_of_pixel? hone).1, (inside_of_pixel? hone).2, hcovers, hone⟩
      · rintro ⟨column, row, -, -, hcovers, hone⟩
        exact ⟨column, row, hcovers, lit_iff.2 hone⟩

/-- Two sprites that overlap, in either order, and one of them drawn twice. -/
theorem overlapping_sprites_commute :
    let a : Stroke := ⟨3, 2, [0xF0, 0x90]⟩
    let b : Stroke := ⟨5, 2, [0xFF]⟩
    (∃ t, blank.plotAll [a, b] = .ok t ∧ blank.plotAll [b, a] = .ok t) ∧
      ∃ drawn first restored, blank.plot a.x a.y a.sprite = .ok ⟨drawn, first⟩ ∧
        drawn.plot a.x a.y a.sprite = .ok ⟨restored, true⟩ ∧ restored.pixel? 3 2 = some 0 := by
  intro a b
  obtain ⟨horder, htwice⟩ := drawing_in_any_order
  refine ⟨horder blank [a, b] [b, a] (.swap b a []), ?_⟩
  obtain ⟨drawn, first, restored, second, hfirst, hsecond, hrestored, hcollides⟩ :=
    htwice blank a.x a.y a.sprite
  have hlit : drawn.pixel? 3 2 = some 1 := by
    have hdrawn : drawn = blank.draw a.x a.y a.sprite :=
      (Sketch.mk.inj (Except.ok.inj (hfirst.symm.trans (plot_eq blank a.x a.y a.sprite)))).1
    have hzero : blank.pixel? 3 2 = some 0 := by decide
    rw [hdrawn, pixel?_draw, hzero]
    decide
  have hhit : second = true := hcollides.2 ⟨3, 2, by decide, by decide, by decide, hlit⟩
  subst hhit
  exact ⟨drawn, first, restored, hfirst, hsecond, (hrestored 3 2).trans (by decide)⟩

end Chip8.Screen
