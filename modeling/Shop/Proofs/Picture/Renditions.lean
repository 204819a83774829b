import Shop.Picture.Scale
import Shop.Proofs.Number.Nearest

/-!
# The sizes of renditions

The sides of a picture are numbers of 32 bits, and those of the boxes are small.  A double has bits
enough for the shares of such sides, so the rounded ratio leads to the pixels that are nearest to
the exact one.  A side that would vanish is kept as one pixel.
-/

namespace Shop
namespace Raster

open Number

/-- A side of a picture whose longer side is brought to the size of a box. -/
def scaledSide (box longer side : Nat) : Nat :=
  max ((Rounded.ofQuotient doubleBits box longer).scale doubleBits side).round 1

theorem scaledSize_eq (box width height : Nat) :
    scaledSize box width height =
      (scaledSide box (max width height) width, scaledSide box (max width height) height) := rfl

/-- Whether the new length of a side keeps the proportions as well as pixels can: it is nearest to
the exact length, or one pixel where the exact length is less than half of one. -/
def Proportional (box longer side length : Nat) : Prop :=
  Nearest length (side * box) longer ∨ length = 1 ∧ (side * box : ℚ) / longer < 1 / 2

namespace Proportional

variable {box longer side length : Nat}

theorem le {bound : Nat} (proportional : Proportional box longer side length) (pos : 0 < longer)
    (filled : 1 ≤ bound) (bounded : side * box ≤ bound * longer) : length ≤ bound := by
  rcases proportional with nearest | ⟨rfl, _⟩
  · exact nearest.le pos bounded
  · exact filled

theorem le_box (proportional : Proportional box longer side length) (posBox : 0 < box)
    (pos : 0 < longer) (part : side ≤ longer) : length ≤ box := by
  refine proportional.le pos posBox ?_
  rw [Nat.mul_comm box longer]
  exact Nat.mul_le_mul_right box part

theorem le_side (proportional : Proportional box longer side length) (less : box < longer)
    (pos : 0 < side) : length ≤ side :=
  proportional.le (Nat.zero_lt_of_lt less) pos (Nat.mul_le_mul_left side less.le)

/-- The longer side becomes as long as the box. -/
theorem eq_box (proportional : Proportional box longer longer length) (posBox : 0 < box)
    (pos : 0 < longer) : length = box := by
  rcases proportional with nearest | ⟨_, vanishing⟩
  · rw [Nat.mul_comm longer box] at nearest
    exact nearest.eq_of_mul pos
  · have ratio : (longer * box : ℚ) / longer = box :=
      mul_div_cancel_left₀ _ (Nat.cast_ne_zero.mpr pos.ne')
    have one : (1 : ℚ) ≤ box := Nat.one_le_cast.mpr posBox
    rw [ratio] at vanishing
    linarith

end Proportional

/-- Raising a vanished side to one pixel departs from the nearest length only where the exact one is
less than half a pixel. -/
theorem proportional_max {box longer side n : Nat} (nearest : Nearest n (side * box) longer) :
    Proportional box longer side (max n 1) := by
  rcases Nat.eq_zero_or_pos n with rfl | pos
  · unfold Nearest at nearest
    rw [Nat.cast_zero, zero_sub, abs_neg, abs_le, Nat.cast_mul] at nearest
    rcases lt_or_eq_of_le nearest.2 with less | half
    · exact .inr ⟨rfl, less⟩
    · left
      unfold Nearest
      rw [Nat.cast_mul, half]
      norm_num
  · rw [max_eq_left pos]
    exact .inl nearest

theorem scaledSide_proportional {box longer side : Nat} (posBox : 0 < box) (less : box < longer)
    (room : 4 * (box * longer) ≤ 2 ^ (doubleBits - 1)) (pos : 0 < side) (part : side ≤ longer) :
    Proportional box longer side (scaledSide box longer side) :=
  proportional_max (Rounded.round_scale_nearest (by decide) posBox less.le pos part room)

/-- What a picture is that stands for another one in a box. -/
structure FitsInto (made : Raster) (box : Nat) (r : Raster) : Prop where
  filled : 1 ≤ made.width ∧ 1 ≤ made.height
  boxed : made.width ≤ box ∧ made.height ≤ box
  unmagnified : made.width ≤ r.width ∧ made.height ≤ r.height
  same : r.width ≤ box → r.height ≤ box → made = r
  wide : box < r.width → r.height ≤ r.width →
    made.width = box ∧ Proportional box r.width r.height made.height
  high : box < r.height → r.width ≤ r.height →
    made.height = box ∧ Proportional box r.height r.width made.width

theorem shrinkToFit_fitsInto {box : Nat} {r : Raster} (posBox : 0 < box)
    (room : 4 * (box * 2 ^ 32) ≤ 2 ^ (doubleBits - 1)) (posWidth : 1 ≤ r.width)
    (posHeight : 1 ≤ r.height) (width : r.width < 2 ^ 32) (height : r.height < 2 ^ 32) :
    (r.shrinkToFit box).FitsInto box r := by
  by_cases fits : r.width ≤ box ∧ r.height ≤ box
  · have same : r.shrinkToFit box = r := if_pos fits
    rw [same]
    exact {
      filled := ⟨posWidth, posHeight⟩
      boxed := fits
      unmagnified := ⟨le_rfl, le_rfl⟩
      same := fun _ _ => rfl
      wide := fun less _ => absurd fits.1 less.not_ge
      high := fun less _ => absurd fits.2 less.not_ge }
  · have scaled : r.shrinkToFit box =
        r.resize (scaledSide box (max r.width r.height) r.width)
          (scaledSide box (max r.width r.height) r.height) := by
      rw [shrinkToFit, if_neg fits, scaledSize_eq]
    have less : box < max r.width r.height := by omega
    have pos : 0 < max r.width r.height := posBox.trans less
    have roomLonger : 4 * (box * max r.width r.height) ≤ 2 ^ (doubleBits - 1) :=
      (Nat.mul_le_mul_left 4 (Nat.mul_le_mul_left box (max_lt width height).le)).trans room
    have wide := scaledSide_proportional posBox less roomLonger posWidth (le_max_left _ _)
    have high := scaledSide_proportional posBox less roomLonger posHeight (le_max_right _ _)
    rw [scaled]
    exact {
      filled := ⟨le_max_right _ _, le_max_right _ _⟩
      boxed :=
        ⟨wide.le_box posBox pos (le_max_left _ _), high.le_box posBox pos (le_max_right _ _)⟩
      unmagnified := ⟨wide.le_side less posWidth, high.le_side less posHeight⟩
      same := fun narrow low => absurd ⟨narrow, low⟩ fits
      wide := fun _ longer => by
        rw [max_eq_left longer] at wide high
        rw [max_eq_left longer]
        exact ⟨wide.eq_box posBox posWidth, high⟩
      high := fun _ longer => by
        rw [max_eq_right longer] at wide high
        rw [max_eq_right longer]
        exact ⟨high.eq_box posBox posHeight, wide⟩ }

end Raster

namespace Renditions

/-- The renditions of a picture are itself and two that fit into their boxes. -/
theorem of_fitsInto {r : Raster} (posWidth : 1 ≤ r.width) (posHeight : 1 ≤ r.height)
    (width : r.width < 2 ^ 32) (height : r.height < 2 ^ 32) :
    (Renditions.of r).full = r ∧ (Renditions.of r).thumbnail.FitsInto 100 r ∧
      (Renditions.of r).main.FitsInto 500 r :=
  ⟨rfl, Raster.shrinkToFit_fitsInto (by decide) (by decide) posWidth posHeight width height,
    Raster.shrinkToFit_fitsInto (by decide) (by decide) posWidth posHeight width height⟩

/-- A picture so long and low that its height would vanish. -/
def thread : Raster := ⟨100000, 7, ⟨1, false⟩, none⟩

theorem of_fitsInto_thread :
    let made := Renditions.of thread
    (1 ≤ thread.width ∧ 1 ≤ thread.height ∧ thread.width < 2 ^ 32 ∧ thread.height < 2 ^ 32) ∧
      (made.full = thread ∧ made.thumbnail.FitsInto 100 thread ∧ made.main.FitsInto 500 thread) ∧
      made.thumbnail.size = (100, 1) ∧ made.main.size = (500, 1) :=
  ⟨by decide, of_fitsInto (by decide) (by decide) (by decide) (by decide), by decide, by decide⟩

end Renditions
end Shop
