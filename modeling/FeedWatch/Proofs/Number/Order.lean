import FeedWatch.Proofs.Number.Rounding
import Mathlib.Order.WithBot

/-!
# The order of times

Numbers that are infinite or finite are in order, and `Binary64.isBelow` tells it.  Main statement:
to be below is to have the smaller place (`Binary64.isBelow_iff_place`).
-/

namespace FeedWatch.Binary64

variable {x y : Binary64}

/-- The place of a number among all; what is no number has none of its own. -/
def place : Binary64 → WithBot (WithTop ℚ)
  | .infinite negative => if negative then ⊥ else ⊤
  | .nan => ⊤
  | x => ((x.value : WithTop ℚ) : WithBot (WithTop ℚ))

/-- To be below is to have the smaller place. -/
lemma isBelow_iff_place (hx : x ≠ .nan) (hy : y ≠ .nan) :
    x.isBelow y = true ↔ x.place < y.place := by
  cases x with
  | nan => exact absurd rfl hx
  | infinite a =>
    cases y with
    | nan => exact absurd rfl hy
    | infinite b => cases a <;> cases b <;> simp [isBelow, place]
    | finite b n f =>
      cases a
      · simp [isBelow, place]
      · simp [isBelow, place]
  | finite a m e =>
    cases y with
    | nan => exact absurd rfl hy
    | infinite b =>
      cases b
      · simpa [isBelow, place] using WithBot.coe_lt_coe.2 (WithTop.coe_lt_top _)
      · simp [isBelow, place]
    | finite b n f =>
      rw [isBelow_iff rfl rfl]
      exact (WithBot.coe_lt_coe.trans WithTop.coe_lt_coe).symm

lemma place_le_of_not_isBelow (hx : x ≠ .nan) (hy : y ≠ .nan) (h : x.isBelow y = false) :
    y.place ≤ x.place := by
  rw [← not_lt, ← isBelow_iff_place hx hy, h]
  nofun

end FeedWatch.Binary64
