import Mathlib

/-!
# Rounding to multiples of a unit

Rounding up and rounding down to a multiple of a positive unit are adjoint: a
number rounded up stays within a bound exactly when the number itself stays
within the bound rounded down.
-/

namespace MotionSense

/-- The least multiple of the unit that is not less. -/
def alignUp (unit number : Int) : Int :=
  (number + (unit - 1)) / unit * unit

/-- The greatest multiple of the unit that is not greater. -/
def alignDown (unit number : Int) : Int :=
  number / unit * unit

variable {unit : Int} (positive : 0 < unit)

include positive in
theorem alignUp_gc : GaloisConnection (alignUp unit) (alignDown unit) := by
  intro number bound
  rw [alignUp, alignDown, ← Int.le_ediv_iff_mul_le positive,
    ← Int.lt_add_one_iff, Int.ediv_lt_iff_lt_mul positive, add_mul, one_mul]
  omega

include positive in
theorem le_alignUp (number : Int) : number ≤ alignUp unit number := by
  have fits := (alignUp_gc positive).le_u_l number
  have smaller := Int.ediv_mul_le (alignUp unit number) positive.ne'
  exact fits.trans smaller

theorem dvd_alignUp (number : Int) : unit ∣ alignUp unit number :=
  Int.dvd_mul_left _ _

include positive in
/-- A multiple of the unit can be taken out. -/
theorem alignUp_sub_of_dvd
    {multiple : Int} (divides : unit ∣ multiple) (number : Int) :
    alignUp unit (number - multiple) = alignUp unit number - multiple := by
  obtain ⟨factor, rfl⟩ := divides
  rw [alignUp, alignUp, sub_add_eq_add_sub, Int.sub_mul_ediv_left _ _
    positive.ne', sub_mul, mul_comm factor]

end MotionSense
