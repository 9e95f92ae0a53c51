import Mathlib.Algebra.Order.BigOperators.Group.List
import Mathlib.Algebra.Order.Field.Basic
import Mathlib.Algebra.Order.Floor.Semiring
import Mathlib.Data.List.GetD
import Mathlib.Data.List.Sort

/-!
# Interpolated quantiles and means of a finite sample

A sequence of values is read at a fractional position by linear interpolation
between the two neighbouring whole positions.  On a stretch on which the values
do not decrease the reading is monotone in the position and stays between its
neighbours.  The quantile of a sample is the reading of its sorted list; the
mean of a sample lies between its bounds.
-/

namespace Datafeed.Quantile

variable {K : Type*} [Field K] [LinearOrder K] [IsStrictOrderedRing K]

section Interpolate

variable [FloorSemiring K]

/-- The value at a fractional position. -/
def interpolate (value : ℕ → K) (position : K) : K :=
  value ⌊position⌋₊ +
    (position - ⌊position⌋₊) * (value ⌈position⌉₊ - value ⌊position⌋₊)

/-- The values do not decrease up to a last position. -/
def NondecreasingTo (value : ℕ → K) (last : ℕ) : Prop :=
  ∀ first second, first ≤ second → second ≤ last → value first ≤ value second

variable {value : ℕ → K} {last : ℕ} {position other : K}

theorem fraction_nonneg (hposition : 0 ≤ position) :
    0 ≤ position - ⌊position⌋₊ :=
  sub_nonneg.mpr (Nat.floor_le hposition)

theorem fraction_le_one (position : K) : position - ⌊position⌋₊ ≤ 1 :=
  sub_le_iff_le_add'.mpr (Nat.lt_floor_add_one position).le

theorem value_floor_le_interpolate (hvalue : NondecreasingTo value last)
    (hposition : 0 ≤ position) (hlast : position ≤ last) :
    value ⌊position⌋₊ ≤ interpolate value position := by
  have hstep : value ⌊position⌋₊ ≤ value ⌈position⌉₊ :=
    hvalue _ _ (Nat.floor_le_ceil position) (Nat.ceil_le.mpr hlast)
  exact le_add_of_nonneg_right
    (mul_nonneg (fraction_nonneg hposition) (sub_nonneg.mpr hstep))

theorem interpolate_le_value_ceil (hvalue : NondecreasingTo value last)
    (hlast : position ≤ last) :
    interpolate value position ≤ value ⌈position⌉₊ := by
  have hstep : value ⌊position⌋₊ ≤ value ⌈position⌉₊ :=
    hvalue _ _ (Nat.floor_le_ceil position) (Nat.ceil_le.mpr hlast)
  calc
    interpolate value position
        ≤ value ⌊position⌋₊ +
            1 * (value ⌈position⌉₊ - value ⌊position⌋₊) := by
          refine add_le_add_right ?_ _
          exact mul_le_mul_of_nonneg_right (fraction_le_one position)
            (sub_nonneg.mpr hstep)
    _ = value ⌈position⌉₊ := by rw [one_mul, add_sub_cancel]

/-- Two positions with one floor lie on one segment. -/
theorem interpolate_mono_of_floor_eq (hvalue : NondecreasingTo value last)
    (hposition : 0 ≤ position) (horder : position ≤ other)
    (hlast : other ≤ last) (hfloor : ⌊position⌋₊ = ⌊other⌋₊) :
    interpolate value position ≤ interpolate value other := by
  have hother : 0 ≤ other := hposition.trans horder
  have hstep : value ⌊position⌋₊ ≤ value ⌈position⌉₊ :=
    hvalue _ _ (Nat.floor_le_ceil position)
      (Nat.ceil_le.mpr (horder.trans hlast))
  have hceil : value ⌈position⌉₊ ≤ value ⌈other⌉₊ :=
    hvalue _ _ (Nat.ceil_mono horder) (Nat.ceil_le.mpr hlast)
  simp only [interpolate, ← hfloor]
  refine add_le_add_right ?_ _
  calc
    (position - ⌊position⌋₊) * (value ⌈position⌉₊ - value ⌊position⌋₊)
        ≤ (other - ⌊position⌋₊) *
            (value ⌈position⌉₊ - value ⌊position⌋₊) := by
          exact mul_le_mul_of_nonneg_right (sub_le_sub_right horder _)
            (sub_nonneg.mpr hstep)
    _ ≤ (other - ⌊position⌋₊) * (value ⌈other⌉₊ - value ⌊position⌋₊) := by
          refine mul_le_mul_of_nonneg_left (sub_le_sub_right hceil _) ?_
          rw [hfloor]
          exact fraction_nonneg hother

theorem interpolate_mono (hvalue : NondecreasingTo value last)
    (hposition : 0 ≤ position) (horder : position ≤ other)
    (hlast : other ≤ last) :
    interpolate value position ≤ interpolate value other := by
  rcases (Nat.floor_mono horder).eq_or_lt with hfloor | hfloor
  · exact interpolate_mono_of_floor_eq hvalue hposition horder hlast hfloor
  · have hother : 0 ≤ other := hposition.trans horder
    have hbetween : ⌈position⌉₊ ≤ ⌊other⌋₊ :=
      (Nat.ceil_le_floor_add_one position).trans hfloor
    have hbound : ⌊other⌋₊ ≤ last :=
      (Nat.floor_le_ceil other).trans (Nat.ceil_le.mpr hlast)
    calc
      interpolate value position
          ≤ value ⌈position⌉₊ :=
            interpolate_le_value_ceil hvalue (horder.trans hlast)
      _ ≤ value ⌊other⌋₊ := hvalue _ _ hbetween hbound
      _ ≤ interpolate value other :=
            value_floor_le_interpolate hvalue hother hlast

end Interpolate

/-! ## The values of a sorted list -/

omit [Field K] [IsStrictOrderedRing K] in
/-- The positions of a sorted list carry values that do not decrease. -/
theorem nondecreasingTo_getD {sorted : List K} (hsorted : sorted.Pairwise (· ≤ ·))
    (default : K) : NondecreasingTo (sorted.getD · default)
      (sorted.length - 1) := by
  intro first second horder hlast
  rcases horder.eq_or_lt with rfl | hlt
  · exact le_rfl
  · have hsecond : second < sorted.length := by omega
    have hfirst : first < sorted.length := by omega
    simp only [List.getD_eq_getElem _ _ hfirst,
      List.getD_eq_getElem _ _ hsecond]
    exact List.pairwise_iff_getElem.mp hsorted first second hfirst hsecond hlt

/-! ## Means -/

theorem le_mean {values : List K} {bound : K} (hne : values ≠ [])
    (hbound : ∀ value ∈ values, bound ≤ value) :
    bound ≤ values.sum / values.length := by
  have hlength : (0 : K) < values.length :=
    Nat.cast_pos.mpr (List.length_pos_iff.mpr hne)
  rw [le_div_iff₀ hlength, mul_comm, ← nsmul_eq_mul]
  exact List.card_nsmul_le_sum values bound hbound

theorem mean_le {values : List K} {bound : K} (hne : values ≠ [])
    (hbound : ∀ value ∈ values, value ≤ bound) :
    values.sum / values.length ≤ bound := by
  have hlength : (0 : K) < values.length :=
    Nat.cast_pos.mpr (List.length_pos_iff.mpr hne)
  rw [div_le_iff₀ hlength, mul_comm, ← nsmul_eq_mul]
  exact List.sum_le_card_nsmul values bound hbound

end Datafeed.Quantile
