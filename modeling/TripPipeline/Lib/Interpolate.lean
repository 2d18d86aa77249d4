import Mathlib.Algebra.Order.Floor.Semiring
import Mathlib.Order.Interval.Set.Basic
import Mathlib.Tactic.Linarith
import Mathlib.Tactic.Ring

/-!
# Linear interpolation between the values of a sequence

`interp f x` is the value at `x` of the polygon through the points `(i, f i)`. The two cases of its
usual programs, an `x` that is an index and an `x` between two of them, are one formula here.

* `le_interp`, `interp_le`: the value lies between the values at the two indices around `x`, for a
  sequence that rises there.
* `interp_mono`: the polygon through a rising sequence rises.
* `interp_le_interp`: a larger sequence has the larger polygon.
-/

namespace TripPipeline.Lib

variable {K : Type} [Field K] [LinearOrder K] [IsStrictOrderedRing K] [FloorSemiring K]

/-- The polygon through the points `(i, f i)`. -/
def interp (f : ℕ → K) (x : K) : K := f ⌊x⌋₊ + (f ⌈x⌉₊ - f ⌊x⌋₊) * (x - ⌊x⌋₊)

variable {f g : ℕ → K} {x y : K} {N : ℕ}

/-- At an index the polygon has the value at the index. -/
@[simp] theorem interp_natCast (f : ℕ → K) (i : ℕ) : interp f i = f i := by
  simp [interp]

/-- How far `x` is from the index below it. -/
theorem fract_mem (hx : 0 ≤ x) : 0 ≤ x - ⌊x⌋₊ ∧ x - ⌊x⌋₊ ≤ 1 := by
  have hlow := Nat.floor_le hx
  have hhigh := (Nat.lt_floor_add_one x).le
  constructor <;> linarith

omit [Field K] [IsStrictOrderedRing K] [FloorSemiring K] in
/-- The values do not fall up to the last index. -/
theorem le_of_monotoneOn (hf : MonotoneOn f (Set.Iic N)) {i j : ℕ} (hij : i ≤ j) (hj : j ≤ N) :
    f i ≤ f j := hf (Set.mem_Iic.mpr (hij.trans hj)) (Set.mem_Iic.mpr hj) hij

/-- The polygon is not below its value at the index before. -/
theorem le_interp (hf : MonotoneOn f (Set.Iic N)) (hx : 0 ≤ x) (hxN : x ≤ N) :
    f ⌊x⌋₊ ≤ interp f x := by
  have hrise : f ⌊x⌋₊ ≤ f ⌈x⌉₊ := le_of_monotoneOn hf (Nat.floor_le_ceil x) (Nat.ceil_le.mpr hxN)
  have hstep := mul_nonneg (sub_nonneg.mpr hrise) (fract_mem hx).1
  exact le_add_of_nonneg_right hstep

/-- The polygon is not above its value at the index after. -/
theorem interp_le (hf : MonotoneOn f (Set.Iic N)) (hx : 0 ≤ x) (hxN : x ≤ N) :
    interp f x ≤ f ⌈x⌉₊ := by
  have hrise : f ⌊x⌋₊ ≤ f ⌈x⌉₊ := le_of_monotoneOn hf (Nat.floor_le_ceil x) (Nat.ceil_le.mpr hxN)
  have hstep := mul_le_of_le_one_right (sub_nonneg.mpr hrise) (fract_mem hx).2
  unfold interp
  linarith

/-- **A rising sequence has a rising polygon.** -/
theorem interp_mono (hf : MonotoneOn f (Set.Iic N)) (hx : 0 ≤ x) (hxy : x ≤ y) (hyN : y ≤ N) :
    interp f x ≤ interp f y := by
  have hy := hx.trans hxy
  rcases (Nat.floor_le_floor hxy).eq_or_lt with hsame | hless
  · -- in one segment, or up to its end
    have hup : f ⌊y⌋₊ ≤ f ⌈y⌉₊ := le_of_monotoneOn hf (Nat.floor_le_ceil y) (Nat.ceil_le.mpr hyN)
    have hceil : ⌈x⌉₊ ≤ ⌈y⌉₊ := Nat.ceil_le_ceil hxy
    have hrise : f ⌈x⌉₊ ≤ f ⌈y⌉₊ := le_of_monotoneOn hf hceil (Nat.ceil_le.mpr hyN)
    calc interp f x
        = f ⌊y⌋₊ + (f ⌈x⌉₊ - f ⌊y⌋₊) * (x - ⌊y⌋₊) := by rw [interp, hsame]
      _ ≤ f ⌊y⌋₊ + (f ⌈y⌉₊ - f ⌊y⌋₊) * (x - ⌊y⌋₊) := by
          have hfract := (fract_mem hx).1
          rw [hsame] at hfract
          have := mul_le_mul_of_nonneg_right (sub_le_sub_right hrise (f ⌊y⌋₊)) hfract
          linarith
      _ ≤ interp f y := by
          have := mul_le_mul_of_nonneg_left (sub_le_sub_right hxy (⌊y⌋₊ : K))
            (sub_nonneg.mpr hup)
          unfold interp
          linarith
  · have hceil : ⌈x⌉₊ ≤ ⌊y⌋₊ := (Nat.ceil_le_floor_add_one x).trans hless
    have hfloor : ⌊y⌋₊ ≤ N := (Nat.floor_le_ceil y).trans (Nat.ceil_le.mpr hyN)
    calc interp f x ≤ f ⌈x⌉₊ := interp_le hf hx (hxy.trans hyN)
      _ ≤ f ⌊y⌋₊ := le_of_monotoneOn hf hceil hfloor
      _ ≤ interp f y := le_interp hf hy hyN

/-- **A larger sequence has the larger polygon.** -/
theorem interp_le_interp (hx : 0 ≤ x) (hfloor : f ⌊x⌋₊ ≤ g ⌊x⌋₊) (hceil : f ⌈x⌉₊ ≤ g ⌈x⌉₊) :
    interp f x ≤ interp g x := by
  obtain ⟨hlow, hhigh⟩ := fract_mem hx
  have hf : interp f x = f ⌊x⌋₊ * (1 - (x - ⌊x⌋₊)) + f ⌈x⌉₊ * (x - ⌊x⌋₊) := by
    unfold interp
    ring
  have hg : interp g x = g ⌊x⌋₊ * (1 - (x - ⌊x⌋₊)) + g ⌈x⌉₊ * (x - ⌊x⌋₊) := by
    unfold interp
    ring
  rw [hf, hg]
  exact add_le_add (mul_le_mul_of_nonneg_right hfloor (sub_nonneg.mpr hhigh))
    (mul_le_mul_of_nonneg_right hceil hlow)

end TripPipeline.Lib
