import Mathlib.Tactic
import RegisterPlane.Proofs.Floating.Exact

namespace RegisterPlane

/-- No integer is nearer, and none that is as near is further from zero. -/
structure IsNearest (x : ℚ) (n : ℤ) : Prop where
  near : ∀ m : ℤ, |x - n| ≤ |x - m|
  away : ∀ m : ℤ, |x - m| = |x - n| → |m| ≤ |n|

theorem IsNearest.unique {x : ℚ} {n m : ℤ} (first : IsNearest x n) (second : IsNearest x m) : n = m := by
  have level : |x - n| = |x - m| := le_antisymm (first.near m) (second.near n)
  have size : |n| = |m| := le_antisymm (second.away n level) (first.away m level.symm)
  rcases abs_eq_abs.mp size with same | opposite
  · exact same
  · -- Two integers on either side of zero are as near to zero alone, to which zero is nearer.
    have mirrored : (m : ℚ) = -n := by
      rw [opposite]
      push_cast
      ring
    have product : x * n = 0 := by
      rw [mirrored, sub_neg_eq_add] at level
      have squares := (sq_eq_sq_iff_abs_eq_abs _ _).mpr level
      linarith [squares, show (x + n) ^ 2 - (x - n) ^ 2 = 4 * (x * n) by ring]
    have zero : n = 0 := by
      rcases mul_eq_zero.mp product with origin | none
      · have nearer := first.near 0
        rw [origin, Int.cast_zero, sub_zero, abs_zero, zero_sub, abs_neg] at nearer
        exact_mod_cast abs_nonpos_iff.mp nearer
      · exact_mod_cast none
    rw [zero] at opposite ⊢
    omega

theorem IsNearest.neg {x : ℚ} {n : ℤ} (nearest : IsNearest x n) : IsNearest (-x) (-n) := by
  have mirror : ∀ m : ℤ, |-x - m| = |x - (-m : ℤ)| := by
    intro m
    rw [← abs_neg]
    congr 1
    push_cast
    ring
  constructor
  · intro m
    rw [mirror, mirror, neg_neg]
    exact nearest.near (-m)
  · intro m level
    rw [mirror, mirror, neg_neg] at level
    rw [abs_neg, ← abs_neg m]
    exact nearest.away (-m) level

theorem isNearest_of_bounds {x : ℚ} {n : ℤ} (positive : 0 ≤ x) (lower : n - 1 / 2 ≤ x)
    (upper : x < n + 1 / 2) : IsNearest x n := by
  have within : |x - n| ≤ 1 / 2 := abs_le.mpr ⟨by linarith, by linarith⟩
  have natural : 0 ≤ n := by
    have above : (-1 : ℚ) < n := by linarith
    have above' : -1 < n := by exact_mod_cast above
    omega
  have natural' : (0 : ℚ) ≤ n := by exact_mod_cast natural
  constructor
  · intro m
    rcases lt_trichotomy m n with less | rfl | more
    · have step : (m : ℚ) + 1 ≤ n := by exact_mod_cast less
      exact within.trans (le_trans (by linarith) (le_abs_self _))
    · exact le_refl _
    · have step : (n : ℚ) + 1 ≤ m := by exact_mod_cast more
      exact within.trans (le_trans (by linarith) (neg_le_abs _))
  · intro m level
    rw [abs_of_nonneg natural]
    apply abs_le.mpr
    constructor
    · by_contra less
      have step : (m : ℚ) + 1 ≤ -n := by exact_mod_cast not_le.mp less
      have far := le_abs_self (x - m)
      linarith
    · by_contra more
      have step : (n : ℚ) + 1 ≤ m := by exact_mod_cast not_le.mp more
      have far := neg_le_abs (x - m)
      linarith

theorem isNearest_roundHalfUp (num : ℕ) {den : ℕ} (positive : 0 < den) :
    IsNearest ((num : ℚ) / den) (roundHalfUp num den) := by
  have scale : (0 : ℚ) < den := by exact_mod_cast positive
  have least : roundHalfUp num den * (2 * den) ≤ 2 * num + den := Nat.div_mul_le_self _ _
  have most : 2 * num + den < (roundHalfUp num den + 1) * (2 * den) :=
    (Nat.div_lt_iff_lt_mul (by omega)).mp (Nat.lt_succ_self _)
  have least' : (roundHalfUp num den : ℚ) * (2 * den) ≤ 2 * num + den := by exact_mod_cast least
  have most' : 2 * (num : ℚ) + den < (roundHalfUp num den + 1) * (2 * den) := by exact_mod_cast most
  apply isNearest_of_bounds (by positivity)
  · rw [le_div_iff₀ scale]
    push_cast
    linarith
  · rw [div_lt_iff₀ scale]
    push_cast
    linarith

namespace Floating

variable {p q : Precision}

def rational? : Floating p → Option ℚ
  | finite negative place =>
    some (if negative then -((p.units place.val : ℚ) / p.one) else (p.units place.val : ℚ) / p.one)
  | _ => none

theorem rational_of_matches {x : Floating p} {y : Floating q} (same : x.Matches y) :
    x.rational? = y.rational? := by
  cases same with
  | nan => rfl
  | infinite negative => rfl
  | @finite negative place place' magnitude =>
      have one_pos : (p.one : ℚ) ≠ 0 := by exact_mod_cast p.one_pos.ne'
      have one_pos' : (q.one : ℚ) ≠ 0 := by exact_mod_cast q.one_pos.ne'
      have level : (p.units place.val : ℚ) / p.one = (q.units place'.val : ℚ) / q.one := by
        rw [div_eq_div_iff one_pos one_pos']
        exact_mod_cast magnitude
      simp only [rational?, level]

theorem rational_of_isInteger {i : Int} {x : Floating p} (whole : x.IsInteger i) :
    x.rational? = some (i : ℚ) := by
  obtain ⟨place, rfl, magnitude⟩ := whole
  have one_pos : (p.one : ℚ) ≠ 0 := by exact_mod_cast p.one_pos.ne'
  have size : (p.units place.val : ℚ) / p.one = |(i : ℚ)| := by
    rw [magnitude, Nat.cast_mul, mul_div_assoc, div_self one_pos, mul_one, Nat.cast_natAbs, Int.cast_abs]
  simp only [rational?, size, Option.some.injEq]
  by_cases negative : i < 0
  · rw [decide_eq_true negative, if_pos rfl, abs_of_neg (by exact_mod_cast negative), neg_neg]
  · rw [decide_eq_false negative, if_neg (by decide), abs_of_nonneg (by exact_mod_cast not_lt.mp negative)]

theorem abs_of_rational {negative : Bool} {place : Fin p.infinityPlace} {q : ℚ}
    (number : (finite negative place).rational? = some q) : |q| = (p.units place.val : ℚ) / p.one := by
  have positive : (0 : ℚ) ≤ (p.units place.val : ℚ) / p.one := by positivity
  cases number
  cases negative with
  | false => exact abs_of_nonneg positive
  | true =>
      rw [if_pos rfl, abs_neg]
      exact abs_of_nonneg positive

theorem isInteger_of_small {n : Int} {q : ℚ} (number : (ofInt p n).rational? = some q)
    (small : |q| ≤ (2 * p.binadeSize : Nat)) :
    (ofInt p n).IsInteger (max (-(2 * p.binadeSize : Nat)) (min n (2 * p.binadeSize : Nat))) := by
  have positive := p.binadeSize_pos
  generalize bound : 2 * p.binadeSize = b at small ⊢
  by_cases few : n.natAbs ≤ b
  · obtain ⟨x, whole⟩ := exists_isInteger p (bound ▸ few)
    have held : max (-(b : Int)) (min n b) = n := by omega
    rw [held, ofInt_of_isInteger whole]
    exact whole
  -- the number is no nearer to zero than the last integer held, and no further by what is known of it
  · obtain ⟨edge, top, -⟩ := p.exists_units p.scale (show b ≤ 2 * p.binadeSize by omega)
    have magnitude : (max (-(b : Int)) (min n b)).natAbs = b := by omega
    have sign : decide (max (-(b : Int)) (min n b) < 0) = decide (n < 0) := by
      rw [decide_eq_decide]
      omega
    cases here : ofInt p n with
    | nan =>
        rw [here] at number
        cases number
    | infinite negative =>
        rw [here] at number
        cases number
    | finite negative place =>
        obtain ⟨rfl, nearest⟩ := of_ofRatio_finite here
        have below : edge ≤ place.val := by
          rw [nearest, ← p.nearestPlace_units edge Nat.one_pos]
          apply p.nearestPlace_mono Nat.one_pos Nat.one_pos
          rw [top, Nat.mul_one, Nat.mul_one, Nat.mul_one]
          exact Nat.mul_le_mul_right _ (by omega)
        have above : p.units place.val ≤ b * p.one := by
          rw [here] at number
          rw [abs_of_rational number, div_le_iff₀ (by exact_mod_cast p.one_pos)] at small
          exact_mod_cast small
        have level : p.units place.val = b * p.one :=
          le_antisymm above (top ▸ p.units_strictMono.monotone below)
        exact ⟨place, by rw [sign], by rw [magnitude, level]⟩

/-- What can be held of an integer that a number is rounded to. -/
def hold (n : ℤ) : ℤ := max (-2 ^ 127) (min n (2 ^ 127 - 1))

/-- The integer that a number is rounded to, none for what is no number. -/
inductive RoundsTo : Floating p → ℤ → Prop
  | nan : RoundsTo nan 0
  | infinite (negative : Bool) :
      RoundsTo (infinite negative) (if negative then -2 ^ 127 else 2 ^ 127 - 1)
  | finite {negative : Bool} {place : Fin p.infinityPlace} {x : ℚ} {n : ℤ}
      (stands : rational? (finite negative place) = some x) (nearest : IsNearest x n) :
      RoundsTo (finite negative place) (hold n)

theorem roundsTo_toInteger (x : Floating p) : x.RoundsTo x.toInteger := by
  cases x with
  | nan => exact .nan
  | infinite negative =>
      cases negative with
      | false => exact .infinite false
      | true => exact .infinite true
  | finite negative place =>
      have nearest := isNearest_roundHalfUp (p.units place.val) p.one_pos
      generalize magnitude : roundHalfUp (p.units place.val) p.one = m at nearest
      have limit : ((integerLimit : ℕ) : ℤ) = 2 ^ 127 := rfl
      have limit' : ((integerLimit - 1 : ℕ) : ℤ) = 2 ^ 127 - 1 := rfl
      cases negative with
      | false =>
          have held : (finite false place : Floating p).toInteger = hold m := by
            simp only [toInteger, magnitude, hold, Bool.false_eq_true, if_false]
            omega
          rw [held]
          exact .finite rfl nearest
      | true =>
          have held : (finite true place : Floating p).toInteger = hold (-m) := by
            simp only [toInteger, magnitude, hold, if_true]
            omega
          rw [held]
          exact .finite rfl nearest.neg

theorem RoundsTo.unique {x : Floating p} {n m : ℤ} (first : x.RoundsTo n) (second : x.RoundsTo m) :
    n = m := by
  cases first with
  | nan =>
      cases second with
      | nan => rfl
  | infinite negative =>
      cases second with
      | infinite => rfl
  | finite stands nearest =>
      cases second with
      | finite stands' nearest' =>
          rw [stands] at stands'
          cases stands'
          rw [nearest.unique nearest']

theorem RoundsTo.of_matches {x : Floating p} {y : Floating q} {n : ℤ} (rounds : x.RoundsTo n)
    (same : x.Matches y) : y.RoundsTo n := by
  have number := rational_of_matches same
  cases rounds with
  | nan =>
      cases same with
      | nan => exact .nan
  | infinite negative =>
      cases same with
      | infinite => exact .infinite negative
  | finite stands nearest =>
      cases same with
      | finite => exact .finite (number.symm.trans stands) nearest

end Floating

end RegisterPlane
