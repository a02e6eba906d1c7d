import RegisterPlane.Floating.Shortest
import RegisterPlane.Proofs.Floating.Conversion
import RegisterPlane.Proofs.Text.Digits

namespace RegisterPlane

namespace Decimal

def Equal (a b : Decimal) : Prop := a.numerator * b.denominator = b.numerator * a.denominator

theorem denominator_pos (d : Decimal) : 0 < d.denominator := Nat.pow_pos (by decide)

theorem numerator_eq (d : Decimal) : d.numerator = d.digits * 10 ^ d.exponent.toNat := rfl

theorem denominator_eq (d : Decimal) : d.denominator = 10 ^ (-d.exponent).toNat := rfl

theorem ofRatio_equal (p : Precision) (negative : Bool) {a b : Decimal} (same : a.Equal b) :
    Floating.ofRatio p negative a.numerator a.denominator =
      Floating.ofRatio p negative b.numerator b.denominator :=
  Floating.ofRatio_congr negative a.denominator_pos b.denominator_pos same

theorem infinite_of_leading (p : Precision) (negative : Bool) {d : Decimal} (some_digit : 0 < d.digits)
    (beyond : d.leading ≥ Nat.pow 2 (p.exponentBits - 1)) :
    Floating.ofRatio p negative d.numerator d.denominator = .infinite negative := by
  have least := Text.pow_length_digits_le some_digit
  have length : 0 < (Text.digits d.digits).length := List.length_pos_iff.mpr (Text.digits_ne_nil _)
  have exponents : d.leading.toNat + (-d.exponent).toNat =
      (Text.digits d.digits).length - 1 + d.exponent.toNat := by
    have power : (0 : Int) ≤ (Nat.pow 2 (p.exponentBits - 1) : Nat) := Int.natCast_nonneg _
    unfold leading at *
    omega
  have reached : 2 ^ 2 ^ (p.exponentBits - 1) * d.denominator ≤ d.numerator := by
    have order : 2 ^ (p.exponentBits - 1) ≤ d.leading.toNat := by
      have same : Nat.pow 2 (p.exponentBits - 1) = 2 ^ (p.exponentBits - 1) := rfl
      omega
    calc
      2 ^ 2 ^ (p.exponentBits - 1) * d.denominator ≤ 10 ^ d.leading.toNat * 10 ^ (-d.exponent).toNat := by
        apply Nat.mul_le_mul_right
        exact (Nat.pow_le_pow_right (by decide) order).trans (Nat.pow_le_pow_left (by decide) _)
      _ = 10 ^ ((Text.digits d.digits).length - 1) * 10 ^ d.exponent.toNat := by
        rw [← pow_add, exponents, pow_add]
      _ ≤ d.numerator := Nat.mul_le_mul_right _ least
  have place : p.infinityPlace ≤ p.nearestPlace (d.numerator * p.one) d.denominator := by
    have edge := p.nearestPlace_units p.infinityPlace d.denominator_pos
    rw [← edge]
    apply p.nearestPlace_mono d.denominator_pos d.denominator_pos
    apply Nat.mul_le_mul_right
    rw [p.units_infinityPlace, Nat.mul_right_comm]
    exact Nat.mul_le_mul_right _ reached
  simp only [Floating.ofRatio]
  rw [dif_neg (Nat.not_lt.mpr place)]

theorem zero_of_leading (p : Precision) (negative : Bool) {d : Decimal}
    (below : d.leading < -p.scale) :
    Floating.ofRatio p negative d.numerator d.denominator = .zero p negative := by
  have most := Text.lt_pow_length_digits d.digits
  have exponents : (Text.digits d.digits).length + d.exponent.toNat + p.scale ≤ (-d.exponent).toNat := by
    unfold leading at below
    omega
  have small : d.numerator * 10 ^ p.scale < d.denominator := by
    calc
      d.numerator * 10 ^ p.scale <
          10 ^ (Text.digits d.digits).length * 10 ^ d.exponent.toNat * 10 ^ p.scale := by
        apply Nat.mul_lt_mul_of_pos_right _ (Nat.pow_pos (by decide))
        exact Nat.mul_lt_mul_of_pos_right most (Nat.pow_pos (by decide))
      _ = 10 ^ ((Text.digits d.digits).length + d.exponent.toNat + p.scale) := by
        rw [pow_add, pow_add]
      _ ≤ 10 ^ (-d.exponent).toNat := Nat.pow_le_pow_right (by decide) exponents
  have doubled : 2 * p.one ≤ 10 ^ p.scale := by
    have some_scale : p.scale ≠ 0 := by cases p <;> decide
    calc
      2 * p.one ≤ 2 ^ p.scale * 2 ^ p.scale := Nat.mul_le_mul_right _ (Nat.le_self_pow some_scale 2)
      _ = 4 ^ p.scale := (mul_pow 2 2 p.scale).symm
      _ ≤ 10 ^ p.scale := Nat.pow_le_pow_left (by decide) _
  apply Floating.ofRatio_of_nearest
  apply p.nearestPlace_eq_of_between d.denominator_pos
  · intro before next
    exact absurd next.symm (Nat.succ_ne_zero before)
  · have first : p.midpoint 0 = 1 := by
      have one := p.units_low (show 0 + 1 < p.binadeSize by cases p <;> decide)
      have none := p.units_low p.binadeSize_pos
      rw [Precision.midpoint, one, none]
    calc
      2 * (d.numerator * p.one) = d.numerator * (2 * p.one) := by ring
      _ ≤ d.numerator * 10 ^ p.scale := Nat.mul_le_mul_left _ doubled
      _ < p.midpoint 0 * d.denominator := by rwa [first, Nat.one_mul]

theorem toFloating_eq (p : Precision) (negative : Bool) (d : Decimal) :
    d.toFloating p negative = .ofRatio p negative d.numerator d.denominator := by
  unfold toFloating
  split
  · rename_i none
    symm
    apply Floating.ofRatio_of_nearest
    rw [numerator_eq, none, Nat.zero_mul, Nat.zero_mul]
    have zero := p.nearestPlace_units 0 d.denominator_pos
    rwa [p.units_low p.binadeSize_pos, Nat.zero_mul] at zero
  · rename_i some_digit
    split
    · rename_i beyond
      exact (infinite_of_leading p negative (Nat.pos_of_ne_zero some_digit) beyond).symm
    · split
      · rename_i below
        exact (zero_of_leading p negative below).symm
      · rfl

theorem toFloating_equal (p : Precision) (negative : Bool) {a b : Decimal} (same : a.Equal b) :
    a.toFloating p negative = b.toFloating p negative := by
  rw [toFloating_eq, toFloating_eq, ofRatio_equal p negative same]

end Decimal

namespace Precision

variable {p : Precision} {place : Nat}

theorem readsBack_iff {d : Decimal} :
    p.readsBack place d = true ↔ p.nearestPlace (d.numerator * p.one) d.denominator = place := by
  unfold readsBack
  rw [beq_iff_eq]

theorem readsBack_trim {digits : Nat} {exponent : Int}
    (reads : p.readsBack place ⟨digits, exponent⟩ = true) :
    p.readsBack place (Decimal.trim.go digits exponent) = true := by
  induction digits using Nat.strongRecOn generalizing exponent with
  | ind digits ih =>
      rw [Decimal.trim.go]
      split
      · rename_i trailing
        apply ih (digits / 10) (by omega)
        rw [readsBack_iff] at reads ⊢
        rw [← reads]
        apply p.nearestPlace_congr (Decimal.denominator_pos _) (Decimal.denominator_pos _)
        have whole : digits = digits / 10 * 10 := by omega
        simp only [Decimal.numerator_eq, Decimal.denominator_eq]
        have exponents : (exponent + 1).toNat + (-exponent).toNat =
            exponent.toNat + 1 + (-(exponent + 1)).toNat := by omega
        calc
          digits / 10 * 10 ^ (exponent + 1).toNat * p.one * 10 ^ (-exponent).toNat =
              digits / 10 * 10 ^ ((exponent + 1).toNat + (-exponent).toNat) * p.one := by
            rw [pow_add]
            ring
          _ = digits / 10 * 10 * 10 ^ exponent.toNat * p.one * 10 ^ (-(exponent + 1)).toNat := by
            rw [exponents, pow_add, pow_succ]
            ring
          _ = digits * 10 ^ exponent.toNat * p.one * 10 ^ (-(exponent + 1)).toNat := by rw [← whole]
      · exact reads

theorem readsBack_gridPoint {tie : Tie} {exponent : Int} {d : Decimal}
    (found : p.gridPoint? tie place exponent = some d) : p.readsBack place d = true := by
  simp only [gridPoint?] at found
  split at found
  · cases found
  · rename_i below above
    cases found
    exact below
  · rename_i below above
    cases found
    exact above
  · rename_i below above
    cases found
    repeat' split
    all_goals assumption

theorem readsBack_exactDecimal (p : Precision) (place : Nat) :
    p.readsBack place (p.exactDecimal place) = true := by
  rw [readsBack_iff]
  have rescale : (p.exactDecimal place).numerator * p.one =
      p.units place * (p.exactDecimal place).denominator := by
    have none : (-(p.scale : Int)).toNat = 0 := by omega
    have all : (-(-(p.scale : Int))).toNat = p.scale := by omega
    simp only [Decimal.numerator_eq, Decimal.denominator_eq, exactDecimal]
    rw [none, all, pow_zero, Nat.mul_one, Nat.mul_assoc]
    congr 1
    exact (mul_pow 5 2 p.scale).symm
  rw [rescale]
  exact p.nearestPlace_units place (Decimal.denominator_pos _)

theorem readsBack_shortest (p : Precision) (tie : Tie) (place : Nat) :
    p.readsBack place (p.shortest tie place) = true := by
  unfold shortest
  split
  · rename_i zero
    rw [readsBack_iff, zero, Decimal.numerator_eq, Nat.zero_mul, Nat.zero_mul]
    have here := p.nearestPlace_units 0 (Decimal.denominator_pos ⟨0, 0⟩)
    rwa [p.units_low p.binadeSize_pos, Nat.zero_mul] at here
  · dsimp only
    apply readsBack_trim
    cases found : (List.range digitLimit).findSome? fun (n : Nat) =>
        p.gridPoint? tie place (leadingExponent (p.units place) p.one - n) with
    | none => exact p.readsBack_exactDecimal place
    | some d =>
        obtain ⟨n, -, here⟩ := List.exists_of_findSome?_eq_some found
        exact readsBack_gridPoint here

theorem exponent_shortest {tie : Tie} (zero : (p.shortest tie place).digits = 0) :
    (p.shortest tie place).exponent = 0 := by
  have here : place = 0 := by
    have reads := readsBack_iff.mp (p.readsBack_shortest tie place)
    have none := p.nearestPlace_units 0 (p.shortest tie place).denominator_pos
    rw [p.units_low p.binadeSize_pos, Nat.zero_mul] at none
    rw [← reads, Decimal.numerator_eq, zero, Nat.zero_mul, Nat.zero_mul, none]
  rw [here, shortest, if_pos rfl]

end Precision

namespace Floating

variable {p : Precision}

theorem toFloating_shortest (tie : Tie) (negative : Bool) (place : Fin p.infinityPlace) :
    (p.shortest tie place.val).toFloating p negative = .finite negative place := by
  rw [Decimal.toFloating_eq]
  exact ofRatio_of_nearest negative place
    (Precision.readsBack_iff.mp (p.readsBack_shortest tie place.val))

theorem convert_toFloating_shortest {r q : Precision} (coarse : Precision.Finer p r)
    (fine : Precision.Finer r q) (tie : Tie) (negative : Bool) {place : Fin p.infinityPlace}
    {wide : Fin r.infinityPlace} (here : r.units wide.val = p.units place.val * p.ratio r) :
    ((r.shortest tie wide.val).toFloating q negative).convert p = .finite negative place := by
  have near := Precision.readsBack_iff.mp (r.readsBack_shortest tie wide.val)
  rw [Decimal.toFloating_eq]
  apply convert_ofRatio coarse fine _ (Decimal.denominator_pos _)
  rw [near, here]

end Floating

end RegisterPlane
