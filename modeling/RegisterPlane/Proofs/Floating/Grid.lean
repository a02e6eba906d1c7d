import Mathlib.Tactic
import RegisterPlane.Floating.Rounding

/-! The row of magnitudes of a precision, and rounding to it: the place nearest to a ratio is the one
between whose two midpoints the ratio lies. -/

namespace RegisterPlane

theorem roundHalfEven_bounds (num : Nat) {den : Nat} (positive : 0 < den) :
    2 * num ≤ (2 * roundHalfEven num den + 1) * den ∧
      2 * roundHalfEven num den * den ≤ 2 * num + den := by
  have parts := Nat.div_add_mod num den
  have small := Nat.mod_lt num positive
  have expand : ∀ q, (2 * q + 1) * den = 2 * (den * q) + den := fun q => by ring
  have expand' : ∀ q, 2 * q * den = 2 * (den * q) := fun q => by ring
  have next : den * (num / den + 1) = den * (num / den) + den := by ring
  simp only [roundHalfEven]
  split
  · rw [expand, expand']
    omega
  · split
    · rw [expand, expand', next]
      omega
    · rcases Nat.mod_two_eq_zero_or_one (num / den) with even | odd
      · rw [even, expand, expand', Nat.add_zero]
        omega
      · rw [odd, expand, expand', next]
        omega

theorem roundHalfEven_even {num den : Nat} (positive : 0 < den)
    (odd : roundHalfEven num den % 2 = 1) :
    2 * num < (2 * roundHalfEven num den + 1) * den ∧
      2 * roundHalfEven num den * den < 2 * num + den := by
  have parts := Nat.div_add_mod num den
  have small := Nat.mod_lt num positive
  have expand : ∀ q, (2 * q + 1) * den = 2 * (den * q) + den := fun q => by ring
  have expand' : ∀ q, 2 * q * den = 2 * (den * q) := fun q => by ring
  have next : den * (num / den + 1) = den * (num / den) + den := by ring
  revert odd
  simp only [roundHalfEven]
  split
  · intro odd
    rw [expand, expand']
    omega
  · split
    · intro odd
      rw [expand, expand', next]
      omega
    · intro odd
      omega

namespace Precision

variable (p : Precision)

theorem binadeSize_eq : p.binadeSize = 2 ^ p.fractionBits := rfl

theorem binadeSize_pos : 0 < p.binadeSize := by cases p <;> decide

theorem binadeSize_even : p.binadeSize % 2 = 0 := by cases p <;> decide

theorem one_pos : 0 < p.one := Nat.pow_pos (by decide)

theorem units_low {place : Nat} (low : place < p.binadeSize) : p.units place = place := by
  simp only [units]
  rw [Nat.div_eq_of_lt low, if_pos rfl, Nat.mod_eq_of_lt low]

theorem units_fields (binade : Nat) {fraction : Nat} (small : fraction < p.binadeSize) :
    p.units ((binade + 1) * p.binadeSize + fraction) = (p.binadeSize + fraction) * 2 ^ binade := by
  have positive := p.binadeSize_pos
  have quotient : ((binade + 1) * p.binadeSize + fraction) / p.binadeSize = binade + 1 := by
    rw [Nat.mul_comm, Nat.mul_add_div positive, Nat.div_eq_of_lt small, Nat.add_zero]
  have remainder : ((binade + 1) * p.binadeSize + fraction) % p.binadeSize = fraction :=
    Nat.mul_add_mod_of_lt small
  simp only [units]
  rw [quotient, remainder, if_neg (Nat.succ_ne_zero binade), Nat.add_sub_cancel]
  rfl

theorem units_binade (shift : Nat) {q : Nat} (least : p.binadeSize ≤ q)
    (most : q ≤ 2 * p.binadeSize) : p.units (shift * p.binadeSize + q) = q * 2 ^ shift := by
  have positive := p.binadeSize_pos
  by_cases last : q = 2 * p.binadeSize
  · have place : shift * p.binadeSize + q = (shift + 1 + 1) * p.binadeSize + 0 := by
      rw [last]
      ring
    rw [place, units_fields p (shift + 1) positive, last, pow_succ]
    ring
  · have place : shift * p.binadeSize + q = (shift + 1) * p.binadeSize + (q - p.binadeSize) := by
      rw [Nat.add_mul, Nat.one_mul]
      omega
    have small : q - p.binadeSize < p.binadeSize := by omega
    rw [place, units_fields p shift small, Nat.add_sub_cancel' least]

theorem place_cases (place : Nat) :
    place < p.binadeSize ∨ ∃ binade fraction, fraction < p.binadeSize ∧
      place = (binade + 1) * p.binadeSize + fraction := by
  have positive := p.binadeSize_pos
  have parts := Nat.div_add_mod place p.binadeSize
  have small := Nat.mod_lt place positive
  rcases Nat.eq_zero_or_pos (place / p.binadeSize) with none | some_binade
  · rw [none, Nat.mul_zero, Nat.zero_add] at parts
    exact Or.inl (by omega)
  · refine Or.inr ⟨place / p.binadeSize - 1, place % p.binadeSize, small, ?_⟩
    rw [Nat.sub_add_cancel some_binade, Nat.mul_comm, parts]

theorem units_lt_succ (place : Nat) : p.units place < p.units (place + 1) := by
  have positive := p.binadeSize_pos
  rcases p.place_cases place with low | ⟨binade, fraction, small, rfl⟩
  · rw [p.units_low low]
    by_cases next : place + 1 < p.binadeSize
    · rw [p.units_low next]
      omega
    · have edge : place + 1 = 0 * p.binadeSize + p.binadeSize := by omega
      rw [edge, p.units_binade 0 (le_refl _) (by omega)]
      omega
  · have here : (binade + 1) * p.binadeSize + fraction =
        binade * p.binadeSize + (p.binadeSize + fraction) := by ring
    have next : (binade + 1) * p.binadeSize + fraction + 1 =
        binade * p.binadeSize + (p.binadeSize + fraction + 1) := by ring
    rw [next, here, p.units_binade binade (by omega) (by omega),
      p.units_binade binade (by omega) (by omega)]
    exact Nat.mul_lt_mul_of_pos_right (Nat.lt_succ_self _) (Nat.pow_pos (by decide))

theorem units_strictMono : StrictMono p.units := strictMono_nat_of_lt_succ p.units_lt_succ

theorem units_shifted {shift q : Nat} (most : q ≤ 2 * p.binadeSize)
    (least : shift = 0 ∨ p.binadeSize ≤ q) : p.units (shift * p.binadeSize + q) = q * 2 ^ shift := by
  by_cases low : q < p.binadeSize
  · have none : shift = 0 := least.resolve_right (by omega)
    rw [none, Nat.zero_mul, Nat.zero_add, p.units_low low, pow_zero, Nat.mul_one]
  · exact p.units_binade shift (by omega) most

theorem le_units_next {shift q : Nat} (most : q ≤ 2 * p.binadeSize)
    (least : shift = 0 ∨ p.binadeSize ≤ q) :
    (q + 1) * 2 ^ shift ≤ p.units (shift * p.binadeSize + q + 1) := by
  have positive := p.binadeSize_pos
  by_cases inner : q < 2 * p.binadeSize
  · rw [Nat.add_assoc, p.units_shifted (by omega) (least.imp_right (by omega))]
  · have place : shift * p.binadeSize + q + 1 = (shift + 1) * p.binadeSize + (p.binadeSize + 1) := by
      rw [show q = 2 * p.binadeSize by omega]
      ring
    have doubled : (p.binadeSize + 1) * (2 ^ shift * 2) = (2 * (p.binadeSize + 1)) * 2 ^ shift := by
      ring
    rw [place, p.units_binade (shift + 1) (by omega) (by omega), pow_succ, doubled]
    exact Nat.mul_le_mul_right _ (by omega)

/-- Twice the midpoint between a place and the next. -/
def midpoint (place : Nat) : Nat := p.units place + p.units (place + 1)

theorem midpoint_strictMono : StrictMono p.midpoint :=
  strictMono_nat_of_lt_succ fun place =>
    Nat.add_lt_add (p.units_lt_succ place) (p.units_lt_succ (place + 1))

theorem nearestPlace_cases (num : Nat) {den : Nat} (positive : 0 < den) :
    ∃ shift q, p.nearestPlace num den = shift * p.binadeSize + q ∧
      q = roundHalfEven num (den * 2 ^ shift) ∧ q ≤ 2 * p.binadeSize ∧
      (shift = 0 ∨ p.binadeSize ≤ q ∧ p.binadeSize * (den * 2 ^ shift) ≤ num) := by
  have size := p.binadeSize_eq
  have spacing : ∀ shift, 0 < den * 2 ^ shift := fun shift =>
    Nat.mul_pos positive (Nat.pow_pos (by decide))
  generalize chosen : Nat.log2 (num / den) - p.fractionBits = shift
  have above : num < 2 * p.binadeSize * (den * 2 ^ shift) := by
    have ratio : num / den < 2 ^ (Nat.log2 (num / den) + 1) := Nat.lt_log2_self
    have power : 2 ^ (Nat.log2 (num / den) + 1) ≤ 2 ^ (shift + p.fractionBits + 1) :=
      Nat.pow_le_pow_right (by decide) (by omega)
    have below := (Nat.div_lt_iff_lt_mul positive).mp (ratio.trans_le power)
    rw [size]
    calc
      num < 2 ^ (shift + p.fractionBits + 1) * den := below
      _ = 2 * 2 ^ p.fractionBits * (den * 2 ^ shift) := by
        rw [pow_succ, pow_add]
        ring
  obtain ⟨upper, lower⟩ := roundHalfEven_bounds num (spacing shift)
  refine ⟨shift, _, by rw [← chosen]; rfl, rfl, ?_, ?_⟩
  · have bound : 2 * roundHalfEven num (den * 2 ^ shift) * (den * 2 ^ shift) <
        (4 * p.binadeSize + 1) * (den * 2 ^ shift) := by
      rw [Nat.add_mul, Nat.one_mul, show 4 * p.binadeSize = 2 * (2 * p.binadeSize) by ring,
        Nat.mul_assoc 2 (2 * p.binadeSize)]
      omega
    have compared := Nat.lt_of_mul_lt_mul_right bound
    omega
  · rcases Nat.eq_zero_or_pos shift with none | some_shift
    · exact Or.inl none
    · have ratio : num / den ≠ 0 := by
        intro zero
        rw [zero, Nat.log2_zero] at chosen
        omega
      have exponent : Nat.log2 (num / den) = shift + p.fractionBits := by omega
      have least := (Nat.le_div_iff_mul_le positive).mp (Nat.log2_self_le ratio)
      have reached : p.binadeSize * (den * 2 ^ shift) ≤ num := by
        rw [exponent, pow_add] at least
        rw [size]
        calc
          2 ^ p.fractionBits * (den * 2 ^ shift) = 2 ^ shift * 2 ^ p.fractionBits * den := by ring
          _ ≤ num := least
      refine Or.inr ⟨?_, reached⟩
      have bound : 2 * p.binadeSize * (den * 2 ^ shift) ≤
          (2 * roundHalfEven num (den * 2 ^ shift) + 1) * (den * 2 ^ shift) := by
        rw [Nat.mul_assoc]
        omega
      have compared := Nat.le_of_mul_le_mul_right bound (spacing shift)
      omega

/-- A ratio is no further from its nearest place than the midpoint above it, and not even as far if the
place is odd. -/
theorem le_midpoint (num : Nat) {den : Nat} (positive : 0 < den) :
    2 * num ≤ p.midpoint (p.nearestPlace num den) * den ∧
      (p.nearestPlace num den % 2 = 1 → 2 * num < p.midpoint (p.nearestPlace num den) * den) := by
  have even := p.binadeSize_even
  obtain ⟨shift, q, place, rounded, most, least⟩ := p.nearestPlace_cases num positive
  have spacing : 0 < den * 2 ^ shift := Nat.mul_pos positive (Nat.pow_pos (by decide))
  have least' := least.imp_right And.left
  have reach : (2 * q + 1) * (den * 2 ^ shift) ≤ p.midpoint (p.nearestPlace num den) * den := by
    rw [place, midpoint, p.units_shifted most least']
    calc
      (2 * q + 1) * (den * 2 ^ shift) = (q * 2 ^ shift + (q + 1) * 2 ^ shift) * den := by ring
      _ ≤ _ := Nat.mul_le_mul_right _ (Nat.add_le_add_left (p.le_units_next most least') _)
  constructor
  · have upper := (roundHalfEven_bounds num spacing).1
    rw [← rounded] at upper
    exact upper.trans reach
  · intro odd
    have parity : q % 2 = 1 := by
      rw [place, Nat.add_mod, Nat.mul_mod, even, Nat.mul_zero, Nat.zero_mod, Nat.zero_add,
        Nat.mod_mod] at odd
      exact odd
    have upper := (roundHalfEven_even spacing (by rw [← rounded, parity])).1
    rw [← rounded] at upper
    exact upper.trans_le reach

theorem midpoint_le (num : Nat) {den below : Nat} (positive : 0 < den)
    (above : p.nearestPlace num den = below + 1) :
    p.midpoint below * den ≤ 2 * num ∧
      ((below + 1) % 2 = 1 → p.midpoint below * den < 2 * num) := by
  have even := p.binadeSize_even
  have size := p.binadeSize_pos
  obtain ⟨shift, q, place, rounded, most, least⟩ := p.nearestPlace_cases num positive
  have spacing : 0 < den * 2 ^ shift := Nat.mul_pos positive (Nat.pow_pos (by decide))
  have here : p.units (below + 1) = q * 2 ^ shift := by
    rw [← above, place, p.units_shifted most (least.imp_right And.left)]
  by_cases inner : shift = 0 ∨ p.binadeSize < q
  · have some_q : 0 < q := by
      rcases inner with none | above_least
      · rw [above, none, Nat.zero_mul, Nat.zero_add] at place
        omega
      · omega
    have before : below = shift * p.binadeSize + (q - 1) := by omega
    have there : p.units below = (q - 1) * 2 ^ shift := by
      rw [before, p.units_shifted (by omega) (inner.imp_right (by omega))]
    have sum : p.midpoint below * den + den * 2 ^ shift = 2 * q * (den * 2 ^ shift) := by
      obtain ⟨r, rfl⟩ : ∃ r, q = r + 1 := ⟨q - 1, by omega⟩
      rw [midpoint, here, there, Nat.add_sub_cancel]
      ring
    constructor
    · have lower := (roundHalfEven_bounds num spacing).2
      rw [← rounded] at lower
      omega
    · intro odd
      have parity : q % 2 = 1 := by
        rw [← above, place, Nat.add_mod, Nat.mul_mod, even, Nat.mul_zero, Nat.zero_mod,
          Nat.zero_add, Nat.mod_mod] at odd
        exact odd
      have lower := (roundHalfEven_even spacing (by rw [← rounded, parity])).2
      rw [← rounded] at lower
      omega
  · obtain ⟨some_shift, edge⟩ := not_or.mp inner
    obtain ⟨atLeast, reached⟩ := least.resolve_left some_shift
    have first : q = p.binadeSize := by omega
    have strict : p.midpoint below * den < 2 * num := by
      have lower : p.midpoint below < 2 * (p.binadeSize * 2 ^ shift) := by
        have step := p.units_lt_succ below
        rw [here, first] at step
        rw [midpoint, here, first]
        omega
      calc
        p.midpoint below * den < 2 * (p.binadeSize * 2 ^ shift) * den :=
          Nat.mul_lt_mul_of_pos_right lower positive
        _ = 2 * (p.binadeSize * (den * 2 ^ shift)) := by ring
        _ ≤ 2 * num := Nat.mul_le_mul_left 2 reached
    exact ⟨strict.le, fun _ => strict⟩

theorem nearestPlace_eq_of_between {num den place : Nat} (positive : 0 < den)
    (above : ∀ below, place = below + 1 → p.midpoint below * den < 2 * num)
    (under : 2 * num < p.midpoint place * den) : p.nearestPlace num den = place := by
  rcases Nat.lt_trichotomy (p.nearestPlace num den) place with less | same | more
  · obtain ⟨below, rfl⟩ : ∃ below, place = below + 1 := ⟨place - 1, by omega⟩
    have order := p.midpoint_strictMono.monotone (show p.nearestPlace num den ≤ below by omega)
    have upper := (p.le_midpoint num positive).1
    have lower := above below rfl
    have compared := Nat.mul_le_mul_right den order
    omega
  · exact same
  · obtain ⟨below, found⟩ : ∃ below, p.nearestPlace num den = below + 1 :=
      ⟨p.nearestPlace num den - 1, by omega⟩
    have order := p.midpoint_strictMono.monotone (show place ≤ below by omega)
    have lower := (p.midpoint_le num positive found).1
    have compared := Nat.mul_le_mul_right den order
    omega

theorem nearestPlace_eq_of_even {num den place : Nat} (positive : 0 < den) (even : place % 2 = 0)
    (above : ∀ below, place = below + 1 → p.midpoint below * den ≤ 2 * num)
    (under : 2 * num ≤ p.midpoint place * den) : p.nearestPlace num den = place := by
  rcases Nat.lt_trichotomy (p.nearestPlace num den) place with less | same | more
  · obtain ⟨below, rfl⟩ : ∃ below, place = below + 1 := ⟨place - 1, by omega⟩
    obtain ⟨upper, strict⟩ := p.le_midpoint num positive
    have reached := Nat.le_of_mul_le_mul_right ((above below rfl).trans upper) positive
    have beside := p.midpoint_strictMono.le_iff_le.mp reached
    have here : p.nearestPlace num den = below := by omega
    rw [here] at strict
    exact absurd (strict (by omega)) (Nat.not_lt.mpr (above below rfl))
  · exact same
  · obtain ⟨below, found⟩ : ∃ below, p.nearestPlace num den = below + 1 :=
      ⟨p.nearestPlace num den - 1, by omega⟩
    obtain ⟨lower, strict⟩ := p.midpoint_le num positive found
    have reached := Nat.le_of_mul_le_mul_right (lower.trans under) positive
    have beside := p.midpoint_strictMono.le_iff_le.mp reached
    have here : below = place := by omega
    rw [here] at strict
    exact absurd (strict (by omega)) (Nat.not_lt.mpr under)

theorem nearestPlace_units (place : Nat) {den : Nat} (positive : 0 < den) :
    p.nearestPlace (p.units place * den) den = place := by
  apply p.nearestPlace_eq_of_between positive
  · rintro below rfl
    have step := p.units_lt_succ below
    rw [← Nat.mul_assoc]
    apply Nat.mul_lt_mul_of_pos_right _ positive
    rw [midpoint]
    omega
  · have step := p.units_lt_succ place
    rw [← Nat.mul_assoc]
    apply Nat.mul_lt_mul_of_pos_right _ positive
    rw [midpoint]
    omega

theorem nearestPlace_mono {num den num' den' : Nat} (positive : 0 < den) (positive' : 0 < den')
    (order : num * den' ≤ num' * den) : p.nearestPlace num den ≤ p.nearestPlace num' den' := by
  by_contra less
  obtain ⟨below, found⟩ : ∃ below, p.nearestPlace num den = below + 1 :=
    ⟨p.nearestPlace num den - 1, by omega⟩
  obtain ⟨lower, lower_odd⟩ := p.midpoint_le num positive found
  obtain ⟨upper, upper_odd⟩ := p.le_midpoint num' positive'
  have rise := p.midpoint_strictMono.monotone (show p.nearestPlace num' den' ≤ below by omega)
  have common : 0 < den * den' := Nat.mul_pos positive positive'
  have scaled_lower : p.midpoint below * (den * den') = p.midpoint below * den * den' := by ring
  have scaled_upper : p.midpoint (p.nearestPlace num' den') * (den * den') =
      p.midpoint (p.nearestPlace num' den') * den' * den := by ring
  have first : p.midpoint below * (den * den') ≤ 2 * num * den' := by
    rw [scaled_lower]
    exact Nat.mul_le_mul_right _ lower
  have second : 2 * num * den' ≤ 2 * num' * den := by
    rw [Nat.mul_assoc, Nat.mul_assoc]
    exact Nat.mul_le_mul_left 2 order
  have third : 2 * num' * den ≤ p.midpoint (p.nearestPlace num' den') * (den * den') := by
    rw [scaled_upper]
    exact Nat.mul_le_mul_right _ upper
  -- both ratios are one midpoint, and the even one of its two places takes both
  have level : p.midpoint below = p.midpoint (p.nearestPlace num' den') :=
    le_antisymm (Nat.le_of_mul_le_mul_right (first.trans (second.trans third)) common) rise
  have beside : below = p.nearestPlace num' den' := p.midpoint_strictMono.injective level
  rcases Nat.mod_two_eq_zero_or_one below with even | odd
  · have strict := Nat.mul_lt_mul_of_pos_right (lower_odd (by omega)) positive'
    rw [← scaled_lower, level] at strict
    omega
  · have strict := Nat.mul_lt_mul_of_pos_right (upper_odd (by omega)) positive
    rw [← scaled_upper, ← level] at strict
    omega

theorem nearestPlace_congr {num den num' den' : Nat} (positive : 0 < den) (positive' : 0 < den')
    (same : num * den' = num' * den) : p.nearestPlace num den = p.nearestPlace num' den' :=
  le_antisymm (p.nearestPlace_mono positive positive' same.le)
    (p.nearestPlace_mono positive' positive same.ge)

end Precision

end RegisterPlane
