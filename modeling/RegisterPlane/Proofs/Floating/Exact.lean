import RegisterPlane.Proofs.Floating.Conversion

namespace RegisterPlane

namespace Precision

variable {p q : Precision}

theorem fractionBits_le_double (p : Precision) : p.fractionBits ≤ double.fractionBits := by
  cases p <;> decide

theorem eq_or_finer (order : p.fractionBits ≤ q.fractionBits) : p = q ∨ Finer p q := by
  cases p <;> cases q
  all_goals first
    | exact Or.inl rfl
    | exact Or.inr ⟨by decide, by decide⟩
    | exact absurd order (by decide)

end Precision

namespace Floating

variable {p q r : Precision}

/-- The same number at two precisions, with the same sign. -/
inductive Matches : Floating p → Floating q → Prop
  | nan : Matches nan nan
  | infinite (negative : Bool) : Matches (infinite negative) (infinite negative)
  | finite (negative : Bool) {place : Fin p.infinityPlace} {place' : Fin q.infinityPlace}
      (magnitude : p.units place.val * q.one = q.units place'.val * p.one) :
      Matches (finite negative place) (finite negative place')

theorem Matches.refl (x : Floating p) : x.Matches x := by
  cases x with
  | nan => exact .nan
  | infinite negative => exact .infinite negative
  | finite negative place => exact .finite negative rfl

theorem Matches.symm {x : Floating p} {y : Floating q} (same : x.Matches y) : y.Matches x := by
  cases same with
  | nan => exact .nan
  | infinite negative => exact .infinite negative
  | finite negative magnitude => exact .finite negative magnitude.symm

theorem Matches.trans {x : Floating p} {y : Floating q} {z : Floating r} (first : x.Matches y)
    (second : y.Matches z) : x.Matches z := by
  cases first with
  | nan =>
      cases second with
      | nan => exact .nan
  | infinite negative =>
      cases second with
      | infinite => exact .infinite negative
  | @finite negative a b left =>
      cases second with
      | @finite _ _ c right =>
          refine .finite negative (Nat.eq_of_mul_eq_mul_right q.one_pos ?_)
          calc
            p.units a.val * r.one * q.one = p.units a.val * q.one * r.one := by ring
            _ = q.units b.val * r.one * p.one := by
              rw [left]
              ring
            _ = r.units c.val * p.one * q.one := by
              rw [right]
              ring

theorem nearest_of_matches {x : Floating p} {y : Floating q} (same : x.Matches y) : x.nearest q = y := by
  cases same with
  | nan => rfl
  | infinite negative => rfl
  | finite negative magnitude => exact nearest_of_units magnitude

theorem matches_nearest (order : p.fractionBits ≤ q.fractionBits) (x : Floating p) :
    x.Matches (x.nearest q) := by
  rcases Precision.eq_or_finer order with rfl | finer
  · rw [nearest_of_matches (.refl x)]
    exact .refl x
  · cases x with
    | nan => exact .nan
    | infinite negative => exact .infinite negative
    | finite negative place =>
        obtain ⟨wide, widened, here⟩ := nearest_finer finer negative place
        rw [widened]
        apply Matches.finite
        rw [here, finer.one_eq]
        ring

theorem convert_of_matches {x : Floating p} {y : Floating q} (same : x.Matches y) : x.convert q = y := by
  by_cases narrowed : p = .double ∧ q = .half
  · obtain ⟨rfl, rfl⟩ := narrowed
    -- the single on the way holds the number too
    have held := matches_nearest (q := .single) (by decide) y
    change (x.nearest .single).nearest .half = y
    rw [nearest_of_matches (same.trans held), nearest_of_matches held.symm]
  · rw [convert_once narrowed, nearest_of_matches same]

theorem convert_self (x : Floating p) : x.convert p = x := convert_of_matches (.refl x)

theorem matches_convert (order : p.fractionBits ≤ q.fractionBits) (x : Floating p) :
    x.Matches (x.convert q) := by
  rw [convert_of_matches (matches_nearest order x)]
  exact matches_nearest order x

/-- A number that is exactly an integer; zero has no sign. -/
def IsInteger (i : Int) (x : Floating p) : Prop :=
  ∃ place : Fin p.infinityPlace, x = .finite (decide (i < 0)) place ∧ p.units place.val = i.natAbs * p.one

theorem IsInteger.matches {i : Int} {x : Floating p} {y : Floating q} (first : x.IsInteger i)
    (second : y.IsInteger i) : x.Matches y := by
  obtain ⟨place, rfl, magnitude⟩ := first
  obtain ⟨place', rfl, magnitude'⟩ := second
  apply Matches.finite
  rw [magnitude, magnitude']
  ring

theorem exists_isInteger (p : Precision) {i : Int} (few : i.natAbs ≤ 2 * p.binadeSize) :
    ∃ x : Floating p, x.IsInteger i := by
  obtain ⟨place, here, -⟩ := p.exists_units p.scale few
  have range : 2 * p.binadeSize < 2 ^ 2 ^ (p.exponentBits - 1) := by
    rw [p.binadeSize_eq, Nat.mul_comm, ← pow_succ]
    apply Nat.pow_lt_pow_right (by decide)
    cases p <;> decide
  have inside : p.units place < p.units p.infinityPlace := by
    rw [here, p.units_infinityPlace]
    exact Nat.mul_lt_mul_of_pos_right (few.trans_lt range) p.one_pos
  exact ⟨.finite (decide (i < 0)) ⟨place, p.units_strictMono.lt_iff_lt.mp inside⟩, _, rfl, here⟩

theorem ofInt_of_isInteger {i : Int} {x : Floating p} (whole : x.IsInteger i) : ofInt p i = x := by
  obtain ⟨place, rfl, magnitude⟩ := whole
  apply ofRatio_of_nearest
  have here := p.nearestPlace_units place.val Nat.one_pos
  rwa [Nat.mul_one, magnitude] at here

theorem nearest_ofInt {i : Int} (few : i.natAbs ≤ 2 * p.binadeSize) : (ofInt p i).nearest q = ofInt q i := by
  obtain ⟨x, whole⟩ := exists_isInteger p few
  rw [ofInt_of_isInteger whole]
  obtain ⟨place, rfl, magnitude⟩ := whole
  apply ofRatio_congr _ p.one_pos Nat.one_pos
  rw [magnitude, Nat.mul_one]

theorem toInteger_of_isInteger {i : Int} {x : Floating p} (whole : x.IsInteger i)
    (held : i.natAbs < integerLimit) : x.toInteger = i := by
  obtain ⟨place, rfl, magnitude⟩ := whole
  have positive := p.one_pos
  have rounded : roundHalfUp (i.natAbs * p.one) p.one = i.natAbs := by
    have expand : 2 * (i.natAbs * p.one) + p.one = p.one + 2 * p.one * i.natAbs := by ring
    rw [roundHalfUp, expand, Nat.add_mul_div_left _ _ (by omega), Nat.div_eq_of_lt (by omega), Nat.zero_add]
  simp only [toInteger]
  rw [magnitude, rounded]
  by_cases negative : i < 0
  · rw [decide_eq_true negative, if_pos rfl, min_eq_left (by omega)]
    omega
  · rw [decide_eq_false negative, if_neg (by decide), min_eq_left (by omega)]
    omega

theorem isNaN_of_isInteger {i : Int} {x : Floating p} (whole : x.IsInteger i) : x.isNaN = false := by
  obtain ⟨place, rfl, -⟩ := whole
  rfl

theorem isZero_of_isInteger {i : Int} {x : Floating p} (whole : x.IsInteger i) :
    x.isZero = decide (i = 0) := by
  obtain ⟨place, rfl, magnitude⟩ := whole
  have zero : place.val = 0 ↔ i = 0 := by
    have none := p.units_low p.binadeSize_pos
    rw [← p.units_strictMono.injective.eq_iff, none, magnitude, Nat.mul_eq_zero, Int.natAbs_eq_zero]
    exact or_iff_left p.one_pos.ne'
  rw [Bool.eq_iff_iff, decide_eq_true_iff, ← zero]
  simp only [isZero, rank, beq_iff_eq, Option.some.injEq]
  split <;> omega

theorem same_iff (x y : Floating p) : x.same y = true ↔ ∃ place, x.rank = some place ∧ y.rank = some place := by
  unfold same order
  cases x.rank with
  | none => simp
  | some a =>
      cases y.rank with
      | none => simp
      | some b =>
          change (some (compare a b) == some .eq) = true ↔ _
          rw [beq_iff_eq, Option.some.injEq, compare_eq_iff_eq]
          simp [eq_comm]

theorem same_self {x : Floating p} (finite : x.isFinite = true) : x.same x = true := by
  cases x with
  | nan => cases finite
  | infinite negative => cases finite
  | finite negative place => exact (same_iff _ _).mpr ⟨_, rfl, rfl⟩

/-- A number with a sign, a zero and infinity among them. -/
def HasSign (negative : Bool) (x : Floating p) : Prop :=
  x = .infinite negative ∨ ∃ place, x = .finite negative place

theorem hasSign_ofRatio (p : Precision) (negative : Bool) (num den : Nat) :
    (ofRatio p negative num den).HasSign negative := by
  simp only [ofRatio]
  split
  · exact Or.inr ⟨_, rfl⟩
  · exact Or.inl rfl

theorem HasSign.nearest {negative : Bool} {x : Floating p} (sign : x.HasSign negative) :
    (x.nearest q).HasSign negative := by
  rcases sign with rfl | ⟨place, rfl⟩
  · exact Or.inl rfl
  · exact hasSign_ofRatio q negative _ _

theorem HasSign.convert {negative : Bool} {x : Floating p} (sign : x.HasSign negative) :
    (x.convert q).HasSign negative := by
  unfold Floating.convert
  split
  · exact sign.nearest.nearest
  · exact sign.nearest

theorem HasSign.eq_of_same {negative : Bool} {x y : Floating p} (first : x.HasSign negative)
    (second : y.HasSign negative) (level : x.same y = true) : x = y := by
  obtain ⟨rank, here, there⟩ := (same_iff x y).mp level
  rcases first with rfl | ⟨place, rfl⟩ <;> rcases second with rfl | ⟨place', rfl⟩
  · rfl
  · have inside := place'.isLt
    cases negative <;> simp [Floating.rank] at here there <;> omega
  · have inside := place.isLt
    cases negative <;> simp [Floating.rank] at here there <;> omega
  · have same : place.val = place'.val := by
      cases negative <;> simp [Floating.rank] at here there <;> omega
    rw [Fin.ext same]

theorem convert_eq_of_same {x : Floating p} (finite : x.isFinite = true)
    (level : ((x.convert q).convert p).same x = true) : (x.convert q).convert p = x := by
  cases x with
  | nan => cases finite
  | infinite negative => cases finite
  | finite negative place =>
      have sign : (Floating.finite negative place).HasSign negative := Or.inr ⟨place, rfl⟩
      exact sign.convert.convert.eq_of_same sign level

end Floating

end RegisterPlane
