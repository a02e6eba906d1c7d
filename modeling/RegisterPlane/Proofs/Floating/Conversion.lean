import RegisterPlane.Proofs.Floating.Widening

/-! Conversion between precisions: a number that is widened and narrowed again is unchanged, and so is
one that is widened, written down, read at a still finer precision and narrowed. -/

namespace RegisterPlane

namespace Precision

variable {p q r : Precision}

theorem ratio_pos (p q : Precision) : 0 < p.ratio q := Nat.pow_pos (by decide)

theorem units_scaled_lt (finer : Finer p q) {place : Nat} (inside : place ≤ p.infinityPlace) :
    p.units place * p.ratio q ≤ q.units q.infinityPlace := by
  have edge := p.units_strictMono.monotone inside
  have range : 2 ^ 2 ^ (p.exponentBits - 1) ≤ 2 ^ 2 ^ (q.exponentBits - 1) :=
    Nat.pow_le_pow_right (by decide)
      (Nat.pow_le_pow_right (by decide) (Nat.sub_le_sub_right finer.exponent 1))
  calc
    p.units place * p.ratio q ≤ p.units p.infinityPlace * p.ratio q := Nat.mul_le_mul_right _ edge
    _ = 2 ^ 2 ^ (p.exponentBits - 1) * q.one := by
      rw [p.units_infinityPlace, finer.one_eq]
      ring
    _ ≤ q.units q.infinityPlace := by
      rw [q.units_infinityPlace]
      exact Nat.mul_le_mul_right _ range

theorem Finer.exists_finite (finer : Finer p q) (place : Fin p.infinityPlace) :
    ∃ wide : Fin q.infinityPlace, q.units wide.val = p.units place.val * p.ratio q := by
  obtain ⟨wide, here, -⟩ := finer.exists_place place.val
  have next := p.units_lt_succ place.val
  have edge := units_scaled_lt finer (show place.val + 1 ≤ p.infinityPlace from place.isLt)
  have below : q.units wide < q.units q.infinityPlace := by
    rw [here]
    exact (Nat.mul_lt_mul_of_pos_right next (ratio_pos p q)).trans_le edge
  exact ⟨⟨wide, q.units_strictMono.lt_iff_lt.mp below⟩, here⟩

/-- Between a coarse number and the midpoint beside it there is room for a number of the finer
precision, so that the midpoint of the finer one comes first. -/
theorem Finer.midpoint_lt (finer : Finer p q) {place wide : Nat}
    (here : q.units wide = p.units place * p.ratio q) :
    q.midpoint wide < p.midpoint place * p.ratio q := by
  obtain ⟨middle, halfway⟩ := finer.exists_midpoint place
  have step := Nat.mul_lt_mul_of_pos_right (p.units_lt_succ place) (ratio_pos p q)
  have expand : p.midpoint place * p.ratio q =
      p.units place * p.ratio q + p.units (place + 1) * p.ratio q := Nat.add_mul _ _ _
  have above : wide < middle := q.units_strictMono.lt_iff_lt.mp (by omega)
  have reach := q.units_strictMono.monotone (show wide + 1 ≤ middle from above)
  have own := q.units_lt_succ wide
  rw [midpoint]
  omega

/-- What rounds to a place of one precision lies, when rounded to a finer one, still between the
midpoints around that place. -/
theorem Finer.nearest_between (finer : Finer r q) (num : Nat) {den : Nat} (positive : 0 < den) :
    2 * q.units (q.nearestPlace (num * q.one) den) ≤
        r.midpoint (r.nearestPlace (num * r.one) den) * r.ratio q ∧
      ∀ before, r.nearestPlace (num * r.one) den = before + 1 →
        r.midpoint before * r.ratio q ≤ 2 * q.units (q.nearestPlace (num * q.one) den) := by
  have rescale : 2 * (num * q.one) = 2 * (num * r.one) * r.ratio q := by
    rw [finer.one_eq]
    ring
  constructor
  · obtain ⟨middle, halfway⟩ := finer.exists_midpoint (r.nearestPlace (num * r.one) den)
    have upper := Nat.mul_le_mul_right (r.ratio q) (r.le_midpoint (num * r.one) positive).1
    have order : num * q.one * den ≤ q.units middle * den * den := by
      apply Nat.mul_le_mul_right
      have doubled : r.midpoint (r.nearestPlace (num * r.one) den) * den * r.ratio q =
          2 * (q.units middle * den) := by
        rw [← Nat.mul_assoc, halfway]
        ring
      omega
    have place := q.nearestPlace_mono positive positive order
    rw [q.nearestPlace_units middle positive] at place
    rw [← halfway]
    exact Nat.mul_le_mul_left 2 (q.units_strictMono.monotone place)
  · intro before found
    obtain ⟨middle, halfway⟩ := finer.exists_midpoint before
    have lower := Nat.mul_le_mul_right (r.ratio q) (r.midpoint_le (num * r.one) positive found).1
    have order : q.units middle * den * den ≤ num * q.one * den := by
      apply Nat.mul_le_mul_right
      have doubled : r.midpoint before * den * r.ratio q = 2 * (q.units middle * den) := by
        rw [← Nat.mul_assoc, halfway]
        ring
      omega
    have place := q.nearestPlace_mono positive positive order
    rw [q.nearestPlace_units middle positive] at place
    rw [← halfway]
    exact Nat.mul_le_mul_left 2 (q.units_strictMono.monotone place)

/-- If a ratio rounds to a number that a coarser precision holds as well, then rounding it at a finer
precision first makes no difference. -/
theorem nearestPlace_twice (coarse : Finer p r) (fine : Finer r q) (num : Nat) {den : Nat}
    (positive : 0 < den) {place : Nat}
    (near : r.units (r.nearestPlace (num * r.one) den) = p.units place * p.ratio r) :
    r.nearestPlace (q.units (q.nearestPlace (num * q.one) den) * r.one) q.one =
      r.nearestPlace (num * r.one) den := by
  obtain ⟨upper, lower⟩ := fine.nearest_between num positive
  -- the first rounding may end on a midpoint, which the even place takes
  apply r.nearestPlace_eq_of_even q.one_pos (coarse.even_place near)
  · intro below found
    calc
      r.midpoint below * q.one = r.midpoint below * r.ratio q * r.one := by
        rw [fine.one_eq]
        ring
      _ ≤ 2 * q.units (q.nearestPlace (num * q.one) den) * r.one := Nat.mul_le_mul_right _ (lower below found)
      _ = _ := by ring
  · calc
      2 * (q.units (q.nearestPlace (num * q.one) den) * r.one) =
          2 * q.units (q.nearestPlace (num * q.one) den) * r.one := by ring
      _ ≤ r.midpoint (r.nearestPlace (num * r.one) den) * r.ratio q * r.one := Nat.mul_le_mul_right _ upper
      _ = _ := by
        rw [fine.one_eq]
        ring

theorem nearestPlace_finite (coarse : Finer p r) (fine : Finer r q) (num : Nat) {den : Nat}
    (positive : 0 < den) (place : Fin p.infinityPlace)
    (near : r.units (r.nearestPlace (num * r.one) den) = p.units place.val * p.ratio r) :
    q.nearestPlace (num * q.one) den < q.infinityPlace := by
  have upper := (fine.nearest_between num positive).1
  have strict := Nat.mul_lt_mul_of_pos_right (coarse.midpoint_lt near) (ratio_pos r q)
  have next := p.units_lt_succ place.val
  have edge := Nat.mul_le_mul_right (r.ratio q)
    (units_scaled_lt coarse (show place.val + 1 ≤ p.infinityPlace from place.isLt))
  have last := units_scaled_lt fine (le_refl r.infinityPlace)
  have doubled : p.midpoint place.val * p.ratio r * r.ratio q ≤
      2 * (p.units (place.val + 1) * p.ratio r * r.ratio q) := by
    rw [← Nat.mul_assoc, ← Nat.mul_assoc]
    apply Nat.mul_le_mul_right
    apply Nat.mul_le_mul_right
    rw [midpoint]
    omega
  apply q.units_strictMono.lt_iff_lt.mp
  omega

end Precision

namespace Floating

variable {p q r : Precision}

theorem ofRatio_of_nearest {num den : Nat} (negative : Bool) (place : Fin p.infinityPlace)
    (near : p.nearestPlace (num * p.one) den = place.val) :
    ofRatio p negative num den = .finite negative place := by
  have inside : p.nearestPlace (num * p.one) den < p.infinityPlace := near ▸ place.isLt
  simp only [ofRatio]
  rw [dif_pos inside]
  congr 1
  exact Fin.ext near

theorem of_ofRatio_finite {negative sign : Bool} {place : Fin p.infinityPlace} {num den : Nat}
    (here : ofRatio p sign num den = .finite negative place) :
    negative = sign ∧ place.val = p.nearestPlace (num * p.one) den := by
  simp only [ofRatio] at here
  split at here
  · cases here
    exact ⟨rfl, rfl⟩
  · cases here

theorem ofRatio_congr (negative : Bool) {num den num' den' : Nat} (positive : 0 < den)
    (positive' : 0 < den') (same : num * den' = num' * den) :
    ofRatio p negative num den = ofRatio p negative num' den' := by
  have nearest : p.nearestPlace (num * p.one) den = p.nearestPlace (num' * p.one) den' := by
    apply p.nearestPlace_congr positive positive'
    rw [Nat.mul_right_comm, same, Nat.mul_right_comm]
  simp only [ofRatio]
  simp only [nearest]

theorem nearest_of_units {negative : Bool} {place : Fin p.infinityPlace} {place' : Fin q.infinityPlace}
    (magnitude : p.units place.val * q.one = q.units place'.val * p.one) :
    nearest q (.finite negative place) = .finite negative place' := by
  apply ofRatio_of_nearest
  rw [magnitude]
  exact q.nearestPlace_units place'.val p.one_pos

theorem nearest_finer (finer : Precision.Finer p q) (negative : Bool) (place : Fin p.infinityPlace) :
    ∃ wide : Fin q.infinityPlace, nearest q (.finite negative place) = .finite negative wide ∧
      q.units wide.val = p.units place.val * p.ratio q := by
  obtain ⟨wide, here⟩ := finer.exists_finite place
  refine ⟨wide, nearest_of_units ?_, here⟩
  rw [here, finer.one_eq]
  ring

@[simp] theorem convert_nan : convert q (nan : Floating p) = nan := by
  unfold convert
  split <;> rfl

@[simp] theorem convert_infinite (negative : Bool) :
    convert q (infinite negative : Floating p) = infinite negative := by
  unfold convert
  split <;> rfl

theorem convert_once (once : ¬(p = .double ∧ q = .half)) (x : Floating p) : x.convert q = x.nearest q :=
  if_neg once

theorem convert_finer (finer : Precision.Finer p q) (negative : Bool) (place : Fin p.infinityPlace) :
    ∃ wide : Fin q.infinityPlace, convert q (.finite negative place) = .finite negative wide ∧
      q.units wide.val = p.units place.val * p.ratio q := by
  have once : ¬(p = .double ∧ q = .half) := by
    rintro ⟨rfl, rfl⟩
    exact absurd finer.fraction (by decide)
  rw [convert_once once]
  exact nearest_finer finer negative place

/-- There are but three precisions, and from the finest to the coarsest the way is by the one in between. -/
theorem convert_through (coarse : Precision.Finer p r) (fine : Precision.Finer r q) (x : Floating q) :
    x.convert p = (x.nearest r).nearest p := by
  obtain ⟨fewer, -⟩ := coarse
  obtain ⟨fewer', -⟩ := fine
  cases p <;> cases r <;> cases q
  all_goals first
    | rfl
    | exact absurd fewer (by decide)
    | exact absurd fewer' (by decide)

/-- A double just above the midpoint of two halves becomes that midpoint as a single, and then the even half. -/
example :
    let x := ofRatio .double false (2 ^ 40 + 2 ^ 29 + 1) (2 ^ 40)
    x.convert .half = ofInt .half 1 ∧ x.nearest .half ≠ ofInt .half 1 := by
  decide +kernel

theorem convert_ofRatio (coarse : Precision.Finer p r) (fine : Precision.Finer r q) (num : Nat)
    {den : Nat} (positive : 0 < den) (negative : Bool) (place : Fin p.infinityPlace)
    (near : r.units (r.nearestPlace (num * r.one) den) = p.units place.val * p.ratio r) :
    (ofRatio q negative num den).convert p = .finite negative place := by
  have inside := Precision.nearestPlace_finite coarse fine num positive place near
  obtain ⟨wide, here⟩ := coarse.exists_finite place
  have twice := Precision.nearestPlace_twice coarse fine num positive near
  rw [r.units_strictMono.injective (near.trans here.symm)] at twice
  rw [ofRatio_of_nearest (p := q) negative ⟨_, inside⟩ rfl, convert_through coarse fine]
  have middle : nearest r (.finite negative (⟨_, inside⟩ : Fin q.infinityPlace)) = .finite negative wide :=
    ofRatio_of_nearest negative wide twice
  rw [middle]
  apply nearest_of_units
  rw [here, coarse.one_eq]
  ring

end Floating

end RegisterPlane
