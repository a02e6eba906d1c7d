import RegisterPlane.Proofs.Floating.Grid

/-! Precisions and finer ones. What one precision holds, and what lies midway between two of its
numbers, every finer precision holds exactly, so that widening loses nothing. -/

namespace RegisterPlane

namespace Precision

/-- More digits, and at least as wide a range. -/
structure Finer (p q : Precision) : Prop where
  fraction : p.fractionBits < q.fractionBits
  exponent : p.exponentBits ≤ q.exponentBits

theorem half_finer_single : Finer half single := ⟨by decide, by decide⟩

theorem single_finer_double : Finer single double := ⟨by decide, by decide⟩

def ratio (p q : Precision) : Nat := 2 ^ (q.scale - p.scale)

variable {p q : Precision}

theorem Finer.scale_lt (finer : Finer p q) : p.scale < q.scale := by
  obtain ⟨fraction, exponent⟩ := finer
  revert fraction exponent
  cases p <;> cases q <;> decide

theorem Finer.one_eq (finer : Finer p q) : q.one = p.one * p.ratio q := by
  have less := finer.scale_lt
  change 2 ^ q.scale = 2 ^ p.scale * 2 ^ (q.scale - p.scale)
  rw [← pow_add]
  congr 1
  omega

theorem Finer.binadeSize_le (finer : Finer p q) : 2 * p.binadeSize ≤ q.binadeSize := by
  rw [binadeSize_eq, binadeSize_eq, Nat.mul_comm, ← pow_succ]
  exact Nat.pow_le_pow_right (by decide) finer.fraction

/-- Every multiple of a power of two with few enough digits is a magnitude, and an even multiple is one
at an even place. -/
theorem exists_units (p : Precision) (shift : Nat) {t : Nat} (few : t ≤ 2 * p.binadeSize) :
    ∃ place, p.units place = t * 2 ^ shift ∧ (t % 2 = 0 → place % 2 = 0) := by
  induction shift generalizing t with
  | zero =>
      refine ⟨t, ?_, id⟩
      have here := p.units_shifted few (Or.inl (Eq.refl 0))
      rwa [Nat.zero_mul, Nat.zero_add] at here
  | succ shift ih =>
      by_cases high : p.binadeSize ≤ t
      · refine ⟨_, p.units_binade (shift + 1) high few, fun even => ?_⟩
        rw [Nat.add_mod, Nat.mul_mod, p.binadeSize_even, even, Nat.mul_zero]
      · obtain ⟨place, here, even⟩ := ih (show 2 * t ≤ 2 * p.binadeSize by omega)
        refine ⟨place, here.trans ?_, fun _ => even (by omega)⟩
        rw [pow_succ]
        ring

theorem place_shifted (p : Precision) (place : Nat) :
    ∃ shift t, place = shift * p.binadeSize + t ∧ t < 2 * p.binadeSize ∧
      (shift = 0 ∨ p.binadeSize ≤ t) := by
  have positive := p.binadeSize_pos
  rcases p.place_cases place with low | ⟨shift, fraction, small, rfl⟩
  · exact ⟨0, place, by omega, by omega, Or.inl rfl⟩
  · exact ⟨shift, p.binadeSize + fraction, by ring, by omega, Or.inr (by omega)⟩

theorem midpoint_shifted {shift t : Nat} (most : t < 2 * p.binadeSize)
    (least : shift = 0 ∨ p.binadeSize ≤ t) :
    p.midpoint (shift * p.binadeSize + t) = (2 * t + 1) * 2 ^ shift := by
  rw [midpoint, p.units_shifted most.le least, Nat.add_assoc,
    p.units_shifted (show t + 1 ≤ 2 * p.binadeSize by omega) (least.imp_right (by omega))]
  ring

theorem Finer.exists_place (finer : Finer p q) (place : Nat) :
    ∃ place', q.units place' = p.units place * p.ratio q ∧ place' % 2 = 0 := by
  have wide := finer.binadeSize_le
  have less := finer.scale_lt
  obtain ⟨shift, t, rfl, most, least⟩ := p.place_shifted place
  obtain ⟨place', here, even⟩ := q.exists_units (shift + (q.scale - p.scale - 1))
    (show 2 * t ≤ 2 * q.binadeSize by omega)
  refine ⟨place', here.trans ?_, even (by omega)⟩
  obtain ⟨more, exact_more⟩ : ∃ more, q.scale - p.scale = more + 1 := ⟨q.scale - p.scale - 1, by omega⟩
  rw [p.units_shifted most.le least, ratio, exact_more, Nat.add_sub_cancel, pow_add, pow_succ]
  ring

theorem Finer.even_place (finer : Finer p q) {place wide : Nat}
    (here : q.units wide = p.units place * p.ratio q) : wide % 2 = 0 := by
  obtain ⟨place', there, even⟩ := finer.exists_place place
  rwa [q.units_strictMono.injective (here.trans there.symm)]

theorem Finer.exists_midpoint (finer : Finer p q) (place : Nat) :
    ∃ place', 2 * q.units place' = p.midpoint place * p.ratio q := by
  have wide := finer.binadeSize_le
  have positive := p.binadeSize_pos
  have less := finer.scale_lt
  obtain ⟨shift, t, rfl, most, least⟩ := p.place_shifted place
  obtain ⟨place', here, -⟩ := q.exists_units (shift + (q.scale - p.scale - 1))
    (show 2 * t + 1 ≤ 2 * q.binadeSize by omega)
  refine ⟨place', ?_⟩
  obtain ⟨more, exact_more⟩ : ∃ more, q.scale - p.scale = more + 1 := ⟨q.scale - p.scale - 1, by omega⟩
  rw [here, midpoint_shifted most least, ratio, exact_more, Nat.add_sub_cancel, pow_add, pow_succ]
  ring

theorem units_infinityPlace (p : Precision) :
    p.units p.infinityPlace = 2 ^ 2 ^ (p.exponentBits - 1) * p.one := by
  have place : p.infinityPlace = (2 ^ p.exponentBits - 2) * p.binadeSize + p.binadeSize := by
    have many : 2 ≤ 2 ^ p.exponentBits := by cases p <;> decide
    change (2 ^ p.exponentBits - 1) * p.binadeSize = _
    obtain ⟨more, total⟩ := Nat.exists_eq_add_of_le many
    rw [total, show 2 + more - 1 = more + 1 by omega, Nat.add_sub_cancel_left]
    ring
  rw [place, p.units_binade _ (le_refl _) (by omega), binadeSize_eq, ← pow_add]
  change _ = 2 ^ 2 ^ (p.exponentBits - 1) * 2 ^ p.scale
  rw [← pow_add]
  congr 1
  cases p <;> decide

end Precision

end RegisterPlane
