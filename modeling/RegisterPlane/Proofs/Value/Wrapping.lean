import RegisterPlane.Proofs.Floating.Integer
import RegisterPlane.Proofs.Value.Lossless

/-! Values converted to kinds of integers. Each element is rounded to an integer, and of that the kind
keeps what its width leaves: the one number that it holds and that differs by a multiple of `2 ^ width`. -/

namespace RegisterPlane

namespace ArrayKind

/-- The integer that an element is rounded to; bits and integers are what they are. -/
inductive RoundsTo : (k : ArrayKind) → k.Element → ℤ → Prop
  | bit (b : Bool) : RoundsTo bit b (if b then 1 else 0)
  | integer {w : Width} (x : BitVec w.bits) : RoundsTo (integer w) x x.toInt
  | natural {w : Width} (x : BitVec w.bits) : RoundsTo (natural w) x x.toNat
  | real {p : Precision} {x : Floating p} {n : ℤ} (rounds : x.RoundsTo n) : RoundsTo (real p) x n

/-- The integers that are elements of a kind of integers. -/
def Holds : ArrayKind → ℤ → Prop
  | integer w, n => -w.half ≤ n ∧ n < w.half
  | natural w, n => 0 ≤ n ∧ n < w.capacity
  | bit, _ => False
  | real _, _ => False

/-- What a kind of integers keeps of an integer at its width. -/
structure Keeps (k : ArrayKind) (w : Width) (r n : ℤ) : Prop where
  holds : k.Holds n
  congruent : n ≡ r [ZMOD 2 ^ w.bits]
  only : ∀ m, k.Holds m → m ≡ r [ZMOD 2 ^ w.bits] → m = n

/-- An element that becomes another: each is rounded to one integer and no other, and the kind keeps the
second of the first. -/
def Wraps (k target : ArrayKind) (w : Width) (x : k.Element) (y : target.Element) : Prop :=
  ∃ r n, (∀ i, k.RoundsTo x i ↔ i = r) ∧ (∀ i, target.RoundsTo y i ↔ i = n) ∧ target.Keeps w r n

variable {k target : ArrayKind} {w : Width}

theorem RoundsTo.unique {x : k.Element} {n m : ℤ} (first : k.RoundsTo x n) (second : k.RoundsTo x m) :
    n = m := by
  cases first with
  | bit b =>
      cases second with
      | bit => rfl
  | integer x =>
      cases second with
      | integer => rfl
  | natural x =>
      cases second with
      | natural => rfl
  | real rounds =>
      cases second with
      | real rounds' => exact rounds.unique rounds'

theorem roundsTo_toScalar (x : k.Element) : k.RoundsTo x (k.toScalar x).toInt := by
  cases k with
  | bit => exact .bit x
  | integer w => exact .integer x
  | natural w => exact .natural x
  | real p =>
      change Floating p at x
      have same := Floating.matches_convert p.fractionBits_le_double x
      exact .real ((x.convert .double).roundsTo_toInteger.of_matches same.symm)

theorem roundsTo_iff (x : k.Element) (i : ℤ) : k.RoundsTo x i ↔ i = (k.toScalar x).toInt := by
  constructor
  · exact fun rounds => rounds.unique (roundsTo_toScalar x)
  · rintro rfl
    exact roundsTo_toScalar x

theorem OfIntegers.window (integers : target.OfIntegers w) :
    ∃ least : ℤ, ∀ n, target.Holds n ↔ least ≤ n ∧ n < least + 2 ^ w.bits := by
  cases integers with
  | integer =>
      have halves : (w.half : ℤ) + w.half = 2 ^ w.bits := by cases w <;> decide
      refine ⟨-w.half, fun n => ?_⟩
      unfold Holds
      omega
  | natural =>
      have whole : (w.capacity : ℤ) = 2 ^ w.bits := by cases w <;> decide
      refine ⟨0, fun n => ?_⟩
      unfold Holds
      omega

theorem OfIntegers.only (integers : target.OfIntegers w) {n m : ℤ} (first : target.Holds n)
    (second : target.Holds m) (congruent : m ≡ n [ZMOD 2 ^ w.bits]) : m = n := by
  obtain ⟨least, window⟩ := integers.window
  obtain ⟨lower, upper⟩ := (window n).mp first
  obtain ⟨lower', upper'⟩ := (window m).mp second
  have divides := Int.modEq_iff_dvd.mp congruent
  have close : |n - m| < 2 ^ w.bits := abs_lt.mpr ⟨by omega, by omega⟩
  have level := Int.eq_zero_of_abs_lt_dvd divides close
  omega

theorem OfIntegers.ofScalar (integers : target.OfIntegers w) (s : Scalar) :
    target.Holds (target.toScalar (target.ofScalar s)).toInt ∧
      (target.toScalar (target.ofScalar s)).toInt ≡ s.toInt [ZMOD 2 ^ w.bits] := by
  cases integers with
  | integer =>
      change ArrayKind.Holds (.integer w) (BitVec.ofInt w.bits s.toInt).toInt ∧
        (BitVec.ofInt w.bits s.toInt).toInt ≡ s.toInt [ZMOD 2 ^ w.bits]
      refine ⟨⟨BitVec.le_toInt _, BitVec.toInt_lt⟩, ?_⟩
      rw [BitVec.toInt_ofInt]
      exact Int.bmod_emod
  | natural =>
      change ArrayKind.Holds (.natural w) (BitVec.ofInt w.bits s.toInt).toNat ∧
        ((BitVec.ofInt w.bits s.toInt).toNat : ℤ) ≡ s.toInt [ZMOD 2 ^ w.bits]
      refine ⟨⟨Int.natCast_nonneg _, Int.ofNat_lt.mpr (BitVec.isLt _)⟩, ?_⟩
      rw [BitVec.toNat_ofInt, Int.toNat_of_nonneg (Int.emod_nonneg _ (by positivity))]
      exact Int.emod_emod_of_dvd _ (dvd_refl _)

theorem OfIntegers.wraps (integers : target.OfIntegers w) (x : k.Element) :
    k.Wraps target w x (target.ofScalar (k.toScalar x)) := by
  obtain ⟨holds, congruent⟩ := integers.ofScalar (k.toScalar x)
  refine ⟨_, _, roundsTo_iff x, roundsTo_iff _, holds, congruent, fun m held same => ?_⟩
  exact integers.only holds held (same.trans congruent.symm)

theorem OfIntegers.between {middle : ArrayKind} {m : Width} (integers : target.OfIntegers w)
    (wider : middle.OfIntegers m) (order : w.bits ≤ m.bits) (s : Scalar) :
    target.ofScalar (middle.toScalar (middle.ofScalar s)) = target.ofScalar s := by
  cases integers <;> cases wider
  · exact ofInt_toInt_ofInt order s.toInt
  · exact ofInt_toNat_ofInt order s.toInt
  · exact ofInt_toInt_ofInt order s.toInt
  · exact ofInt_toNat_ofInt order s.toInt

end ArrayKind

namespace Value

theorem coerce_integers {target : ArrayKind} {w : Width} (integers : target.OfIntegers w) (k : ArrayKind)
    (elements : List k.Element) :
    (array k elements).coerce (.array target) =
      .ok (array target (elements.map fun x => target.ofScalar (k.toScalar x))) := by
  by_cases same : k = target
  · subst same
    have back : (fun x => k.ofScalar (k.toScalar x)) = id := by
      funext x
      obtain ⟨i, scalar, -, kept⟩ := integers.toScalar x
      rw [scalar, kept, id]
    rw [back, List.map_id]
    exact coerce_self _
  · exact coerce_array k target elements same

/-- An array of any kind becomes an array of integers with as many elements, each of them wrapped around
at the width. What wraps around at a width twice, or at a wider one before, wraps around no differently. -/
theorem integers_wrap {target : ArrayKind} {w : Width} (integers : target.OfIntegers w) (k : ArrayKind)
    (elements : List k.Element) :
    (∃ wrapped : List target.Element,
      (array k elements).coerce (.array target) = .ok (.array target wrapped) ∧
      List.Forall₂ (k.Wraps target w) elements wrapped) ∧
    ∀ (middle : ArrayKind) (m : Width), middle.OfIntegers m → w.bits ≤ m.bits →
      ∃ between, (array k elements).coerce (.array middle) = .ok between ∧
        between.coerce (.array target) = (array k elements).coerce (.array target) := by
  refine ⟨⟨_, coerce_integers integers k elements, ?_⟩, ?_⟩
  · rw [List.forall₂_map_right_iff, List.forall₂_same]
    exact fun x _ => integers.wraps x
  · intro middle m wider order
    refine ⟨_, coerce_integers wider k elements, ?_⟩
    rw [coerce_integers integers, coerce_integers integers, List.map_map]
    congr 2
    exact List.map_congr_left fun x _ => integers.between wider order (k.toScalar x)

def sluiceReals : List (Floating .double) :=
  [.ofRatio .double true 5 2, .ofRatio .double false 601 2, .infinite false, .nan]

theorem integers_wrap_sluice :
    (ArrayKind.natural .w8).OfIntegers .w8 ∧ (ArrayKind.integer .w16).OfIntegers .w16 ∧
      (∃ wrapped : List (BitVec 8),
        (array (.real .double) sluiceReals).coerce (.array (.natural .w8)) =
          .ok (.array (.natural .w8) wrapped) ∧
        List.Forall₂ ((ArrayKind.real .double).Wraps (.natural .w8) .w8) sluiceReals wrapped ∧
        wrapped = [253, 45, 255, 0]) ∧
      ∃ between, (array (.real .double) sluiceReals).coerce (.array (.integer .w16)) = .ok between ∧
        between.coerce (.array (.natural .w8)) =
          (array (.real .double) sluiceReals).coerce (.array (.natural .w8)) := by
  obtain ⟨⟨wrapped, coerced, wraps⟩, twice⟩ := integers_wrap (.natural .w8) (.real .double) sluiceReals
  have computed : (array (.real .double) sluiceReals).coerce (.array (.natural .w8)) =
      .ok (.array (.natural .w8) [(253 : BitVec 8), (45 : BitVec 8), (255 : BitVec 8), (0 : BitVec 8)]) := by
    decide +kernel
  refine ⟨.natural .w8, .integer .w16, ⟨wrapped, coerced, wraps, ?_⟩, twice _ _ (.integer .w16) (by decide)⟩
  rw [computed] at coerced
  cases coerced
  rfl

end Value

end RegisterPlane
