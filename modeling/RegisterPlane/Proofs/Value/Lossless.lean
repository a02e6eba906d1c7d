import RegisterPlane.Proofs.Floating.Exact
import RegisterPlane.Proofs.Value.Fitting

/-! Values converted to a wider kind of numbers come back unchanged. An integer kind may be wider than
another without holding all its elements: what wraps around on the way out wraps back. -/

namespace RegisterPlane

namespace ArrayKind

/-- Wide enough to lose nothing: an integer kind of at least the width, signed or not, or a real kind that
holds every element. -/
def Widens : ArrayKind → ArrayKind → Prop
  | bit, _ => True
  | integer n, integer m => n.bits ≤ m.bits
  | integer n, natural m => n.bits ≤ m.bits
  | natural n, integer m => n.bits ≤ m.bits
  | natural n, natural m => n.bits ≤ m.bits
  | integer n, real p => n.bits ≤ p.fractionBits + 1
  | natural n, real p => n.bits ≤ p.fractionBits + 1
  | real p, real q => p.fractionBits ≤ q.fractionBits
  | _, _ => False

instance (k w : ArrayKind) : Decidable (k.Widens w) := by
  unfold Widens
  split <;> infer_instance

end ArrayKind

theorem ofInt_congr {n : Nat} {i j : Int} (same : i % (2 ^ n : Nat) = j % (2 ^ n : Nat)) :
    BitVec.ofInt n i = BitVec.ofInt n j := by
  apply BitVec.eq_of_toNat_eq
  rw [BitVec.toNat_ofInt, BitVec.toNat_ofInt, same]

theorem ofInt_toInt_ofInt {n m : Nat} (wide : n ≤ m) (i : Int) :
    BitVec.ofInt n (BitVec.ofInt m i).toInt = BitVec.ofInt n i := by
  have divides : ((2 ^ n : Nat) : Int) ∣ (2 ^ m : Nat) := Int.natCast_dvd_natCast.mpr (pow_dvd_pow 2 wide)
  apply ofInt_congr
  calc
    (BitVec.ofInt m i).toInt % (2 ^ n : Nat) = i.bmod (2 ^ m) % (2 ^ m : Nat) % (2 ^ n : Nat) := by
      rw [BitVec.toInt_ofInt, Int.emod_emod_of_dvd _ divides]
    _ = i % (2 ^ n : Nat) := by
      rw [Int.bmod_emod, Int.emod_emod_of_dvd _ divides]

theorem ofInt_toNat_ofInt {n m : Nat} (wide : n ≤ m) (i : Int) :
    BitVec.ofInt n (BitVec.ofInt m i).toNat = BitVec.ofInt n i := by
  have divides : ((2 ^ n : Nat) : Int) ∣ (2 ^ m : Nat) := Int.natCast_dvd_natCast.mpr (pow_dvd_pow 2 wide)
  have positive : 0 < ((2 ^ m : Nat) : Int) := Int.natCast_pos.mpr (Nat.two_pow_pos m)
  apply ofInt_congr
  rw [BitVec.toNat_ofInt, Int.toNat_of_nonneg (Int.emod_nonneg i positive.ne'),
    Int.emod_emod_of_dvd _ divides]

namespace ArrayKind

variable {k w : ArrayKind}

/-- A kind of integers with its width, and the integers that its elements are. -/
inductive OfIntegers : ArrayKind → Width → Prop
  | integer (n : Width) : OfIntegers (integer n) n
  | natural (n : Width) : OfIntegers (natural n) n

theorem OfIntegers.toScalar {n : Width} (integers : OfIntegers k n) (x : k.Element) :
    ∃ i : Int, k.toScalar x = .int i ∧ i.natAbs ≤ 2 ^ n.bits ∧ k.ofScalar (.int i) = x := by
  cases integers with
  | integer =>
      change BitVec n.bits at x
      refine ⟨x.toInt, rfl, ?_, BitVec.ofInt_toInt⟩
      have least := BitVec.le_toInt x
      have most := BitVec.toInt_lt (x := x)
      have half : 2 ^ (n.bits - 1) ≤ 2 ^ n.bits := Nat.pow_le_pow_right (by decide) (Nat.sub_le _ 1)
      zify at half ⊢
      rw [abs_le]
      constructor <;> omega
  | natural =>
      change BitVec n.bits at x
      refine ⟨x.toNat, rfl, x.isLt.le, ?_⟩
      change BitVec.ofInt n.bits x.toNat = x
      rw [BitVec.ofInt_natCast, BitVec.ofNat_toNat, BitVec.setWidth_eq]

theorem OfIntegers.through_integers {n m : Width} (narrow : OfIntegers k n) (wide : OfIntegers w m)
    (order : n.bits ≤ m.bits) (x : k.Element) :
    k.ofScalar (w.toScalar (w.ofScalar (k.toScalar x))) = x := by
  obtain ⟨i, scalar, -, back⟩ := narrow.toScalar x
  have kept : k.ofScalar (w.toScalar (w.ofScalar (.int i))) = k.ofScalar (.int i) := by
    cases narrow <;> cases wide
    · exact ofInt_toInt_ofInt order i
    · exact ofInt_toNat_ofInt order i
    · exact ofInt_toInt_ofInt order i
    · exact ofInt_toNat_ofInt order i
  rw [scalar, kept, back]

theorem toScalar_ofScalar_int {p : Precision} {i : Int} (few : i.natAbs ≤ 2 * p.binadeSize) :
    ∃ x : Floating .double, (real p).toScalar ((real p).ofScalar (.int i)) = .real x ∧ x.IsInteger i := by
  have room : 2 * p.binadeSize ≤ 2 * Precision.double.binadeSize := by cases p <;> decide
  obtain ⟨held, whole⟩ := Floating.exists_isInteger p few
  obtain ⟨double, whole'⟩ := Floating.exists_isInteger .double (few.trans room)
  refine ⟨double, ?_, whole'⟩
  have narrowed : (Floating.ofInt .double i).convert p = held := by
    rw [Floating.ofInt_of_isInteger whole', Floating.convert_of_matches (whole'.matches whole)]
  change Scalar.real (((Floating.ofInt .double i).convert p).convert .double) = _
  rw [narrowed, Floating.convert_of_matches (whole.matches whole')]

theorem OfIntegers.through_reals {n : Width} {p : Precision} (narrow : OfIntegers k n)
    (order : n.bits ≤ p.fractionBits + 1) (x : k.Element) :
    k.ofScalar ((real p).toScalar ((real p).ofScalar (k.toScalar x))) = x := by
  obtain ⟨i, scalar, bound, back⟩ := narrow.toScalar x
  have few : i.natAbs ≤ 2 * p.binadeSize := by
    refine bound.trans ?_
    rw [p.binadeSize_eq, Nat.mul_comm, ← pow_succ]
    exact Nat.pow_le_pow_right (by decide) order
  have held : i.natAbs < Floating.integerLimit := by
    refine bound.trans_lt (Nat.pow_lt_pow_right (by decide) ?_)
    cases n <;> decide
  obtain ⟨double, real, whole⟩ := toScalar_ofScalar_int few
  have rounded := Floating.toInteger_of_isInteger whole held
  rw [scalar, real]
  cases narrow
  · change BitVec.ofInt n.bits double.toInteger = x
    rw [rounded]
    exact back
  · change BitVec.ofInt n.bits double.toInteger = x
    rw [rounded]
    exact back

theorem bit_through (w : ArrayKind) (b : Bool) :
    Scalar.toBool (w.toScalar (w.ofScalar (.bool b))) = b := by
  cases w with
  | bit => rfl
  | integer m => cases m <;> cases b <;> decide
  | natural m => cases m <;> cases b <;> decide
  | real p =>
      have few : (if b then 1 else 0 : Int).natAbs ≤ 2 * p.binadeSize := by
        have positive := p.binadeSize_pos
        cases b with
        | false => exact Nat.zero_le _
        | true => exact show 1 ≤ 2 * p.binadeSize by omega
      obtain ⟨double, real, whole⟩ := toScalar_ofScalar_int few
      change Scalar.toBool
        ((ArrayKind.real p).toScalar ((ArrayKind.real p).ofScalar (.int (if b then 1 else 0)))) = b
      rw [real, Scalar.toBool, Floating.isNaN_of_isInteger whole, Floating.isZero_of_isInteger whole]
      cases b <;> rfl

theorem real_through {p q : Precision} (order : p.fractionBits ≤ q.fractionBits) (x : Floating p) :
    (((x.convert .double).convert q).convert .double).convert p = x := by
  have double := Floating.matches_convert p.fractionBits_le_double x
  have held := Floating.matches_convert order x
  rw [Floating.convert_of_matches (double.symm.trans held), Floating.convert_of_matches (held.symm.trans double),
    Floating.convert_of_matches double.symm]

theorem element_through (widens : k.Widens w) (x : k.Element) :
    k.ofScalar (w.toScalar (w.ofScalar (k.toScalar x))) = x := by
  cases k with
  | bit => exact bit_through w x
  | integer n =>
      cases w with
      | bit => exact widens.elim
      | integer m => exact (OfIntegers.integer n).through_integers (.integer m) widens x
      | natural m => exact (OfIntegers.integer n).through_integers (.natural m) widens x
      | real p => exact (OfIntegers.integer n).through_reals widens x
  | natural n =>
      cases w with
      | bit => exact widens.elim
      | integer m => exact (OfIntegers.natural n).through_integers (.integer m) widens x
      | natural m => exact (OfIntegers.natural n).through_integers (.natural m) widens x
      | real p => exact (OfIntegers.natural n).through_reals widens x
  | real p =>
      cases w with
      | bit => exact widens.elim
      | integer m => exact widens.elim
      | natural m => exact widens.elim
      | real q => exact real_through widens x

end ArrayKind

namespace Value

theorem coerce_array (k w : ArrayKind) (elements : List k.Element) (other : k ≠ w) :
    (array k elements).coerce (.array w) =
      .ok (array w (elements.map fun x => w.ofScalar (k.toScalar x))) := by
  unfold coerce
  rw [if_neg]
  intro same
  exact other (Kind.array.inj same)

/-- A value of numbers is widened with as many elements, and narrowed back it is the value again. -/
theorem widened_comes_back {k w : ArrayKind} (widens : k.Widens w) {v : Value} (numbers : v.kind = .array k) :
    ∃ wide, v.coerce (.array w) = .ok wide ∧ wide.kind = .array w ∧ wide.size = v.size ∧
      wide.coerce (.array k) = .ok v := by
  by_cases same : k = w
  · subst same
    refine ⟨v, ?_, numbers, rfl, ?_⟩
    · rw [← numbers]
      exact v.coerce_self
    · rw [← numbers]
      exact v.coerce_self
  · cases v with
    | string text => cases numbers
    | unstructured bytes => cases numbers
    | array k' elements =>
        cases numbers
        refine ⟨_, coerce_array k w elements same, rfl, List.length_map .., ?_⟩
        rw [coerce_array w k _ (Ne.symm same), List.map_map]
        congr 2
        exact List.map_id'' (fun x => ArrayKind.element_through widens x) elements

def gaugeReals : Value :=
  .array (.real .single) [.zero .single true, .ofBits .single 1, .infinite true, .nan]

def gaugeIntegers : Value := .array (.integer .w8) [BitVec.ofInt 8 (-1), BitVec.ofInt 8 (-128)]

theorem widened_comes_back_gauge :
    ((ArrayKind.real .single).Widens (.real .double) ∧ gaugeReals.kind = .array (.real .single) ∧
      ∃ wide, gaugeReals.coerce (.array (.real .double)) = .ok wide ∧
        wide.kind = .array (.real .double) ∧ wide.size = gaugeReals.size ∧
        wide.coerce (.array (.real .single)) = .ok gaugeReals) ∧
      ((ArrayKind.integer .w8).Widens (.natural .w16) ∧ gaugeIntegers.kind = .array (.integer .w8) ∧
      ∃ wide, gaugeIntegers.coerce (.array (.natural .w16)) = .ok wide ∧
        wide.kind = .array (.natural .w16) ∧ wide.size = gaugeIntegers.size ∧
        wide.coerce (.array (.integer .w8)) = .ok gaugeIntegers) :=
  ⟨⟨by decide, rfl, widened_comes_back (by decide) rfl⟩,
    ⟨by decide, rfl, widened_comes_back (by decide) rfl⟩⟩

end Value

end RegisterPlane
