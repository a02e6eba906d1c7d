import RegisterPlane.Proofs.Assignment.Element
import RegisterPlane.Proofs.Assignment.Key
import RegisterPlane.Proofs.Floating.Exact
import RegisterPlane.Proofs.Json.Record
import RegisterPlane.Proofs.Json.Spelling
import RegisterPlane.Wire.Value

namespace RegisterPlane

namespace Json

theorem meaning_ofInt {i : Int} (least : -(2 ^ 63 : Int) ≤ i) (most : i < 2 ^ 64) :
    (Number.integer (decide (i < 0)) (Text.digits i.natAbs)).meaning? = some (.integer i) := by
  have limit : Number.significandLimit = 2 ^ 64 - 1 := rfl
  have power : Nat.pow 2 63 = 2 ^ 63 := rfl
  simp only [Number.meaning?]
  rw [Text.ofDigits_digits, limit, power]
  by_cases negative : i < 0
  · have sign : decide (i < 0) = true := decide_eq_true negative
    rw [sign, if_neg (by simp), if_pos ⟨by omega, by omega, rfl⟩]
    congr 2
    omega
  · have sign : decide (i < 0) = false := decide_eq_false negative
    rw [sign, if_pos ⟨by omega, rfl⟩]
    congr 2
    omega

theorem asInteger_ofInt {i lowest highest : Int} (least : -(2 ^ 63 : Int) ≤ i) (most : i < 2 ^ 64)
    (above : lowest ≤ i) (below : i ≤ highest) : (ofInt i).asInteger? lowest highest = some i := by
  simp only [ofInt, asInteger?, meaning_ofInt least most]
  exact if_pos ⟨above, below⟩

theorem isSpelled_ofInt (i : Int) : (ofInt i).IsSpelled := isSpelled_integer _ _

theorem isSound_ofInt {i : Int} (least : -(2 ^ 63 : Int) ≤ i) (most : i < 2 ^ 64) :
    (ofInt i).isSound = true := by
  simp only [ofInt, isSound, meaning_ofInt least most]
  rfl

end Json

namespace Wire

open Json

variable {p : Precision}

/-- The number of a finite real is read as that real, which is not so for every real: the reader rounds
more than once. -/
def ReadsBack (x : Floating p) : Prop :=
  x.isFinite = true → realOfJson? p p (realToJson x) = some x

instance (x : Floating p) : Decidable (ReadsBack x) := inferInstanceAs (Decidable (_ → _))

theorem realOfJson_realToJson {x : Floating p} (back : ReadsBack x) :
    realOfJson? p p (realToJson x) = some x := by
  cases x with
  | nan => rfl
  | infinite negative => cases negative <;> rfl
  | finite negative place => exact back rfl

theorem realOfJson_widened {q : Precision} (finer : Precision.Finer p q) {x : Floating p}
    (back : ReadsBack (x.convert q)) : realOfJson? q p (realToJson (x.convert q)) = some x := by
  cases x with
  | nan =>
      rw [Floating.convert_nan]
      rfl
  | infinite negative =>
      rw [Floating.convert_infinite]
      cases negative <;> rfl
  | finite negative place =>
      obtain ⟨wide, widened, -⟩ := Floating.convert_finer finer negative place
      have whole := Floating.convert_of_matches
        (Floating.matches_convert finer.fraction.le (.finite negative place)).symm
      rw [widened] at back whole ⊢
      obtain ⟨meaning, reads, same⟩ := Option.map_eq_some_iff.mp (back rfl)
      rw [Floating.convert_self] at same
      change Option.map _ _ = _
      rw [reads, Option.map_some, same, whole]

/-- Every finite real that the value is written with is read back. -/
def Carried : Value → Prop
  | .array (.real .half) elements => ∀ x ∈ elements, ReadsBack (Floating.convert .single x)
  | .array (.real .single) elements => ∀ x : Floating .single, x ∈ elements → ReadsBack x
  | .array (.real .double) elements => ∀ x : Floating .double, x ∈ elements → ReadsBack x
  | _ => True

instance : (v : Value) → Decidable (Carried v)
  | .array (.real .half) (elements : List (Floating .half)) =>
    inferInstanceAs (Decidable (∀ x ∈ elements, ReadsBack (x.convert .single)))
  | .array (.real .single) (elements : List (Floating .single)) =>
    inferInstanceAs (Decidable (∀ x ∈ elements, ReadsBack x))
  | .array (.real .double) (elements : List (Floating .double)) =>
    inferInstanceAs (Decidable (∀ x ∈ elements, ReadsBack x))
  | .array .bit _ => .isTrue trivial
  | .array (.integer _) _ => .isTrue trivial
  | .array (.natural _) _ => .isTrue trivial
  | .string _ => .isTrue trivial
  | .unstructured _ => .isTrue trivial

def ElementCarried : (k : ArrayKind) → k.Element → Prop
  | .real .half => fun (x : Floating .half) => ReadsBack (x.convert .single)
  | .real .single => fun (x : Floating .single) => ReadsBack x
  | .real .double => fun (x : Floating .double) => ReadsBack x
  | _ => fun _ => True

theorem elementCarried {k : ArrayKind} {elements : List k.Element} (carried : Carried (.array k elements)) :
    ∀ x ∈ elements, ElementCarried k x := by
  intro x member
  cases k with
  | bit => trivial
  | integer w => trivial
  | natural w => trivial
  | real p =>
      cases p with
      | half => exact carried x member
      | single => exact carried x member
      | double => exact carried x member

theorem integer_range (w : Width) (i : BitVec w.bits) :
    -(2 ^ 63 : Int) ≤ i.toInt ∧ i.toInt < 2 ^ 64 ∧ -(w.half : Int) ≤ i.toInt ∧
      i.toInt ≤ (w.half : Int) - 1 := by
  obtain ⟨least, most⟩ := Assignment.toInt_bounds w i
  have half : 1 ≤ w.half ∧ w.half ≤ 2 ^ 63 := by cases w <;> decide
  omega

theorem natural_range (w : Width) (n : BitVec w.bits) :
    (n.toNat : Int) < 2 ^ 64 ∧ (n.toNat : Int) ≤ (w.capacity : Int) - 1 := by
  have most := Assignment.toNat_le w n
  have capacity : 1 ≤ w.capacity ∧ w.capacity ≤ 2 ^ 64 := by cases w <;> decide
  omega

theorem elementOfJson_elementToJson {k : ArrayKind} {x : k.Element} (carried : ElementCarried k x) :
    elementOfJson? k (elementToJson k x) = some x := by
  cases k with
  | bit => rfl
  | integer w =>
      change BitVec w.bits at x
      obtain ⟨least, most, above, below⟩ := integer_range w x
      change ((ofInt x.toInt).asInteger? _ _).map (BitVec.ofInt w.bits) = _
      rw [asInteger_ofInt least most above below, Option.map_some, BitVec.ofInt_toInt]
      rfl
  | natural w =>
      change BitVec w.bits at x
      obtain ⟨most, below⟩ := natural_range w x
      change ((ofInt (x.toNat : Int)).asInteger? _ _).map (BitVec.ofInt w.bits) = _
      rw [asInteger_ofInt (by omega) most (by omega) below, Option.map_some, BitVec.ofInt_natCast,
        BitVec.ofNat_toNat, BitVec.setWidth_eq]
      rfl
  | real p =>
      cases p with
      | half => exact realOfJson_widened Precision.half_finer_single carried
      | single => exact realOfJson_realToJson carried
      | double => exact realOfJson_realToJson carried

structure IsScalar (j : Json) : Prop where
  spelled : j.IsSpelled
  sound : j.isSound = true
  flat : j.depth = 0

theorem isScalar_ofInt {i : Int} (least : -(2 ^ 63 : Int) ≤ i) (most : i < 2 ^ 64) :
    IsScalar (ofInt i) := ⟨isSpelled_ofInt i, isSound_ofInt least most, rfl⟩

theorem isSpelled_realToJson (x : Floating p) : (realToJson x).IsSpelled := by
  cases x with
  | nan => trivial
  | infinite negative => cases negative <;> trivial
  | finite negative place =>
      exact isSpelled_numeral (isNumeral_numeralOfDecimal p negative Precision.exponent_shortest)

theorem isScalar_realToJson {x : Floating p} (back : ReadsBack x) : IsScalar (realToJson x) := by
  have spelled := isSpelled_realToJson x
  cases x with
  | nan => exact ⟨spelled, rfl, rfl⟩
  | infinite negative => cases negative <;> exact ⟨spelled, rfl, rfl⟩
  | finite negative place =>
      obtain ⟨meaning, reads, -⟩ := Option.map_eq_some_iff.mp (back rfl)
      refine ⟨spelled, ?_, rfl⟩
      change Option.isSome _ = true
      rw [reads]
      rfl

theorem isScalar_elementToJson {k : ArrayKind} {x : k.Element} (carried : ElementCarried k x) :
    IsScalar (elementToJson k x) := by
  cases k with
  | bit => exact ⟨trivial, rfl, rfl⟩
  | integer w =>
      change BitVec w.bits at x
      obtain ⟨least, most, -, -⟩ := integer_range w x
      exact isScalar_ofInt least most
  | natural w =>
      change BitVec w.bits at x
      obtain ⟨most, -⟩ := natural_range w x
      exact isScalar_ofInt (by omega) most
  | real p =>
      cases p with
      | half => exact isScalar_realToJson carried
      | single => exact isScalar_realToJson carried
      | double => exact isScalar_realToJson carried

theorem array_of_scalars {items : List Json} (scalars : ∀ j ∈ items, IsScalar j) :
    (array items).IsSpelled ∧ (array items).isSound = true ∧ (array items).depth = 1 := by
  have parts : AreSpelled items ∧ areSound items = true ∧ depthOfItems items = 0 := by
    induction items with
    | nil => exact ⟨trivial, rfl, rfl⟩
    | cons item rest ih =>
        obtain ⟨spelled, sound, flat⟩ := scalars item List.mem_cons_self
        obtain ⟨others, sound', flat'⟩ := ih fun j member => scalars j (List.mem_cons_of_mem item member)
        refine ⟨⟨spelled, others⟩, ?_, ?_⟩
        · rw [areSound, sound, sound']
          rfl
        · rw [depthOfItems, flat, flat']
          rfl
  obtain ⟨spelled, sound, flat⟩ := parts
  exact ⟨spelled, sound, by rw [depth, flat]⟩

theorem byteOfJson_ofInt (b : UInt8) : byteOfJson? (ofInt b.toNat) = some b := by
  have octet := b.toNat_lt
  unfold byteOfJson?
  rw [asInteger_ofInt (by omega) (by omega) (by omega) (by omega), Option.map_some, Int.toNat_natCast,
    UInt8.ofNat_toNat]

theorem elementsOfJson_elementsToJson {v : Value} (carried : Carried v) :
    elementsOfJson? v.kind (elementsToJson v) = some v := by
  cases v with
  | array k elements =>
      have all := mapM_back fun x member => elementOfJson_elementToJson (elementCarried carried x member)
      change (elements.map (elementToJson k)).mapM (elementOfJson? k) >>=
        (fun elements => some (Value.array k elements)) = _
      rw [all]
      rfl
  | string text => rfl
  | unstructured bytes =>
      have all : (bytes.map fun b => ofInt (b.toNat : Int)).mapM byteOfJson? = some bytes :=
        mapM_back fun b _ => byteOfJson_ofInt b
      change (bytes.map fun b => ofInt (b.toNat : Int)).mapM byteOfJson? >>=
        (fun bytes => some (Value.unstructured bytes)) = _
      rw [all]
      rfl

theorem elementsToJson_parts {v : Value} (carried : Carried v) :
    (elementsToJson v).IsSpelled ∧ (elementsToJson v).isSound = true ∧ (elementsToJson v).depth ≤ 1 := by
  cases v with
  | array k elements =>
      have scalars : ∀ j ∈ elements.map (elementToJson k), IsScalar j := by
        intro j member
        obtain ⟨x, here, rfl⟩ := List.mem_map.mp member
        exact isScalar_elementToJson (elementCarried carried x here)
      obtain ⟨spelled, sound, flat⟩ := array_of_scalars scalars
      exact ⟨spelled, sound, flat.le⟩
  | string text => exact ⟨trivial, rfl, Nat.zero_le 1⟩
  | unstructured bytes =>
      have scalars : ∀ j ∈ bytes.map fun b => ofInt (b.toNat : Int), IsScalar j := by
        intro j member
        obtain ⟨b, -, rfl⟩ := List.mem_map.mp member
        have octet := b.toNat_lt
        exact isScalar_ofInt (by omega) (by omega)
      obtain ⟨spelled, sound, flat⟩ := array_of_scalars scalars
      exact ⟨spelled, sound, flat.le⟩

theorem kindOfJson_kindToJson (passage : Passage) (k : Kind) :
    kindOfJson? passage (kindToJson k) = some k := by
  have table : ∀ k ∈ Kind.all, Kind.ofExactToken? k.token = some k := by decide
  change Kind.ofExactToken? k.token = some k
  exact table k (Assignment.mem_all k)

theorem valueOfJson_eq (passage : Passage) (v : Value) :
    valueOfJson? passage (valueToJson v) = elementsOfJson? v.kind (elementsToJson v) := by
  have kind : member? [("kind", kindToJson v.kind), ("elements", elementsToJson v)] "kind" =
      some (some (kindToJson v.kind)) := rfl
  have elements : member? [("kind", kindToJson v.kind), ("elements", elementsToJson v)] "elements" =
      some (some (elementsToJson v)) := rfl
  simp only [valueOfJson?, valueToJson]
  rw [kind, elements]
  dsimp only
  rw [kindOfJson_kindToJson]
  rfl

theorem valueOfJson_valueToJson (passage : Passage) {v : Value} (carried : Carried v) :
    valueOfJson? passage (valueToJson v) = some v :=
  (valueOfJson_eq passage v).trans (elementsOfJson_elementsToJson carried)

theorem kind_of_elementsOfJson {k : Kind} {j : Json} {v : Value} (read : elementsOfJson? k j = some v) :
    v.kind = k := by
  cases k with
  | array k =>
      obtain ⟨items, -, more⟩ := Option.bind_eq_some_iff.mp read
      obtain ⟨elements, -, same⟩ := Option.bind_eq_some_iff.mp more
      cases same
      rfl
  | string =>
      obtain ⟨text, -, rfl⟩ := Option.map_eq_some_iff.mp read
      rfl
  | unstructured =>
      obtain ⟨items, -, more⟩ := Option.bind_eq_some_iff.mp read
      obtain ⟨bytes, -, same⟩ := Option.bind_eq_some_iff.mp more
      cases same
      rfl

theorem isSpelled_elementToJson (k : ArrayKind) (x : k.Element) : (elementToJson k x).IsSpelled := by
  cases k with
  | bit => trivial
  | integer w => exact isSpelled_ofInt _
  | natural w => exact isSpelled_ofInt _
  | real p =>
      cases p with
      | half => exact isSpelled_realToJson _
      | single => exact isSpelled_realToJson _
      | double => exact isSpelled_realToJson _

theorem areSpelled_map {α : Type} (write : α → Json) (spelled : ∀ x, (write x).IsSpelled) (xs : List α) :
    AreSpelled (xs.map write) := by
  induction xs with
  | nil => trivial
  | cons x xs ih => exact ⟨spelled x, ih⟩

theorem isSpelled_valueToJson (v : Value) : (valueToJson v).IsSpelled := by
  refine ⟨trivial, ?_, trivial⟩
  cases v with
  | array k elements => exact areSpelled_map _ (isSpelled_elementToJson k) elements
  | string text => trivial
  | unstructured bytes => exact areSpelled_map _ (fun b : UInt8 => isSpelled_ofInt b.toNat) bytes

theorem valueToJson_parts {v : Value} (carried : Carried v) :
    (valueToJson v).IsSpelled ∧ (valueToJson v).isSound = true ∧ (valueToJson v).depth ≤ 2 := by
  obtain ⟨spelled, sound, shallow⟩ := elementsToJson_parts carried
  refine ⟨⟨trivial, spelled, trivial⟩, ?_, ?_⟩
  · change (true && ((elementsToJson v).isSound && true)) = true
    rw [sound]
    rfl
  · change max 0 (max (elementsToJson v).depth 0) + 1 ≤ 2
    omega

end Wire

end RegisterPlane
