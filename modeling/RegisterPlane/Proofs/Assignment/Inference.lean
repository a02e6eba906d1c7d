import RegisterPlane.Assignment.Literal
import RegisterPlane.Proofs.Assignment.RoundTrip
import RegisterPlane.Proofs.Value.Wrapping

/-! The kind that is taken where a literal names none. It holds every element of the literal as it is, and no
narrower kind of its sort does: integers go by width, reals by what half and single precision keep of them. -/

namespace RegisterPlane

def Scalar.literal : Scalar → Yaml
  | bool b => .bool b
  | int i => .integer i
  | real x => .real x

namespace ArrayKind

variable {k : ArrayKind} {w : Width}

theorem OfIntegers.toScalar_eq_iff (integers : k.OfIntegers w) (x : k.Element) (i : ℤ) :
    k.toScalar x = .int i ↔ k.Holds i ∧ k.ofScalar (.int i) = x := by
  obtain ⟨j, scalar, -, back⟩ := integers.toScalar x
  constructor
  · intro same
    have holds := (integers.ofScalar (k.toScalar x)).1
    rw [scalar] at same holds
    cases same
    rw [back, scalar] at holds
    exact ⟨holds, back⟩
  · rintro ⟨holds, rfl⟩
    obtain ⟨held, congruent⟩ := integers.ofScalar (.int i)
    rw [scalar] at held congruent ⊢
    exact congrArg Scalar.int (integers.only holds held congruent)

theorem OfIntegers.map_toScalar_eq_iff (integers : k.OfIntegers w) (elements : List k.Element)
    (is : List ℤ) :
    elements.map k.toScalar = is.map Scalar.int ↔
      (∀ i ∈ is, k.Holds i) ∧ elements = is.map fun i => k.ofScalar (.int i) := by
  induction is generalizing elements with
  | nil => simp
  | cons i is ih =>
      cases elements with
      | nil => simp
      | cons x elements =>
          rw [List.map_cons, List.map_cons, List.map_cons, List.cons.injEq, List.cons.injEq, ih,
            integers.toScalar_eq_iff, List.forall_mem_cons, eq_comm (a := x)]
          tauto

end ArrayKind

namespace Assignment

/-! Integers. -/

theorem mem_widths (w : Width) : w ∈ widths := by cases w <;> decide

theorem bits_injective {w w' : Width} (same : w.bits = w'.bits) : w = w' := by
  revert same
  cases w <;> cases w' <;> decide

theorem find_widths_eq_some_iff (fits : Width → Bool) (w : Width) :
    widths.find? fits = some w ↔ fits w = true ∧ ∀ w', fits w' = true → w.bits ≤ w'.bits := by
  have narrowest : ∀ {w}, widths.find? fits = some w → ∀ w', fits w' = true → w.bits ≤ w'.bits := by
    intro w found w' fits'
    obtain ⟨-, before, after, row, narrower⟩ := List.find?_eq_some_iff_append.mp found
    have rising : widths.Pairwise fun a b => a.bits < b.bits := by decide
    have member := mem_widths w'
    rw [row] at rising member
    rcases List.mem_append.mp member with early | late
    · have unfit := narrower w' early
      rw [fits'] at unfit
      cases unfit
    · rcases List.mem_cons.mp late with rfl | behind
      · exact le_refl _
      · exact ((List.pairwise_cons.mp (List.pairwise_append.mp rising).2.1).1 w' behind).le
  constructor
  · exact fun found => ⟨List.find?_some found, narrowest found⟩
  · rintro ⟨here, least⟩
    cases found : widths.find? fits with
    | none => exact absurd here (List.find?_eq_none.mp found w (mem_widths w))
    | some w' =>
        have order := narrowest found w here
        have order' := least w' (List.find?_some found)
        rw [bits_injective (le_antisymm order order')]

/-- The integers are the elements, in a kind of the least width among those that hold them all. -/
structure NarrowestOf (sort : Width → ArrayKind) (is : List ℤ) (w : Width)
    (elements : List (sort w).Element) : Prop where
  same : elements.map (sort w).toScalar = is.map Scalar.int
  least : ∀ w', (∀ i ∈ is, (sort w').Holds i) → w.bits ≤ w'.bits

inductive NarrowestIntegers (is : List ℤ) : Value → Prop
  | natural {w : Width} {elements : List (ArrayKind.natural w).Element} (unsigned : ∀ i ∈ is, 0 ≤ i)
      (narrowest : NarrowestOf .natural is w elements) :
      NarrowestIntegers is (.array (.natural w) elements)
  | integer {w : Width} {elements : List (ArrayKind.integer w).Element} (negative : ∃ i ∈ is, i < 0)
      (narrowest : NarrowestOf .integer is w elements) :
      NarrowestIntegers is (.array (.integer w) elements)

theorem narrowestOf_iff {sort : Width → ArrayKind} (integers : ∀ w, (sort w).OfIntegers w)
    {fits : ℤ → Width → Bool} (holds : ∀ i w, fits i w = true ↔ (sort w).Holds i) (is : List ℤ) (w : Width)
    (elements : List (sort w).Element) :
    NarrowestOf sort is w elements ↔
      widths.find? (fun w => is.all (fits · w)) = some w ∧
        elements = is.map fun i => (sort w).ofScalar (.int i) := by
  rw [find_widths_eq_some_iff]
  simp only [List.all_eq_true, holds]
  constructor
  · rintro ⟨same, least⟩
    obtain ⟨here, spelled⟩ := ((integers w).map_toScalar_eq_iff elements is).mp same
    exact ⟨⟨here, least⟩, spelled⟩
  · rintro ⟨⟨here, least⟩, spelled⟩
    exact ⟨((integers w).map_toScalar_eq_iff elements is).mpr ⟨here, spelled⟩, least⟩

theorem fitsNatural_iff (i : ℤ) (w : Width) : fitsNatural i w = true ↔ (ArrayKind.natural w).Holds i := by
  simp [fitsNatural, ArrayKind.Holds]

theorem fitsInteger_iff (i : ℤ) (w : Width) : fitsInteger i w = true ↔ (ArrayKind.integer w).Holds i := by
  simp [fitsInteger, ArrayKind.Holds]

theorem narrowestIntegers_of_unsigned {is : List ℤ} (unsigned : ∀ i ∈ is, 0 ≤ i) (v : Value) :
    NarrowestIntegers is v ↔
      ∃ w elements, NarrowestOf .natural is w elements ∧ v = .array (.natural w) elements := by
  constructor
  · intro narrowest
    cases narrowest with
    | natural _ narrowest => exact ⟨_, _, narrowest, rfl⟩
    | integer negative _ =>
        obtain ⟨i, member, less⟩ := negative
        exact absurd (unsigned i member) (not_le.mpr less)
  · rintro ⟨w, elements, narrowest, rfl⟩
    exact .natural unsigned narrowest

theorem narrowestIntegers_of_negative {is : List ℤ} (negative : ∃ i ∈ is, i < 0) (v : Value) :
    NarrowestIntegers is v ↔
      ∃ w elements, NarrowestOf .integer is w elements ∧ v = .array (.integer w) elements := by
  constructor
  · intro narrowest
    cases narrowest with
    | natural unsigned _ =>
        obtain ⟨i, member, less⟩ := negative
        exact absurd (unsigned i member) (not_le.mpr less)
    | integer _ narrowest => exact ⟨_, _, narrowest, rfl⟩
  · rintro ⟨w, elements, narrowest, rfl⟩
    exact .integer negative narrowest

theorem chosen_iff {sort : Width → ArrayKind} (integers : ∀ w, (sort w).OfIntegers w)
    {fits : ℤ → Width → Bool} (holds : ∀ i w, fits i w = true ↔ (sort w).Holds i) (is : List ℤ)
    (fault : LiteralFault) (v : Value) :
    (match widths.find? fun w => is.all (fits · w) with
      | some w => Except.ok (Value.array (sort w) (is.map fun i => (sort w).ofScalar (.int i)))
      | none => .error fault) = .ok v ↔
      ∃ w elements, NarrowestOf sort is w elements ∧ v = .array (sort w) elements := by
  simp only [narrowestOf_iff integers holds]
  cases widths.find? fun w => is.all (fits · w) with
  | none => simp
  | some w =>
      constructor
      · intro chosen
        exact ⟨w, _, ⟨rfl, rfl⟩, (Except.ok.inj chosen).symm⟩
      · rintro ⟨w', elements, ⟨found, rfl⟩, rfl⟩
        cases found
        rfl

theorem narrowestInteger_eq_ok_iff (is : List ℤ) (v : Value) :
    narrowestInteger is = .ok v ↔ NarrowestIntegers is v := by
  unfold narrowestInteger
  by_cases unsigned : ∀ i ∈ is, 0 ≤ i
  · rw [if_pos (by simpa using unsigned), narrowestIntegers_of_unsigned unsigned]
    exact chosen_iff .natural fitsNatural_iff is .unsignedOverflow v
  · have negative : ∃ i ∈ is, i < 0 := by simpa using unsigned
    rw [if_neg (by simpa using negative), narrowestIntegers_of_negative negative]
    exact chosen_iff .integer fitsInteger_iff is .signedOverflow v

theorem exists_narrowestOf_iff {sort : Width → ArrayKind} (integers : ∀ w, (sort w).OfIntegers w)
    {fits : ℤ → Width → Bool} (holds : ∀ i w, fits i w = true ↔ (sort w).Holds i)
    (widest : ∀ w i, (sort w).Holds i → (sort .w64).Holds i) (is : List ℤ) :
    (∃ w elements, NarrowestOf sort is w elements) ↔ ∀ i ∈ is, (sort .w64).Holds i := by
  simp only [narrowestOf_iff integers holds]
  constructor
  · rintro ⟨w, elements, found, -⟩ i member
    have fit := ((find_widths_eq_some_iff _ w).mp found).1
    exact widest w i ((holds i w).mp (List.all_eq_true.mp fit i member))
  · intro here
    have fit : is.all (fits · .w64) = true := List.all_eq_true.mpr fun i member =>
      (holds i .w64).mpr (here i member)
    cases found : widths.find? fun w => is.all (fits · w) with
    | none => exact absurd fit (List.find?_eq_none.mp found .w64 (mem_widths .w64))
    | some w => exact ⟨w, _, rfl, rfl⟩

theorem holds_natural_widest (w : Width) (i : ℤ) (holds : (ArrayKind.natural w).Holds i) :
    (ArrayKind.natural .w64).Holds i := by
  have order : w.capacity ≤ Width.w64.capacity := by cases w <;> decide
  unfold ArrayKind.Holds at *
  omega

theorem holds_integer_widest (w : Width) (i : ℤ) (holds : (ArrayKind.integer w).Holds i) :
    (ArrayKind.integer .w64).Holds i := by
  have order : w.half ≤ Width.w64.half := by cases w <;> decide
  unfold ArrayKind.Holds at *
  omega

theorem exists_narrowestIntegers_iff (is : List ℤ) :
    (∃ v, NarrowestIntegers is v) ↔
      (∀ i ∈ is, -2 ^ 63 ≤ i ∧ i < 2 ^ 64) ∧ ¬((∃ i ∈ is, i < 0) ∧ ∃ i ∈ is, 2 ^ 63 - 1 < i) := by
  have of_kind : ∀ sort : Width → ArrayKind,
      (∃ v, ∃ w elements, NarrowestOf sort is w elements ∧ v = Value.array (sort w) elements) ↔
        ∃ w elements, NarrowestOf sort is w elements := fun sort =>
    ⟨fun ⟨_, w, elements, narrowest, _⟩ => ⟨w, elements, narrowest⟩,
      fun ⟨w, elements, narrowest⟩ => ⟨_, w, elements, narrowest, rfl⟩⟩
  have capacity : (Width.w64.capacity : ℤ) = 2 ^ 64 := rfl
  have half : (Width.w64.half : ℤ) = 2 ^ 63 := rfl
  by_cases unsigned : ∀ i ∈ is, 0 ≤ i
  · simp only [narrowestIntegers_of_unsigned unsigned]
    rw [of_kind, exists_narrowestOf_iff .natural fitsNatural_iff holds_natural_widest]
    unfold ArrayKind.Holds
    constructor
    · intro held
      refine ⟨fun i member => ?_, ?_⟩
      · have bounds := held i member
        omega
      · rintro ⟨⟨i, member, less⟩, -⟩
        exact absurd (unsigned i member) (not_le.mpr less)
    · rintro ⟨held, -⟩ i member
      have bounds := held i member
      exact ⟨unsigned i member, by omega⟩
  · have negative : ∃ i ∈ is, i < 0 := by simpa using unsigned
    simp only [narrowestIntegers_of_negative negative]
    rw [of_kind, exists_narrowestOf_iff .integer fitsInteger_iff holds_integer_widest]
    unfold ArrayKind.Holds
    constructor
    · intro held
      refine ⟨fun i member => ?_, ?_⟩
      · have bounds := held i member
        omega
      · rintro ⟨-, i, member, large⟩
        have bounds := held i member
        omega
    · rintro ⟨held, unmixed⟩ i member
      have bounds := held i member
      have small : ¬2 ^ 63 - 1 < i := fun large => unmixed ⟨negative, i, member, large⟩
      exact ⟨by omega, by omega⟩

/-! Reals. -/

/-- A finite number that half precision holds exactly. -/
def IsHalf (x : Floating .double) : Prop := x.isFinite = true ∧ ∃ h : Floating .half, h.Matches x

/-- A finite number with the same shortest text at single precision. -/
def KeepsDigits (x : Floating .double) : Prop :=
  x.isFinite = true ∧ (x.convert .single).plainText = x.plainText

/-- Reals at half precision where that holds them exactly, at single precision where that keeps their texts,
and as they are otherwise. -/
inductive NarrowestReals (xs : List (Floating .double)) : Value → Prop
  | half {hs : List (Floating .half)} (halves : ∀ x ∈ xs, IsHalf x)
      (same : List.Forall₂ Floating.Matches hs xs) : NarrowestReals xs (.array (.real .half) hs)
  | single {ss : List (Floating .single)} (finer : ∃ x ∈ xs, ¬IsHalf x) (kept : ∀ x ∈ xs, KeepsDigits x)
      (same : List.Forall₂ (fun s x => s.plainText = x.plainText) ss xs) :
      NarrowestReals xs (.array (.real .single) ss)
  | double (finer : ∃ x ∈ xs, ¬IsHalf x) (lost : ∃ x ∈ xs, ¬KeepsDigits x) :
      NarrowestReals xs (.array (.real .double) xs)

theorem isHalf_iff (x : Floating .double) : isHalf x = true ↔ IsHalf x := by
  unfold isHalf IsHalf
  rw [Bool.and_eq_true]
  constructor
  · rintro ⟨finite, level⟩
    refine ⟨finite, x.convert .half, ?_⟩
    have held := Floating.matches_convert (Precision.fractionBits_le_double .half) (x.convert .half)
    rwa [Floating.convert_eq_of_same finite level] at held
  · rintro ⟨finite, h, same⟩
    refine ⟨finite, ?_⟩
    rw [Floating.convert_of_matches same.symm, Floating.convert_of_matches same]
    exact Floating.same_self finite

theorem hasSingleDigits_iff (x : Floating .double) : hasSingleDigits x = true ↔ KeepsDigits x := by
  unfold hasSingleDigits KeepsDigits
  rw [Bool.and_eq_true, beq_iff_eq]

theorem forall₂_matches_iff {hs : List (Floating .half)} {xs : List (Floating .double)}
    (halves : ∀ x ∈ xs, IsHalf x) :
    List.Forall₂ Floating.Matches hs xs ↔ hs = xs.map (Floating.convert .half) := by
  constructor
  · intro same
    induction same with
    | nil => rfl
    | cons first later ih =>
        rw [List.map_cons, Floating.convert_of_matches first.symm,
          ih fun x member => halves x (List.mem_cons_of_mem _ member)]
  · rintro rfl
    rw [List.forall₂_map_left_iff, List.forall₂_same]
    intro x member
    obtain ⟨-, h, same⟩ := halves x member
    rwa [Floating.convert_of_matches same.symm]

theorem forall₂_plainText_iff {ss : List (Floating .single)} {xs : List (Floating .double)}
    (kept : ∀ x ∈ xs, KeepsDigits x) :
    List.Forall₂ (fun s x => s.plainText = x.plainText) ss xs ↔ ss = xs.map (Floating.convert .single) := by
  constructor
  · intro same
    induction same with
    | nil => rfl
    | @cons s x ss xs first later ih =>
        have own := (kept x List.mem_cons_self).2
        rw [List.map_cons, Floating.plainText_injective (own.trans first.symm),
          ih fun x member => kept x (List.mem_cons_of_mem _ member)]
  · rintro rfl
    rw [List.forall₂_map_left_iff, List.forall₂_same]
    exact fun x member => (kept x member).2

theorem narrowestReal_eq_iff (xs : List (Floating .double)) (v : Value) :
    narrowestReal xs = v ↔ NarrowestReals xs v := by
  have all_halves : xs.all isHalf = true ↔ ∀ x ∈ xs, IsHalf x := by simp [isHalf_iff]
  have all_kept : xs.all hasSingleDigits = true ↔ ∀ x ∈ xs, KeepsDigits x := by
    simp [hasSingleDigits_iff]
  unfold narrowestReal
  by_cases halves : ∀ x ∈ xs, IsHalf x
  · rw [if_pos (all_halves.mpr halves)]
    constructor
    · rintro rfl
      exact .half halves ((forall₂_matches_iff halves).mpr rfl)
    · intro narrowest
      cases narrowest with
      | half _ same =>
          rw [(forall₂_matches_iff halves).mp same]
          rfl
      | single finer => exact absurd halves (by simpa using finer)
      | double finer => exact absurd halves (by simpa using finer)
  · rw [if_neg fun all => halves (all_halves.mp all)]
    have finer : ∃ x ∈ xs, ¬IsHalf x := by simpa using halves
    by_cases kept : ∀ x ∈ xs, KeepsDigits x
    · rw [if_pos (all_kept.mpr kept)]
      constructor
      · rintro rfl
        exact .single finer kept ((forall₂_plainText_iff kept).mpr rfl)
      · intro narrowest
        cases narrowest with
        | half halves' => exact absurd halves' halves
        | single _ _ same =>
            rw [(forall₂_plainText_iff kept).mp same]
            rfl
        | double _ lost => exact absurd kept (by simpa using lost)
    · rw [if_neg fun all => kept (all_kept.mp all)]
      constructor
      · rintro rfl
        exact .double finer (by simpa using kept)
      · intro narrowest
        cases narrowest with
        | half halves' => exact absurd halves' halves
        | single _ kept' => exact absurd kept' kept
        | double => rfl

/-! Sequences. -/

inductive AsDouble : Scalar → Floating .double → Prop
  | integer (i : ℤ) : AsDouble (.int i) (.ofInt .double i)
  | real (x : Floating .double) : AsDouble (.real x) x

theorem inferScalars_bools (bs : List Bool) : inferScalars (bs.map .bool) = .ok (.array .bit bs) := by
  have bools : (bs.map Scalar.bool).all isBool = true := by simp [isBool]
  have values : (bs.map Scalar.bool).map Scalar.toBool = bs := by
    rw [List.map_map]
    exact List.map_id _
  unfold inferScalars
  rw [if_pos bools]
  exact congrArg (fun bits : List Bool => Except.ok (Value.array .bit bits)) values

theorem inferScalars_mixed {items : List Scalar} {b : Bool} (some_bool : .bool b ∈ items) {s : Scalar}
    (member : s ∈ items) (number : isBool s = false) : inferScalars items = .error .mixedBooleans := by
  have others : ¬items.all isBool = true := by
    intro all
    rw [List.all_eq_true.mp all s member] at number
    cases number
  have bools : items.any isBool = true := List.any_eq_true.mpr ⟨.bool b, some_bool, rfl⟩
  unfold inferScalars
  rw [if_neg others, if_pos bools]

theorem mapM_integer (is : List ℤ) : (is.map Scalar.int).mapM integer? = some is := by
  induction is with
  | nil => rfl
  | cons i is ih =>
      rw [List.map_cons, List.mapM_cons, ih]
      rfl

theorem inferScalars_integers {is : List ℤ} (filled : is ≠ []) :
    inferScalars (is.map .int) = narrowestInteger is := by
  obtain ⟨i, rest, rfl⟩ := List.exists_cons_of_ne_nil filled
  have none : ¬((i :: rest).map Scalar.int).any isBool = true := by simp [isBool]
  unfold inferScalars
  rw [if_neg (by simp [isBool]), if_neg none, mapM_integer]

theorem mapM_integer_real {items : List Scalar} {x : Floating .double} (member : .real x ∈ items) :
    items.mapM integer? = none := by
  induction items with
  | nil => cases member
  | cons s items ih =>
      rw [List.mapM_cons]
      rcases List.mem_cons.mp member with rfl | later
      · rfl
      · rw [ih later]
        cases integer? s <;> rfl

theorem inferScalars_reals {items : List Scalar} {xs : List (Floating .double)}
    (doubles : List.Forall₂ AsDouble items xs) {x : Floating .double} (member : .real x ∈ items) :
    inferScalars items = .ok (narrowestReal xs) := by
  have values : items.map Scalar.toDouble = xs := by
    clear member
    induction doubles with
    | nil => rfl
    | cons first later ih =>
        rw [List.map_cons, ih]
        cases first <;> rfl
  have none : ¬items.any isBool = true := by
    rw [List.any_eq_true]
    rintro ⟨s, here, bool⟩
    obtain ⟨y, -, number⟩ := forall₂_mem_left doubles here
    cases number <;> cases bool
  have others : ¬items.all isBool = true := fun all => by
    have bool := List.all_eq_true.mp all (.real x) member
    cases bool
  unfold inferScalars
  rw [if_neg others, if_neg none, mapM_integer_real member, values]

theorem eq_of_mapM_integer {items : List Scalar} {is : List ℤ} (done : items.mapM integer? = some is) :
    items = is.map .int := by
  induction items generalizing is with
  | nil =>
      cases done
      rfl
  | cons s items ih =>
      rw [List.mapM_cons] at done
      obtain ⟨i, first, done⟩ := Option.bind_eq_some_iff.mp done
      obtain ⟨rest, later, done⟩ := Option.bind_eq_some_iff.mp done
      cases done
      cases s with
      | bool b => cases first
      | real x => cases first
      | int j =>
          cases first
          rw [List.map_cons, ih later]

theorem exists_real {items : List Scalar} (numbers : ∀ s ∈ items, isBool s = false)
    (other : items.mapM integer? = none) : ∃ x, .real x ∈ items := by
  induction items with
  | nil => cases other
  | cons s items ih =>
      obtain ⟨number, others⟩ := List.forall_mem_cons.mp numbers
      cases s with
      | bool b => cases number
      | real x => exact ⟨x, List.mem_cons_self⟩
      | int i =>
          rw [List.mapM_cons] at other
          cases later : items.mapM integer? with
          | none =>
              obtain ⟨x, member⟩ := ih others later
              exact ⟨x, List.mem_cons_of_mem _ member⟩
          | some is =>
              rw [later] at other
              cases other

theorem inferScalars_cases {items : List Scalar} {v : Value} (inferred : inferScalars items = .ok v) :
    (∃ bs, items = bs.map .bool ∧ v = .array .bit bs) ∨
      (∃ is, items = is.map .int ∧ NarrowestIntegers is v) ∨
        ∃ xs, List.Forall₂ AsDouble items xs ∧ (∃ x, .real x ∈ items) ∧ NarrowestReals xs v := by
  unfold inferScalars at inferred
  split at inferred
  · rename_i bools
    have kept : ∀ s ∈ items, (Scalar.bool ∘ Scalar.toBool) s = id s := by
      intro s member
      have bool := List.all_eq_true.mp bools s member
      cases s with
      | bool b => rfl
      | int i => cases bool
      | real x => cases bool
    have spelled : items = (items.map Scalar.toBool).map .bool := by
      rw [List.map_map, List.map_congr_left kept, List.map_id]
    exact Or.inl ⟨_, spelled, (Except.ok.inj inferred).symm⟩
  · split at inferred
    · cases inferred
    · rename_i none
      have numbers : ∀ s ∈ items, isBool s = false := by simpa using none
      split at inferred
      · rename_i is integers
        exact Or.inr (Or.inl ⟨is, eq_of_mapM_integer integers,
          (narrowestInteger_eq_ok_iff is v).mp inferred⟩)
      · rename_i other
        have doubles : List.Forall₂ AsDouble items (items.map Scalar.toDouble) := by
          rw [List.forall₂_map_right_iff, List.forall₂_same]
          intro s member
          have number := numbers s member
          cases s with
          | bool b => cases number
          | int i => exact .integer i
          | real x => exact .real x
        exact Or.inr (Or.inr ⟨_, doubles, exists_real numbers other,
          (narrowestReal_eq_iff _ v).mp (Except.ok.inj inferred)⟩)

theorem classify_eq_ok_iff (item : Yaml) (s : Scalar) : classify item = .ok s ↔ item = s.literal := by
  constructor
  · intro done
    cases item with
    | bool b =>
        cases done
        rfl
    | integer i =>
        cases done
        rfl
    | real x =>
        cases done
        rfl
    | null => cases done
    | string text => cases done
    | sequence items => cases done
    | mapping entries => cases done
    | tagged tag value => cases done
  · rintro rfl
    cases s <;> rfl

theorem readAll_classify_iff (literals : List Yaml) (items : List Scalar) :
    readAll classify literals = .ok items ↔ literals = items.map Scalar.literal := by
  rw [readAll_eq_ok_iff, ← List.forall₂_eq_eq_eq, List.forall₂_map_right_iff]
  simp only [classify_eq_ok_iff]

theorem ofLiteral_filled {items : List Yaml} (filled : items ≠ []) :
    ofLiteral (.sequence items) = readAll classify items >>= inferScalars := by
  obtain ⟨item, rest, rfl⟩ := List.exists_cons_of_ne_nil filled
  rfl

theorem ofLiteral_sequence {items : List Scalar} (filled : items ≠ []) :
    ofLiteral (.sequence (items.map Scalar.literal)) = inferScalars items := by
  rw [ofLiteral_filled (by simpa using filled), (readAll_classify_iff _ items).mpr rfl]
  rfl

theorem ofLiteral_literal (s : Scalar) : ofLiteral s.literal = inferScalars [s] := by
  cases s <;> rfl

theorem infer_eq_ok_iff (subject : String) (literal : Yaml) (v : Value) :
    infer subject literal = .ok v ↔ ofLiteral literal = .ok v := by
  unfold infer
  cases ofLiteral literal with
  | error fault => simp [Except.mapError]
  | ok value => simp [Except.mapError]

def Refuses (subject : String) (literal : Yaml) : Prop :=
  ∃ reason, infer subject literal = .error (.invalidAssignment subject reason)

theorem refuses_of_error (subject : String) {literal : Yaml} {fault : LiteralFault}
    (refused : ofLiteral literal = .error fault) : Refuses subject literal :=
  ⟨fault.message, by rw [infer, refused]; rfl⟩

theorem exists_infer_or_refuses (subject : String) (literal : Yaml) :
    (∃ v, infer subject literal = .ok v) ∨ Refuses subject literal := by
  cases done : ofLiteral literal with
  | error fault => exact Or.inr (refuses_of_error subject done)
  | ok v => exact Or.inl ⟨v, (infer_eq_ok_iff subject literal v).mpr done⟩

theorem refuses_iff (subject : String) (literal : Yaml) :
    Refuses subject literal ↔ ¬∃ v, infer subject literal = .ok v := by
  constructor
  · rintro ⟨reason, refused⟩ ⟨v, done⟩
    rw [refused] at done
    cases done
  · exact (exists_infer_or_refuses subject literal).resolve_left

theorem infer_bools (subject : String) {bs : List Bool} (filled : bs ≠ []) :
    infer subject (.sequence (bs.map .bool)) = .ok (.array .bit bs) := by
  have literals : bs.map Yaml.bool = (bs.map Scalar.bool).map Scalar.literal := by
    rw [List.map_map]
    rfl
  rw [infer_eq_ok_iff, literals, ofLiteral_sequence (by simpa using filled), inferScalars_bools]

theorem infer_mixed (subject : String) {items : List Scalar} {b : Bool} {s : Scalar}
    (some_bool : .bool b ∈ items) (member : s ∈ items) (number : isBool s = false) :
    Refuses subject (.sequence (items.map Scalar.literal)) := by
  have refused : ofLiteral (.sequence (items.map Scalar.literal)) = .error .mixedBooleans := by
    rw [ofLiteral_sequence (List.ne_nil_of_mem member), inferScalars_mixed some_bool member number]
  exact refuses_of_error subject refused

theorem map_integer (is : List ℤ) : is.map Yaml.integer = (is.map Scalar.int).map Scalar.literal := by
  rw [List.map_map]
  rfl

theorem infer_integers (subject : String) {is : List ℤ} (filled : is ≠ []) (v : Value) :
    infer subject (.sequence (is.map .integer)) = .ok v ↔ NarrowestIntegers is v := by
  rw [infer_eq_ok_iff, map_integer, ofLiteral_sequence (by simpa using filled), inferScalars_integers filled,
    narrowestInteger_eq_ok_iff]

theorem infer_reals (subject : String) {items : List Scalar} {xs : List (Floating .double)}
    (doubles : List.Forall₂ AsDouble items xs) {x : Floating .double} (member : .real x ∈ items) (v : Value) :
    infer subject (.sequence (items.map Scalar.literal)) = .ok v ↔ NarrowestReals xs v := by
  rw [infer_eq_ok_iff, ofLiteral_sequence (List.ne_nil_of_mem member), inferScalars_reals doubles member,
    Except.ok.injEq, narrowestReal_eq_iff]

theorem infer_strange (subject : String) {items : List Yaml} {item : Yaml} (member : item ∈ items)
    (strange : ∀ s : Scalar, item ≠ s.literal) : Refuses subject (.sequence items) := by
  refine (exists_infer_or_refuses subject _).resolve_left ?_
  rintro ⟨v, done⟩
  rw [infer_eq_ok_iff, ofLiteral_filled (List.ne_nil_of_mem member)] at done
  obtain ⟨scalars, read, -⟩ := ok_of_bind done
  rw [(readAll_classify_iff items scalars).mp read] at member
  obtain ⟨s, -, own⟩ := List.mem_map.mp member
  exact strange s own.symm

/-- A literal without a named kind takes the narrowest kind that keeps its numbers, whoever asks. A scalar is
the sequence of that scalar. Booleans are bits and do not mix with numbers. Integers keep their values, and
have a kind unless one is negative and another needs all of 64 bits; no document holds integers beyond 64 bits,
which have none either. With a real among them, integers count as the nearest doubles and every sequence has a
kind. Nothing else stands in a sequence. -/
theorem infer_narrowest (subject : String) :
    (∀ s : Scalar, infer subject s.literal = infer subject (.sequence [s.literal])) ∧
    (∀ bs : List Bool, bs ≠ [] → infer subject (.sequence (bs.map .bool)) = .ok (.array .bit bs)) ∧
    (∀ (items : List Scalar) (b : Bool) (s : Scalar), .bool b ∈ items → s ∈ items → isBool s = false →
      Refuses subject (.sequence (items.map Scalar.literal))) ∧
    (∀ is : List ℤ, is ≠ [] →
      (∀ v, infer subject (.sequence (is.map .integer)) = .ok v ↔ NarrowestIntegers is v) ∧
      (Refuses subject (.sequence (is.map .integer)) ↔
        (∃ i ∈ is, i < -2 ^ 63 ∨ 2 ^ 64 ≤ i) ∨ (∃ i ∈ is, i < 0) ∧ ∃ i ∈ is, 2 ^ 63 - 1 < i)) ∧
    (∀ (items : List Scalar) (xs : List (Floating .double)), List.Forall₂ AsDouble items xs →
      (∃ x : Floating .double, .real x ∈ items) →
      (∀ v, infer subject (.sequence (items.map Scalar.literal)) = .ok v ↔ NarrowestReals xs v) ∧
      ∃ v, NarrowestReals xs v) ∧
    Refuses subject (.sequence []) ∧
    ∀ (items : List Yaml) (item : Yaml), item ∈ items → (∀ s : Scalar, item ≠ s.literal) →
      Refuses subject (.sequence items) := by
  refine ⟨fun s => ?scalar, fun bs filled => infer_bools subject filled,
    fun items b s some_bool member number => infer_mixed subject some_bool member number,
    fun is filled => ⟨infer_integers subject filled, ?failing⟩,
    fun items xs doubles ⟨x, member⟩ => ⟨infer_reals subject doubles member, ?kind⟩, ?empty,
    fun items item member strange => infer_strange subject member strange⟩
  case scalar =>
    have alone : ofLiteral (.sequence ([s].map Scalar.literal)) = inferScalars [s] :=
      ofLiteral_sequence (List.cons_ne_nil s [])
    rw [infer, infer, ofLiteral_literal, ← alone]
    rfl
  case failing =>
    have beyond : (¬∀ i ∈ is, -2 ^ 63 ≤ i ∧ i < 2 ^ 64) ↔ ∃ i ∈ is, i < -2 ^ 63 ∨ 2 ^ 64 ≤ i := by
      simp only [not_forall, not_and_or, not_le, not_lt, exists_prop]
    simp only [refuses_iff, infer_integers subject filled]
    rw [exists_narrowestIntegers_iff, not_and_or, not_not, beyond]
  case kind => exact ⟨_, (narrowestReal_eq_iff xs _).mp rfl⟩
  case empty => exact refuses_of_error subject rfl

end Assignment

end RegisterPlane
