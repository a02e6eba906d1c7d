import RegisterPlane.Proofs.Assignment.Words

namespace RegisterPlane

def Scalar.word : Scalar → List Char
  | bool true => "true".toList
  | bool false => "false".toList
  | int i => Text.integerDigits i
  | real x => x.plainText

namespace Assignment

open Text

theorem word_filled (s : Scalar) : s.word ≠ [] := by
  cases s with
  | bool b => cases b <;> exact List.cons_ne_nil _ _
  | int i => exact integerDigits_ne_nil i
  | real x => exact Floating.plainText_ne_nil x

theorem word_unbroken (s : Scalar) : Whole separatesElements s.word := by
  intro c member
  cases s with
  | bool b =>
      have letters : ∀ b, (Scalar.bool b).word.all (!separatesElements ·) = true := by decide
      simpa using List.all_eq_true.mp (letters b) c member
  | int i => exact not_separates_of_isPlain (isPlain_of_mem_integerDigits member)
  | real x => exact not_separates_of_isPlain (Floating.isPlain_of_mem_plainText member)

theorem itemWord_eq_ok_iff (kind : Kind) (item : Yaml) (word : List Char) :
    itemWord kind item = .ok word ↔ ∃ s : Scalar, item = s.literal ∧ word = s.word := by
  constructor
  · intro done
    cases item with
    | bool b =>
        cases done
        cases b <;> exact ⟨.bool _, rfl, rfl⟩
    | integer i =>
        cases done
        exact ⟨.int i, rfl, rfl⟩
    | real x =>
        cases done
        exact ⟨.real x, rfl, rfl⟩
    | null => cases done
    | string text => cases done
    | sequence items => cases done
    | mapping entries => cases done
    | tagged tag value => cases done
  · rintro ⟨s, rfl, rfl⟩
    cases s with
    | bool b => cases b <;> rfl
    | int i => rfl
    | real x => rfl

theorem readAll_itemWord_iff (kind : Kind) (literals : List Yaml) (words : List (List Char)) :
    readAll (itemWord kind) literals = .ok words ↔
      ∃ items : List Scalar, literals = items.map Scalar.literal ∧ words = items.map Scalar.word := by
  rw [readAll_eq_ok_iff]
  simp only [itemWord_eq_ok_iff]
  constructor
  · intro spelled
    induction spelled with
    | nil => exact ⟨[], rfl, rfl⟩
    | cons first later ih =>
        obtain ⟨s, rfl, rfl⟩ := first
        obtain ⟨items, rfl, rfl⟩ := ih
        exact ⟨s :: items, rfl, rfl⟩
  · rintro ⟨items, rfl, rfl⟩
    rw [List.forall₂_map_left_iff, List.forall₂_map_right_iff, List.forall₂_same]
    exact fun s _ => ⟨s, rfl, rfl⟩

theorem tokens_scalars (items : List Scalar) :
    tokens separatesElements (joinWords (items.map Scalar.word)) = items.map Scalar.word := by
  apply tokens_intercalate (by decide)
  · intro word member
    obtain ⟨s, -, rfl⟩ := List.mem_map.mp member
    exact word_unbroken s
  · intro word member
    obtain ⟨s, -, rfl⟩ := List.mem_map.mp member
    exact word_filled s

theorem typedLiteral_sequence_iff (k : ArrayKind) {items : List Scalar} (filled : items ≠ []) (v : Value) :
    typedLiteral (.array k) (.sequence (items.map Scalar.literal)) = .ok v ↔
      ∃ elements : List k.Element, v = .array k elements ∧
        List.Forall₂ (fun s x => readElement k s.word = .ok x) items elements := by
  have some_word : items.map Scalar.word ≠ [] := by simpa using filled
  have read : typedLiteral (.array k) (.sequence (items.map Scalar.literal)) =
      (decodeText (.array k) (String.ofList (joinWords (items.map Scalar.word)))).mapError .text := by
    simp only [typedLiteral]
    rw [(readAll_itemWord_iff _ _ _).mpr ⟨items, rfl, rfl⟩]
    rfl
  have each : ∀ elements, List.Forall₂ (fun word x => readElement k word = .ok x) (items.map Scalar.word)
      elements ↔ List.Forall₂ (fun s x => readElement k s.word = .ok x) items elements := by
    intro elements
    exact List.forall₂_map_left_iff
  have decodes := decodeText_array_eq_ok_iff k (String.ofList (joinWords (items.map Scalar.word))) v
  simp only [String.toList_ofList, tokens_scalars, each] at decodes
  rw [read]
  constructor
  · intro typed
    exact (decodes.mp (ok_of_mapError typed)).2
  · intro spelled
    rw [decodes.mpr ⟨some_word, spelled⟩]
    rfl

theorem typedLiteral_literal (kind : Kind) (s : Scalar) :
    typedLiteral kind s.literal = typedLiteral kind (.sequence [s.literal]) := by
  cases kind <;> cases s <;> rfl

theorem ofToken_token (kind : Kind) : Kind.ofToken? kind.token = some kind := by
  have table : ∀ k ∈ Kind.all, Kind.ofToken? k.token = some k := by decide
  exact table kind (mem_all kind)

theorem ofLiteral_named {token : String} {kind : Kind} (named : Kind.ofToken? token = some kind)
    (literal : Yaml) : ofLiteral (.mapping [(.string token, literal)]) = typedLiteral kind literal := by
  simp only [ofLiteral]
  rw [named]

theorem readElement_bool (b : Bool) : readElement .bit (Scalar.bool b).word = .ok b := by
  cases b <;> rfl

theorem readElement_integer {k : ArrayKind} {w : Width} (integers : k.OfIntegers w) {i : ℤ}
    (holds : k.Holds i) : readElement k (Scalar.int i).word = .ok (k.ofScalar (.int i)) := by
  cases integers with
  | integer =>
      have most : i ≤ ((w.half - 1 : ℕ) : ℤ) := by
        have less := holds.2
        omega
      change (readInteger true w.half (w.half - 1) (integerDigits i)).map (BitVec.ofInt w.bits) = _
      rw [readInteger_integerDigits holds.1 most]
      rfl
  | natural =>
      obtain ⟨n, rfl⟩ := Int.eq_ofNat_of_zero_le holds.1
      have most : n ≤ w.capacity - 1 := by
        have less := holds.2
        omega
      change (readInteger false 0 (w.capacity - 1) (integerDigits n)).map (BitVec.ofInt w.bits) = _
      rw [integerDigits_natCast, readInteger_digits most]
      rfl

theorem read_word {s : Scalar} {x : Floating .double} (double : AsDouble s x) :
    Floating.read? .double s.word = some x := by
  cases double with
  | integer i => exact Floating.read_integerDigits .double i
  | real x => exact Floating.read_plainText x

/-- The scalar is no integer beyond those that doubles hold without gaps. -/
def Moderate (s : Scalar) : Prop := ∀ i, s = .int i → i.natAbs ≤ 2 ^ 53

theorem read_word_single {s : Scalar} {x : Floating .double} (double : AsDouble s x) (moderate : Moderate s)
    (kept : KeepsDigits x) : Floating.read? .single s.word = some (x.convert .single) := by
  cases double with
  | integer i =>
      -- Rounded to a double the integer is unchanged, so that it is rounded to a single only once.
      have few : i.natAbs ≤ 2 * Precision.double.binadeSize := moderate i rfl
      rw [Floating.convert_once (by decide), Floating.nearest_ofInt few]
      exact Floating.read_integerDigits .single i
  | real x =>
      -- The text is that of the single, which is read back as itself.
      change Floating.read? .single x.plainText = _
      rw [← kept.2, Floating.read_plainText]

theorem forall₂_readElement_bools (bs : List Bool) :
    List.Forall₂ (fun (s : Scalar) (b : Bool) => readElement .bit s.word = .ok b) (bs.map .bool) bs := by
  rw [List.forall₂_map_left_iff, List.forall₂_same]
  exact fun b _ => readElement_bool b

theorem NarrowestOf.forall₂_readElement {sort : Width → ArrayKind} (integers : ∀ w, (sort w).OfIntegers w)
    {is : List ℤ} {w : Width} {elements : List (sort w).Element}
    (narrowest : NarrowestOf sort is w elements) :
    List.Forall₂ (fun s x => readElement (sort w) s.word = .ok x) (is.map Scalar.int) elements := by
  obtain ⟨holds, spelled⟩ := ((integers w).map_toScalar_eq_iff elements is).mp narrowest.same
  rw [spelled, List.forall₂_map_left_iff, List.forall₂_map_right_iff, List.forall₂_same]
  exact fun i member => readElement_integer (integers w) (holds i member)

theorem NarrowestReals.forall₂_readElement {items : List Scalar} {xs : List (Floating .double)} {v : Value}
    (narrowest : NarrowestReals xs v) (doubles : List.Forall₂ AsDouble items xs)
    (moderate : ∀ s ∈ items, Moderate s) :
    ∃ (p : Precision) (elements : List (Floating p)), v = .array (.real p) elements ∧
      List.Forall₂ (fun s x => readElement (.real p) s.word = .ok x) items elements := by
  cases narrowest with
  | half halves same =>
      rw [(forall₂_matches_iff halves).mp same]
      refine ⟨.half, _, rfl, List.forall₂_map_right_iff.mpr (doubles.imp ?_)⟩
      intro s x double
      change (readReal .double s.word).map (Floating.convert .half) = _
      rw [readReal, read_word double]
      rfl
  | single _ kept same =>
      rw [(forall₂_plainText_iff kept).mp same]
      refine ⟨.single, _, rfl, List.forall₂_map_right_iff.mpr (forall₂_imp_of_mem doubles ?_)⟩
      intro s member x member' double
      change readReal .single s.word = _
      rw [readReal, read_word_single double (moderate s member) (kept x member')]
      rfl
  | double =>
      refine ⟨.double, xs, rfl, doubles.imp ?_⟩
      intro s x double
      change readReal .double s.word = _
      rw [readReal, read_word double]
      rfl

theorem typedLiteral_of_inferScalars {items : List Scalar} {v : Value} (filled : items ≠ [])
    (moderate : (∃ x, .real x ∈ items) → ∀ s ∈ items, Moderate s) (inferred : inferScalars items = .ok v) :
    typedLiteral v.kind (.sequence (items.map Scalar.literal)) = .ok v := by
  rcases inferScalars_cases inferred with ⟨bs, rfl, rfl⟩ | ⟨is, rfl, narrowest⟩ | ⟨xs, doubles, real, narrowest⟩
  · exact (typedLiteral_sequence_iff .bit filled _).mpr ⟨bs, rfl, forall₂_readElement_bools bs⟩
  · cases narrowest with
    | @natural w elements _ narrowest =>
        exact (typedLiteral_sequence_iff (.natural w) filled _).mpr
          ⟨elements, rfl, narrowest.forall₂_readElement .natural⟩
    | @integer w elements _ narrowest =>
        exact (typedLiteral_sequence_iff (.integer w) filled _).mpr
          ⟨elements, rfl, narrowest.forall₂_readElement .integer⟩
  · obtain ⟨p, elements, rfl, read⟩ := narrowest.forall₂_readElement doubles (moderate real)
    exact (typedLiteral_sequence_iff (.real p) filled _).mpr ⟨elements, rfl, read⟩

theorem ofLiteral_cases {literal : Yaml} {v : Value} (unmapped : ∀ entries, literal ≠ .mapping entries)
    (inferred : ofLiteral literal = .ok v) :
    (∃ text, literal = .string text ∧ v = .string text) ∨
      (∃ s : Scalar, literal = s.literal ∧ inferScalars [s] = .ok v) ∨
        ∃ items : List Scalar, items ≠ [] ∧ literal = .sequence (items.map Scalar.literal) ∧
          inferScalars items = .ok v := by
  have scalar : ∀ s : Scalar, literal = s.literal → ∃ s : Scalar, literal = s.literal ∧
      inferScalars [s] = .ok v := by
    rintro s rfl
    exact ⟨s, rfl, (ofLiteral_literal s).symm.trans inferred⟩
  cases literal with
  | bool b => exact Or.inr (Or.inl (scalar (.bool b) rfl))
  | integer i => exact Or.inr (Or.inl (scalar (.int i) rfl))
  | real x => exact Or.inr (Or.inl (scalar (.real x) rfl))
  | null => cases inferred
  | string text =>
      cases inferred
      exact Or.inl ⟨text, rfl, rfl⟩
  | mapping entries => exact absurd rfl (unmapped entries)
  | tagged tag value => cases inferred
  | sequence literals =>
      by_cases empty : literals = []
      · rw [empty] at inferred
        cases inferred
      · rw [ofLiteral_filled empty] at inferred
        obtain ⟨items, read, inferred⟩ := ok_of_bind inferred
        rw [readAll_classify_iff] at read
        rw [read] at empty ⊢
        exact Or.inr (Or.inr ⟨items, by simpa using empty, rfl, inferred⟩)

/-- A literal that has a value has the same value where its kind is named. Integers beside reals are taken as
doubles without a name and read at the precision with one, which may differ for those that no double is. -/
theorem infer_named (subject : String) {literal : Yaml} {v : Value}
    (unmapped : ∀ entries, literal ≠ .mapping entries)
    (moderate : ∀ items, literal = .sequence items → (∃ x, .real x ∈ items) →
      ∀ i, .integer i ∈ items → i.natAbs ≤ 2 ^ 53)
    (inferred : infer subject literal = .ok v) :
    infer subject (.mapping [(.string v.kind.token, literal)]) = .ok v := by
  rw [infer_eq_ok_iff] at inferred ⊢
  rw [ofLiteral_named (ofToken_token v.kind)]
  rcases ofLiteral_cases unmapped inferred with
    ⟨text, rfl, rfl⟩ | ⟨s, rfl, alone⟩ | ⟨items, filled, rfl, together⟩
  · rfl
  · rw [typedLiteral_literal]
    apply typedLiteral_of_inferScalars (List.cons_ne_nil s []) _ alone
    rintro ⟨x, real⟩ s member i rfl
    cases List.mem_singleton.mp member
    cases List.mem_singleton.mp real
  · apply typedLiteral_of_inferScalars filled _ together
    rintro ⟨x, real⟩ s member i rfl
    apply moderate _ rfl ⟨x, List.mem_map_of_mem (f := Scalar.literal) real⟩
    exact List.mem_map_of_mem (f := Scalar.literal) member

def levelLiteral : Yaml :=
  .sequence [.real (.ofRatio .double true 1 2), .integer 3, .real (.zero .double true)]

def level : Value :=
  .array (.real .half) [Floating.ofRatio .half true 1 2, Floating.ofInt .half 3, Floating.zero .half true]

theorem infer_named_level :
    (∀ entries, levelLiteral ≠ .mapping entries) ∧
      (∀ items, levelLiteral = .sequence items → (∃ x, .real x ∈ items) →
        ∀ i, .integer i ∈ items → i.natAbs ≤ 2 ^ 53) ∧
      infer "tank.level" levelLiteral = .ok level ∧
      infer "tank.level" (.mapping [(.string "real16", levelLiteral)]) = .ok level := by
  have unmapped : ∀ entries, levelLiteral ≠ .mapping entries := by
    intro entries same
    cases same
  have moderate : ∀ items, levelLiteral = .sequence items → (∃ x, .real x ∈ items) →
      ∀ i, .integer i ∈ items → i.natAbs ≤ 2 ^ 53 := by
    rintro items same - i member
    cases same
    simp only [List.mem_cons, List.not_mem_nil, or_false, reduceCtorEq, false_or, Yaml.integer.injEq] at member
    rw [member]
    decide
  have inferred : infer "tank.level" levelLiteral = .ok level := by decide +kernel
  have token : level.kind.token = "real16" := rfl
  have named := infer_named "tank.level" unmapped moderate inferred
  rw [token] at named
  exact ⟨unmapped, moderate, inferred, named⟩

end Assignment

end RegisterPlane
