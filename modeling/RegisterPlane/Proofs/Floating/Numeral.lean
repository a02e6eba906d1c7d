import RegisterPlane.Floating.Numeral
import RegisterPlane.Proofs.Floating.Decimal

namespace RegisterPlane

namespace Decimal

/-- Digits, perhaps with a point among them, that denote a decimal. -/
structure Spells (text whole fraction : List Char) (d : Decimal) : Prop where
  filled : whole ≠ []
  decimal : ∀ c ∈ whole ++ fraction, Text.isDigit c = true
  text : text = whole ∧ fraction = [] ∨ text = whole ++ '.' :: fraction
  same : Equal ⟨Text.ofDigits (whole ++ fraction), 0 - (fraction.length : Int)⟩ d

theorem isDigit_of_mem_zeros {n : Nat} {c : Char} (member : c ∈ List.replicate n '0') : Text.isDigit c = true := by
  rw [List.eq_of_mem_replicate member]
  decide

theorem spells_whole {d : Decimal} (large : 0 ≤ d.exponent) :
    Spells (Text.digits d.digits ++ List.replicate d.exponent.toNat '0')
      (Text.digits d.digits ++ List.replicate d.exponent.toNat '0') [] d where
  filled := List.append_ne_nil_of_left_ne_nil (Text.digits_ne_nil d.digits) _
  decimal := by
    intro c member
    rw [List.append_nil, List.mem_append] at member
    rcases member with front | back
    · exact Text.isDigit_of_mem_digits front
    · exact isDigit_of_mem_zeros back
  text := Or.inl ⟨rfl, rfl⟩
  same := by
    have none : (-d.exponent).toNat = 0 := by omega
    rw [List.append_nil, Text.ofDigits_append, Text.ofDigits_zeros, Text.ofDigits_digits,
      List.length_replicate, Equal, numerator_eq, numerator_eq, denominator_eq, denominator_eq, none]
    simp

theorem equal_of_digits {ds : List Char} {places : Nat} {d : Decimal} (digits : Text.ofDigits ds = d.digits)
    (point : 0 - (places : Int) = d.exponent) : Equal ⟨Text.ofDigits ds, 0 - (places : Int)⟩ d := by
  rw [digits, point]
  rfl

theorem spells_inner {d : Decimal} {point : Nat} (small : d.exponent < 0) (inner : 0 < point)
    (place : (point : Int) = d.exponent + (Text.digits d.digits).length) :
    Spells ((Text.digits d.digits).take point ++ '.' :: (Text.digits d.digits).drop point)
      ((Text.digits d.digits).take point) ((Text.digits d.digits).drop point) d where
  filled := by
    intro empty
    rcases List.take_eq_nil_iff.mp empty with none | none
    · omega
    · exact Text.digits_ne_nil d.digits none
  decimal := by
    rw [List.take_append_drop]
    exact fun c member => Text.isDigit_of_mem_digits member
  text := Or.inr rfl
  same := by
    apply equal_of_digits
    · rw [List.take_append_drop, Text.ofDigits_digits]
    · rw [List.length_drop]
      omega

theorem spells_fraction {d : Decimal} {zeros : Nat}
    (place : (zeros : Int) = -(d.exponent + (Text.digits d.digits).length)) :
    Spells ('0' :: '.' :: (List.replicate zeros '0' ++ Text.digits d.digits)) ['0']
      (List.replicate zeros '0' ++ Text.digits d.digits) d where
  filled := List.cons_ne_nil _ _
  decimal := by
    intro c member
    rcases List.mem_append.mp member with front | back
    · exact isDigit_of_mem_zeros (n := 1) front
    · rcases List.mem_append.mp back with zeros | rest
      · exact isDigit_of_mem_zeros zeros
      · exact Text.isDigit_of_mem_digits rest
  text := Or.inr rfl
  same := by
    apply equal_of_digits
    · rw [Text.ofDigits_append, Text.ofDigits_append, Text.ofDigits_zeros, Text.ofDigits_digits]
      simp [Text.ofDigits, Text.digitValue]
    · rw [List.length_append, List.length_replicate]
      omega

theorem spells_positional (d : Decimal) : ∃ whole fraction, Spells d.positional whole fraction d := by
  simp only [positional]
  split
  · rename_i large
    exact ⟨_, _, spells_whole large⟩
  · rename_i small
    split
    · rename_i inner
      exact ⟨_, _, spells_inner (by omega) (by omega) (by omega)⟩
    · rename_i before
      exact ⟨_, _, spells_fraction (by omega)⟩

end Decimal

namespace Numeral

theorem readMagnitude_positional (negative : Bool) (d : Decimal) :
    ∃ n, readMagnitude? negative d.positional = some n ∧ n.negative = negative ∧ n.decimal.Equal d := by
  obtain ⟨whole, fraction, filled, decimal, text, same⟩ := d.spells_positional
  refine ⟨⟨negative, whole, fraction, 0⟩, ?_, rfl, same⟩
  rcases text with ⟨text, none⟩ | text
  · have whole_digits := Text.cut_digits_end fun c member => decimal c (List.mem_append_left _ member)
    rw [text, readMagnitude?]
    simp [whole_digits.1, whole_digits.2, filled, none]
  · have point : Text.isDigit '.' = false := by decide
    have whole_digits := Text.cut_digits_before
      (fun c member => decimal c (List.mem_append_left _ member)) point fraction
    have fraction_digits := Text.cut_digits_end fun c member => decimal c (List.mem_append_right _ member)
    rw [text, readMagnitude?]
    simp [whole_digits.1, whole_digits.2, fraction_digits.1, fraction_digits.2, filled]

end Numeral

namespace Decimal

theorem positional_chars (d : Decimal) :
    (∃ c rest, d.positional = c :: rest ∧ Text.isDigit c = true) ∧
      ∀ c ∈ d.positional, Text.isDigit c = true ∨ c = '.' := by
  obtain ⟨whole, fraction, filled, decimal, text, -⟩ := d.spells_positional
  obtain ⟨c, rest, rfl⟩ := List.exists_cons_of_ne_nil filled
  have first : Text.isDigit c = true := decimal c (by simp)
  rcases text with ⟨text, -⟩ | text
  · refine ⟨⟨c, rest, text, first⟩, fun c' member => Or.inl (decimal c' ?_)⟩
    rw [text] at member
    exact List.mem_append_left _ member
  · refine ⟨⟨c, rest ++ '.' :: fraction, text, first⟩, fun c' member => ?_⟩
    rw [text] at member
    rcases List.mem_append.mp member with front | behind
    · exact Or.inl (decimal c' (List.mem_append_left _ front))
    · rcases List.mem_cons.mp behind with point | back
      · exact Or.inr point
      · exact Or.inl (decimal c' (List.mem_append_right _ back))

theorem positional_whole {d : Decimal} (canonical : d.digits = 0 → d.exponent = 0)
    (whole : 0 ≤ d.exponent) : d.positional = Text.digits d.numerator := by
  simp only [positional]
  rw [if_pos whole, numerator_eq]
  rcases Nat.eq_zero_or_pos d.digits with zero | positive
  · simp [zero, canonical zero]
  · rw [Text.digits_mul_pow positive]

theorem point_mem_positional {d : Decimal} (fraction : d.exponent < 0) : '.' ∈ d.positional := by
  simp only [positional]
  rw [if_neg (by omega)]
  split
  · exact List.mem_append_right _ List.mem_cons_self
  · exact List.mem_cons_of_mem _ List.mem_cons_self

end Decimal

namespace Floating

variable {p : Precision}

theorem toLower_of_isDigit {c : Char} (decimal : Text.isDigit c = true) : c.toLower = c := by
  rw [Text.isDigit_iff] at decimal
  unfold Char.toLower
  rw [dif_neg]
  intro upper
  have above : 65 ≤ c.toNat := upper.1
  omega

theorem readUnsigned_of_digit (p : Precision) (negative : Bool) {c : Char} {cs : List Char}
    (decimal : Text.isDigit c = true) :
    readUnsigned? p negative (c :: cs) =
      (Numeral.readMagnitude? negative (c :: cs)).map (Numeral.toFloating p) := by
  have other : ∀ (d : Char) (ds : List Char), Text.isDigit d = false →
      String.ofList ((c :: cs).map Char.toLower) ≠ String.ofList (d :: ds) := by
    intro d ds letter same
    have heads := String.ofList_injective same
    rw [List.map_cons, toLower_of_isDigit decimal] at heads
    rw [(List.cons.inj heads).1, letter] at decimal
    cases decimal
  unfold readUnsigned?
  split
  · rename_i same
    exact absurd same (other 'n' ['a', 'n'] (by decide))
  · rename_i same
    exact absurd same (other 'i' ['n', 'f'] (by decide))
  · rename_i same
    exact absurd same (other 'i' ['n', 'f', 'i', 'n', 'i', 't', 'y'] (by decide))
  · rfl

theorem read_unsigned (p : Precision) {c : Char} {cs : List Char} (decimal : Text.isDigit c = true) :
    read? p (c :: cs) = readUnsigned? p false (c :: cs) := by
  unfold read?
  split
  · rename_i same
    rw [(List.cons.inj same).1] at decimal
    exact absurd decimal (by decide)
  · rename_i same
    rw [(List.cons.inj same).1] at decimal
    exact absurd decimal (by decide)
  · rfl

theorem read_positional (p : Precision) (negative : Bool) (d : Decimal) :
    read? p (signText negative ++ d.positional) = some (d.toFloating p negative) := by
  obtain ⟨⟨c, rest, text, decimal⟩, -⟩ := d.positional_chars
  obtain ⟨n, numeral, sign, same⟩ := Numeral.readMagnitude_positional negative d
  have unsigned : readUnsigned? p negative d.positional = some (d.toFloating p negative) := by
    rw [text, readUnsigned_of_digit p negative decimal, ← text, numeral, Option.map_some,
      Numeral.toFloating, sign, Decimal.toFloating_equal p negative same]
  cases negative with
  | true => exact unsigned
  | false =>
      rw [signText, if_neg (by decide), List.nil_append, text, read_unsigned p decimal, ← text, unsigned]

theorem read_plainText (x : Floating p) : read? p x.plainText = some x := by
  cases x with
  | nan => rfl
  | infinite negative => cases negative <;> rfl
  | finite negative place =>
      rw [plainText, read_positional, toFloating_shortest]

theorem read_integerDigits (p : Precision) (i : Int) : read? p (Text.integerDigits i) = some (ofInt p i) := by
  have signed : Text.integerDigits i =
      signText (decide (i < 0)) ++ (⟨i.natAbs, 0⟩ : Decimal).positional := by
    have plain : (⟨i.natAbs, 0⟩ : Decimal).positional = Text.digits i.natAbs := by
      simp [Decimal.positional]
    rw [plain, Text.integerDigits, signText]
    by_cases negative : i < 0 <;> simp [negative]
  rw [signed, read_positional, Decimal.toFloating_eq, ofInt]
  congr 1
  apply ofRatio_congr _ (Decimal.denominator_pos _) Nat.one_pos
  simp [Decimal.numerator_eq, Decimal.denominator_eq]

theorem plainText_injective {x y : Floating p} (same : x.plainText = y.plainText) : x = y := by
  have read := read_plainText x
  rw [same, read_plainText] at read
  exact (Option.some.inj read).symm

/-- The plain text of a widened number is read, by way of a still finer precision, as the number. -/
theorem read_plainText_widened {r q : Precision} (coarse : Precision.Finer p r)
    (fine : Precision.Finer r q) (x : Floating p) :
    (read? q (x.convert r).plainText).map (convert p) = some x := by
  cases x with
  | nan =>
      rw [convert_nan]
      exact congrArg some convert_nan
  | infinite negative =>
      rw [convert_infinite]
      cases negative <;> exact congrArg some (convert_infinite _)
  | finite negative place =>
      obtain ⟨wide, widened, here⟩ := convert_finer coarse negative place
      rw [widened, plainText, read_positional, Option.map_some,
        convert_toFloating_shortest coarse fine .up negative here]

theorem plainText_cases (x : Floating p) :
    (∃ negative m, x.plainText = signText negative ++ Text.digits m) ∨
      ∃ c ∈ x.plainText, c ∈ ['N', 'i', '.'] := by
  cases x with
  | nan => exact Or.inr ⟨'N', List.mem_cons_self, by decide⟩
  | infinite negative =>
      exact Or.inr ⟨'i', List.mem_append_right _ List.mem_cons_self, by decide⟩
  | finite negative place =>
      by_cases whole : 0 ≤ (p.shortest .up place.val).exponent
      · left
        refine ⟨negative, (p.shortest .up place.val).numerator, ?_⟩
        rw [plainText, Decimal.positional_whole Precision.exponent_shortest whole]
      · right
        exact ⟨'.', List.mem_append_right _ (Decimal.point_mem_positional (not_le.mp whole)), by decide⟩

theorem plainText_negativeZero : (zero p true).plainText = ['-', '0'] := by
  cases p <;> decide +kernel

def isPlain (c : Char) : Bool := Text.isDigit c || c ∈ "-.NaNinf".toList

theorem isPlain_of_mem_plainText {x : Floating p} {c : Char} (member : c ∈ x.plainText) :
    isPlain c = true := by
  have sign : ∀ negative, c ∈ signText negative → isPlain c = true := by
    intro negative member
    cases negative with
    | true =>
        rw [signText, if_pos rfl, List.mem_singleton] at member
        rw [member]
        decide
    | false => cases member
  cases x with
  | nan =>
      have letters : ∀ c ∈ "NaN".toList, isPlain c = true := List.all_eq_true.mp (by decide)
      exact letters c member
  | infinite negative =>
      have letters : ∀ c ∈ "inf".toList, isPlain c = true := List.all_eq_true.mp (by decide)
      rcases List.mem_append.mp member with front | back
      · exact sign negative front
      · exact letters c back
  | finite negative place =>
      rcases List.mem_append.mp member with front | back
      · exact sign negative front
      · unfold isPlain
        rcases (Decimal.positional_chars _).2 c back with decimal | point
        · rw [decimal, Bool.true_or]
        · rw [point]
          decide

theorem plainText_ne_nil (x : Floating p) : x.plainText ≠ [] := by
  cases x with
  | nan => exact List.cons_ne_nil _ _
  | infinite negative => exact List.append_ne_nil_of_right_ne_nil _ (List.cons_ne_nil _ _)
  | finite negative place =>
      obtain ⟨⟨c, rest, text, -⟩, -⟩ := (p.shortest .up place.val).positional_chars
      rw [plainText, text]
      exact List.append_ne_nil_of_right_ne_nil _ (List.cons_ne_nil c rest)

end Floating

end RegisterPlane
