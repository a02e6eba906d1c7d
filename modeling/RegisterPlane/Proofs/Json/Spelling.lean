import RegisterPlane.Json.Number
import RegisterPlane.Json.Writer
import RegisterPlane.Proofs.Floating.Numeral

namespace RegisterPlane.Json

open Text

/-- A row of digits without a zero before others. -/
def IsWhole (whole : List Char) : Prop :=
  whole ≠ [] ∧ (∀ c ∈ whole, isDigit c = true) ∧ (whole.head? = some '0' → whole.length = 1)

theorem isWhole_digits (n : Nat) : IsWhole (digits n) := by
  refine ⟨digits_ne_nil n, fun c member => isDigit_of_mem_digits member, fun zero => ?_⟩
  rcases Nat.eq_zero_or_pos n with rfl | positive
  · rw [digits_of_lt (by decide)]
    rfl
  · exact absurd zero (head_digits positive)

theorem readExponent_digits (negative : Bool) (n : Nat) :
    Numeral.readExponent? ((if negative then '-' else '+') :: digits n) =
      some (if negative then -(n : Int) else n) := by
  have read : Numeral.readExponent?.digitsOnly? (digits n) = some n := by
    have decimal : (digits n).all isDigit = true :=
      List.all_eq_true.mpr fun c member => isDigit_of_mem_digits member
    unfold Numeral.readExponent?.digitsOnly?
    rw [if_pos ⟨digits_ne_nil n, decimal⟩, ofDigits_digits]
  cases negative with
  | true =>
      change (Numeral.readExponent?.digitsOnly? (digits n)).map (fun n => -(n : Int)) = _
      rw [read]
      rfl
  | false =>
      change (Numeral.readExponent?.digitsOnly? (digits n)).map Int.ofNat = _
      rw [read]
      rfl

structure IsNumeral (n : Numeral) : Prop where
  whole : IsWhole n.whole
  fraction : ∀ c ∈ n.fraction, isDigit c = true
  marked : n.fraction ≠ [] ∨ n.exponent ≠ 0

def exponentText (exponent : Int) : List Char :=
  if exponent = 0 then []
  else if exponent < 0 then 'e' :: '-' :: digits exponent.natAbs
  else 'e' :: '+' :: digits exponent.natAbs

theorem exponentText_cases (exponent : Int) :
    (exponent = 0 ∧ exponentText exponent = []) ∨
      ∃ power, exponentText exponent = 'e' :: power ∧ Numeral.readExponent? power = some exponent := by
  unfold exponentText
  by_cases none : exponent = 0
  · exact Or.inl ⟨none, if_pos none⟩
  · right
    rw [if_neg none]
    by_cases negative : exponent < 0
    · refine ⟨_, if_pos negative, ?_⟩
      have read := readExponent_digits true exponent.natAbs
      rw [if_pos rfl, if_pos rfl] at read
      rw [read]
      congr 1
      omega
    · refine ⟨_, if_neg negative, ?_⟩
      have read := readExponent_digits false exponent.natAbs
      rw [if_neg Bool.false_ne_true, if_neg Bool.false_ne_true] at read
      rw [read]
      congr 1
      omega

theorem unsignedNumber_integer (negative : Bool) {whole : List Char} (isWhole : IsWhole whole) :
    unsignedNumber? negative whole = some (.integer negative whole) := by
  obtain ⟨filled, decimal, zero⟩ := isWhole
  have cut := cut_digits_end decimal
  have proper : ¬(whole = [] ∨ whole.head? = some '0' ∧ whole.length ≠ 1) := by
    rintro (none | ⟨first, several⟩)
    · exact filled none
    · exact several (zero first)
  unfold unsignedNumber?
  rw [cut.1, cut.2, if_neg proper]

theorem unsignedNumber_numeral {n : Numeral} (isNumeral : IsNumeral n) :
    unsignedNumber? n.negative (n.whole ++ (if n.fraction = [] then [] else '.' :: n.fraction) ++
      exponentText n.exponent) = some (.decimal n) := by
  obtain ⟨negative, whole, fraction, exponent⟩ := n
  obtain ⟨⟨filled, decimal, zero⟩, digits, marked⟩ := isNumeral
  have proper : ¬(whole = [] ∨ whole.head? = some '0' ∧ whole.length ≠ 1) := by
    rintro (none | ⟨first, several⟩)
    · exact filled none
    · exact several (zero first)
  have mark : isDigit 'e' = false := by decide
  have point : isDigit '.' = false := by decide
  dsimp only at *
  unfold unsignedNumber?
  by_cases bare : fraction = []
  · rcases exponentText_cases exponent with ⟨none, -⟩ | ⟨power, text, read⟩
    · exact absurd none (marked.resolve_left (not_not.mpr bare))
    · have cut := cut_digits_before decimal mark power
      rw [if_pos bare, List.append_nil, text, cut.1, cut.2, if_neg proper]
      simp [unsignedNumber?.exponent?, read, bare]
  · have cut := cut_digits_before decimal point (fraction ++ exponentText exponent)
    rw [if_neg bare, List.append_assoc, List.cons_append, cut.1, cut.2, if_neg proper]
    rcases exponentText_cases exponent with ⟨none, text⟩ | ⟨power, text, read⟩
    · have rest := cut_digits_end digits
      rw [text, none]
      simp [rest.1, rest.2, bare]
    · have rest := cut_digits_before digits mark power
      rw [text]
      simp [rest.1, rest.2, bare, unsignedNumber?.exponent?, read]

/-- A number whose text is a single word, read as the number itself. -/
structure Number.IsSpelled (n : Number) : Prop where
  reads : wordToken? n.text = some (.number n)
  filled : n.text ≠ []
  chars : ∀ c ∈ n.text, isWordChar c = true

theorem wordToken_signed {negative : Bool} {c : Char} {cs : List Char} {n : Number}
    (decimal : isDigit c = true) (read : unsignedNumber? negative (c :: cs) = some n) :
    wordToken? (Floating.signText negative ++ c :: cs) = some (.number n) := by
  have notName : ∀ {d : Char} {ds : List Char}, isDigit d = false → d ≠ '-' →
      Floating.signText negative ++ c :: cs ≠ d :: ds := by
    intro d ds letter other same
    cases negative with
    | true => exact other (List.cons.inj same).1.symm
    | false =>
        have first := (List.cons.inj same).1
        rw [first, letter] at decimal
        cases decimal
  have notTrue : Floating.signText negative ++ c :: cs ≠ "true".toList :=
    @notName 't' ['r', 'u', 'e'] (by decide) (by decide)
  have notFalse : Floating.signText negative ++ c :: cs ≠ "false".toList :=
    @notName 'f' ['a', 'l', 's', 'e'] (by decide) (by decide)
  have notNull : Floating.signText negative ++ c :: cs ≠ "null".toList :=
    @notName 'n' ['u', 'l', 'l'] (by decide) (by decide)
  unfold wordToken?
  rw [if_neg notTrue, if_neg notFalse, if_neg notNull]
  cases negative with
  | true =>
      change (unsignedNumber? true (c :: cs)).map Token.number = _
      rw [read]
      rfl
  | false =>
      have unsigned : c ≠ '-' := by
        rintro rfl
        exact absurd decimal (by decide)
      split
      · rename_i same
        exact absurd (List.cons.inj same).1 unsigned
      · change (unsignedNumber? false (c :: cs)).map Token.number = _
        rw [read]
        rfl

theorem isWordChar_of_isDigit {c : Char} (decimal : isDigit c = true) : isWordChar c = true := by
  unfold isWordChar
  simp [decimal]

theorem isWordChar_of_sign {negative : Bool} {c : Char} (member : c ∈ Floating.signText negative) :
    isWordChar c = true := by
  cases negative with
  | true =>
      rw [List.mem_singleton.mp member]
      decide
  | false => cases member

theorem isWordChar_of_exponent {exponent : Int} {c : Char} (member : c ∈ exponentText exponent) :
    isWordChar c = true := by
  have marked : ∀ {sign : Char}, isWordChar sign = true → c ∈ 'e' :: sign :: digits exponent.natAbs →
      isWordChar c = true := by
    intro sign allowed member
    rcases List.mem_cons.mp member with mark | behind
    · rw [mark]
      decide
    · rcases List.mem_cons.mp behind with signed | power
      · rw [signed, allowed]
      · exact isWordChar_of_isDigit (isDigit_of_mem_digits power)
  unfold exponentText at member
  split at member
  · cases member
  · split at member
    · exact marked (by decide) member
    · exact marked (by decide) member

theorem isSpelled_integer (negative : Bool) (n : Nat) : (Number.integer negative (digits n)).IsSpelled := by
  have read := unsignedNumber_integer negative (isWhole_digits n)
  have decimal : ∀ c ∈ digits n, isDigit c = true := fun c member => isDigit_of_mem_digits member
  constructor
  · change wordToken? (Floating.signText negative ++ digits n) = _
    obtain ⟨c, cs, text⟩ := List.exists_cons_of_ne_nil (digits_ne_nil n)
    rw [text] at read decimal ⊢
    exact wordToken_signed (decimal c List.mem_cons_self) read
  · exact List.append_ne_nil_of_right_ne_nil _ (digits_ne_nil n)
  · intro c member
    rcases List.mem_append.mp member with sign | digit
    · exact isWordChar_of_sign sign
    · exact isWordChar_of_isDigit (decimal c digit)

theorem isSpelled_numeral {n : Numeral} (isNumeral : IsNumeral n) : (Number.decimal n).IsSpelled := by
  have read := unsignedNumber_numeral isNumeral
  obtain ⟨c, cs, whole⟩ := List.exists_cons_of_ne_nil isNumeral.whole.1
  have decimal := isNumeral.whole.2.1
  have text : (Number.decimal n).text = Floating.signText n.negative ++
      (n.whole ++ (if n.fraction = [] then [] else '.' :: n.fraction) ++ exponentText n.exponent) := by
    rw [← List.append_assoc, ← List.append_assoc]
    rfl
  constructor
  · rw [text]
    rw [whole] at read decimal ⊢
    exact wordToken_signed (decimal c List.mem_cons_self) read
  · rw [text, whole]
    exact List.append_ne_nil_of_right_ne_nil _ (List.cons_ne_nil _ _)
  · intro x member
    rw [text, List.mem_append, List.mem_append, List.mem_append] at member
    rcases member with sign | (digit | fraction) | exponent
    · exact isWordChar_of_sign sign
    · exact isWordChar_of_isDigit (decimal x digit)
    · split at fraction
      · cases fraction
      · rcases List.mem_cons.mp fraction with point | digit
        · rw [point]
          decide
        · exact isWordChar_of_isDigit (isNumeral.fraction x digit)
    · exact isWordChar_of_exponent exponent

theorem isWhole_first (n : Nat) : IsWhole ((digits n).take 1) := by
  obtain ⟨filled, decimal, -⟩ := isWhole_digits n
  have some_digit := List.length_pos_iff.mpr filled
  refine ⟨?_, fun c member => decimal c (List.mem_of_mem_take member), fun _ => ?_⟩
  · intro none
    rcases List.take_eq_nil_iff.mp none with none | none
    · cases none
    · exact filled none
  · rw [List.length_take]
    omega

theorem isWhole_take {n count : Nat} (positive : 0 < n) (some_digit : 0 < count) :
    IsWhole ((digits n).take count) := by
  obtain ⟨filled, decimal, -⟩ := isWhole_digits n
  have taken : (digits n).take count ≠ [] := by
    intro none
    rcases List.take_eq_nil_iff.mp none with none | none
    · omega
    · exact filled none
  refine ⟨taken, fun c member => decimal c (List.mem_of_mem_take member), fun first => ?_⟩
  have whole := List.take_append_drop count (digits n)
  have front : (digits n).head? = some '0' := by
    rw [← whole, List.head?_append_of_ne_nil _ taken]
    exact first
  exact absurd front (head_digits positive)

theorem isWhole_zeros {n count : Nat} (proper : n = 0 → count = 0) :
    IsWhole (digits n ++ List.replicate count '0') := by
  obtain ⟨filled, decimal, zero⟩ := isWhole_digits n
  refine ⟨List.append_ne_nil_of_left_ne_nil filled _, fun c member => ?_, fun first => ?_⟩
  · rcases List.mem_append.mp member with digit | zeros
    · exact decimal c digit
    · rw [List.eq_of_mem_replicate zeros]
      decide
  · rw [List.head?_append_of_ne_nil _ filled] at first
    by_cases none : n = 0
    · rw [List.length_append, zero first, List.length_replicate, proper none]
    · exact absurd first (head_digits (Nat.pos_of_ne_zero none))

theorem isNumeral_numeralOfDecimal (p : Precision) (negative : Bool) {d : Decimal}
    (proper : d.digits = 0 → d.exponent = 0) : IsNumeral (numeralOfDecimal p negative d) := by
  obtain ⟨filled, decimal, -⟩ := isWhole_digits d.digits
  have some_digit : 0 < (digits d.digits).length := List.length_pos_iff.mpr filled
  have range : (plainExponents p).1 < 0 ∧ 0 < (plainExponents p).2 := by cases p <;> decide
  have zeroDigit : isDigit '0' = true := by decide
  simp only [numeralOfDecimal]
  -- the four forms: with an exponent, without a fraction, with the point inside, and in front
  split
  · rename_i scientific
    constructor
    · exact isWhole_first d.digits
    · exact fun c member => decimal c (List.mem_of_mem_drop member)
    · right
      dsimp only
      omega
  · split
    · rename_i large
      constructor
      · apply isWhole_zeros
        intro none
        rw [proper none]
        rfl
      · intro c member
        rw [List.mem_singleton.mp member, zeroDigit]
      · exact Or.inl (List.cons_ne_nil _ _)
    · rename_i small
      have nonzero : d.digits ≠ 0 := fun none => small (proper none).ge
      split
      · rename_i inner
        constructor
        · exact isWhole_take (by omega) (by omega)
        · exact fun c member => decimal c (List.mem_of_mem_drop member)
        · left
          intro none
          have short := List.drop_eq_nil_iff.mp none
          omega
      · constructor
        · have zero := isWhole_digits 0
          rw [digits_of_lt (by decide)] at zero
          exact zero
        · intro c member
          rcases List.mem_append.mp member with zeros | digit
          · rw [List.eq_of_mem_replicate zeros, zeroDigit]
          · exact decimal c digit
        · exact Or.inl (List.append_ne_nil_of_right_ne_nil _ filled)

end RegisterPlane.Json
