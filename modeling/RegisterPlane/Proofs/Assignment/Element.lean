import RegisterPlane.Assignment.Text
import RegisterPlane.Proofs.Floating.Numeral
import RegisterPlane.Proofs.Text.Cutting

namespace RegisterPlane.Assignment

open Text

theorem le_foldl_digits (value : Nat) (cs : List Char) :
    value ≤ cs.foldl (fun n c => n * 10 + digitValue c) value := by
  induction cs generalizing value with
  | nil => exact le_refl value
  | cons c cs ih =>
      rw [List.foldl_cons]
      have next := ih (value * 10 + digitValue c)
      omega

theorem readDigits_eq_ok_iff {limit value n : Nat} (within : value ≤ limit) (cs : List Char) :
    readDigits limit value cs = .ok n ↔
      (∀ c ∈ cs, isDigit c = true) ∧ n = cs.foldl (fun n c => n * 10 + digitValue c) value ∧ n ≤ limit := by
  induction cs generalizing value with
  | nil =>
      simp only [readDigits, Except.ok.injEq, List.not_mem_nil, false_implies, implies_true, true_and,
        List.foldl_nil]
      omega
  | cons c cs ih =>
      simp only [readDigits, List.forall_mem_cons, List.foldl_cons]
      by_cases decimal : isDigit c = true
      · rw [if_neg (by simp [decimal])]
        by_cases beyond : limit < value * 10 + digitValue c
        · rw [if_pos beyond]
          have most := le_foldl_digits (value * 10 + digitValue c) cs
          constructor
          · intro done
            cases done
          · rintro ⟨-, number, small⟩
            omega
        · rw [if_neg beyond, ih (by omega), and_iff_right decimal]
      · rw [if_pos (by simpa using decimal)]
        constructor
        · intro done
          cases done
        · rintro ⟨⟨decimal', -⟩, -⟩
          exact absurd decimal' decimal

/-- A row of digits after a sign, which a plus always is and a minus only where the kind is signed. -/
inductive IsNumeral (signed : Bool) : List Char → Int → Prop
  | plain {cs : List Char} (filled : cs ≠ []) (decimal : ∀ c ∈ cs, isDigit c = true) :
      IsNumeral signed cs (ofDigits cs)
  | plus {cs : List Char} (filled : cs ≠ []) (decimal : ∀ c ∈ cs, isDigit c = true) :
      IsNumeral signed ('+' :: cs) (ofDigits cs)
  | minus {cs : List Char} (sign : signed = true) (filled : cs ≠ [])
      (decimal : ∀ c ∈ cs, isDigit c = true) : IsNumeral signed ('-' :: cs) (-(ofDigits cs : Int))

theorem readDigits_iff {limit n : Nat} {cs : List Char} :
    readDigits limit 0 cs = .ok n ↔ (∀ c ∈ cs, isDigit c = true) ∧ n = ofDigits cs ∧ n ≤ limit :=
  readDigits_eq_ok_iff (Nat.zero_le limit) cs

theorem numeral_of_readInteger {signed : Bool} {lower upper : Nat} {word : List Char} {n : Int}
    (done : readInteger signed lower upper word = .ok n) :
    IsNumeral signed word n ∧ -(lower : Int) ≤ n ∧ n ≤ upper := by
  simp only [readInteger] at done
  split at done
  · cases done
  · cases done
  · cases done
  · rename_i cs lone
    split at done
    · rename_i m read
      cases done
      obtain ⟨decimal, rfl, small⟩ := readDigits_iff.mp read
      exact ⟨.plus lone decimal, by omega, by omega⟩
    · cases done
    · cases done
  · rename_i cs lone
    split at done
    · rename_i sign
      split at done
      · rename_i m read
        cases done
        obtain ⟨decimal, rfl, small⟩ := readDigits_iff.mp read
        exact ⟨.minus sign lone decimal, by omega, by omega⟩
      · cases done
      · cases done
    · cases done
  · rename_i filled _ _ _ _
    split at done
    · rename_i m read
      cases done
      obtain ⟨decimal, rfl, small⟩ := readDigits_iff.mp read
      exact ⟨.plain filled decimal, by omega, by omega⟩
    · cases done
    · cases done

theorem readInteger_plain {signed : Bool} {lower upper : Nat} {word : List Char} (filled : word ≠ [])
    (decimal : ∀ c ∈ word, isDigit c = true) (most : ofDigits word ≤ upper) :
    readInteger signed lower upper word = .ok (ofDigits word : Int) := by
  have read : readDigits upper 0 word = .ok (ofDigits word) := readDigits_iff.mpr ⟨decimal, rfl, most⟩
  have unsigned : ∀ c, isDigit c = false → ∀ cs, word ≠ c :: cs := by
    rintro c other cs rfl
    rw [decimal c List.mem_cons_self] at other
    cases other
  simp only [readInteger]
  split
  · exact absurd rfl filled
  · exact absurd rfl (unsigned '+' (by decide) _)
  · exact absurd rfl (unsigned '-' (by decide) _)
  · exact absurd rfl (unsigned '+' (by decide) _)
  · exact absurd rfl (unsigned '-' (by decide) _)
  · rw [read]

theorem readInteger_eq_ok_iff {signed : Bool} {lower upper : Nat} {word : List Char} {n : Int} :
    readInteger signed lower upper word = .ok n ↔
      IsNumeral signed word n ∧ -(lower : Int) ≤ n ∧ n ≤ upper := by
  constructor
  · exact numeral_of_readInteger
  · rintro ⟨numeral, least, most⟩
    cases numeral with
    | plain filled decimal => exact readInteger_plain filled decimal (by omega)
    | @plus cs filled decimal =>
        obtain ⟨c, rest, rfl⟩ := List.exists_cons_of_ne_nil filled
        have read : readDigits upper 0 (c :: rest) = .ok (ofDigits (c :: rest)) :=
          readDigits_iff.mpr ⟨decimal, rfl, by omega⟩
        simp only [readInteger, read]
    | @minus cs sign filled decimal =>
        obtain ⟨c, rest, rfl⟩ := List.exists_cons_of_ne_nil filled
        have read : readDigits lower 0 (c :: rest) = .ok (ofDigits (c :: rest)) :=
          readDigits_iff.mpr ⟨decimal, rfl, by omega⟩
        simp only [readInteger, read, if_pos sign]

theorem isNumeral_digits (signed : Bool) (n : Nat) : IsNumeral signed (digits n) n := by
  have numeral : IsNumeral signed (digits n) (ofDigits (digits n)) :=
    .plain (digits_ne_nil n) fun c member => isDigit_of_mem_digits member
  rwa [ofDigits_digits] at numeral

theorem isNumeral_minus (n : Nat) : IsNumeral true ('-' :: digits n) (-(n : Int)) := by
  have numeral : IsNumeral true ('-' :: digits n) (-(ofDigits (digits n) : Int)) :=
    .minus rfl (digits_ne_nil n) fun c member => isDigit_of_mem_digits member
  rwa [ofDigits_digits] at numeral

theorem isNumeral_integerDigits (i : Int) : IsNumeral true (integerDigits i) i := by
  obtain ⟨n, rfl | rfl⟩ := i.eq_nat_or_neg
  · rw [integerDigits_natCast]
    exact isNumeral_digits true n
  · rcases Nat.eq_zero_or_pos n with rfl | positive
    · exact isNumeral_digits true 0
    · rw [integerDigits_neg positive]
      exact isNumeral_minus n

theorem readInteger_digits {signed : Bool} {lower upper n : Nat} (within : n ≤ upper) :
    readInteger signed lower upper (digits n) = .ok (n : Int) :=
  readInteger_eq_ok_iff.mpr ⟨isNumeral_digits signed n, by omega, by omega⟩

theorem readInteger_integerDigits {lower upper : Nat} {i : Int} (least : -(lower : Int) ≤ i)
    (most : i ≤ upper) : readInteger true lower upper (integerDigits i) = .ok i :=
  readInteger_eq_ok_iff.mpr ⟨isNumeral_integerDigits i, least, most⟩

theorem IsNumeral.signed {signed : Bool} {word : List Char} {n : Int} (numeral : IsNumeral signed word n) :
    IsNumeral true word n := by
  cases numeral with
  | plain filled decimal => exact .plain filled decimal
  | plus filled decimal => exact .plus filled decimal
  | minus _ filled decimal => exact .minus rfl filled decimal

theorem IsNumeral.unique {signed signed' : Bool} {word : List Char} {n m : Int}
    (first : IsNumeral signed word n) (second : IsNumeral signed' word m) : n = m := by
  have read : readInteger true (n.natAbs + m.natAbs) (n.natAbs + m.natAbs) word = .ok n :=
    readInteger_eq_ok_iff.mpr ⟨first.signed, by omega, by omega⟩
  have read' : readInteger true (n.natAbs + m.natAbs) (n.natAbs + m.natAbs) word = .ok m :=
    readInteger_eq_ok_iff.mpr ⟨second.signed, by omega, by omega⟩
  exact Except.ok.inj (read.symm.trans read')

def inNumeral (c : Char) : Bool := isDigit c || c == '+' || c == '-'

theorem IsNumeral.inNumeral {signed : Bool} {word : List Char} {n : Int} (numeral : IsNumeral signed word n)
    {c : Char} (member : c ∈ word) : inNumeral c = true := by
  have decimal : isDigit c = true → Assignment.inNumeral c = true := by
    intro decimal
    rw [Assignment.inNumeral, decimal, Bool.true_or, Bool.true_or]
  cases numeral with
  | plain filled digits => exact decimal (digits c member)
  | plus filled digits =>
      rcases List.mem_cons.mp member with rfl | rest
      · decide
      · exact decimal (digits c rest)
  | minus _ filled digits =>
      rcases List.mem_cons.mp member with rfl | rest
      · decide
      · exact decimal (digits c rest)

theorem toInt_bounds (w : Width) (i : BitVec w.bits) :
    -(w.half : Int) ≤ i.toInt ∧ i.toInt ≤ ((w.half - 1 : Nat) : Int) := by
  have least := i.le_toInt
  have most := i.toInt_lt
  have half : (w.half : Int) = 2 ^ (w.bits - 1) := by
    cases w <;> rfl
  have some_half : 0 < w.half := by cases w <;> decide
  omega

theorem toNat_le (w : Width) (n : BitVec w.bits) : n.toNat ≤ w.capacity - 1 := by
  have below : n.toNat < w.capacity := n.isLt
  omega

theorem readElement_writeElement (k : ArrayKind) (x : k.Element) :
    readElement k (writeElement k x) = .ok x := by
  cases k with
  | bit => cases x <;> rfl
  | integer w =>
      change BitVec w.bits at x
      obtain ⟨least, most⟩ := toInt_bounds w x
      change (readInteger true w.half (w.half - 1) (integerDigits x.toInt)).map (BitVec.ofInt w.bits) = _
      rw [readInteger_integerDigits least most]
      change Except.ok (BitVec.ofInt w.bits x.toInt) = Except.ok x
      rw [BitVec.ofInt_toInt]
  | natural w =>
      change BitVec w.bits at x
      change (readInteger false 0 (w.capacity - 1) (digits x.toNat)).map (BitVec.ofInt w.bits) = _
      rw [readInteger_digits (toNat_le w x)]
      change Except.ok (BitVec.ofInt w.bits (x.toNat : Int)) = Except.ok x
      rw [BitVec.ofInt_natCast, BitVec.ofNat_toNat, BitVec.setWidth_eq]
  | real p =>
      cases p with
      | half =>
          change Floating .half at x
          have through := Floating.read_plainText_widened Precision.half_finer_single
            Precision.single_finer_double x
          obtain ⟨wide, read, narrowed⟩ := Option.map_eq_some_iff.mp through
          change (readReal .double (x.convert .single).plainText).map (Floating.convert .half) = _
          rw [readReal, read]
          exact congrArg Except.ok narrowed
      | single =>
          change Floating .single at x
          change readReal .single x.plainText = _
          rw [readReal, Floating.read_plainText]
          rfl
      | double =>
          change Floating .double at x
          change readReal .double x.plainText = _
          rw [readReal, Floating.read_plainText]
          rfl

theorem integerDigits_injective {i j : Int} (same : integerDigits i = integerDigits j) : i = j := by
  have numeral := isNumeral_integerDigits i
  rw [same] at numeral
  exact numeral.unique (isNumeral_integerDigits j)

theorem isPlain_of_mem_digits {n : Nat} {c : Char} (member : c ∈ digits n) : Floating.isPlain c = true := by
  rw [Floating.isPlain, isDigit_of_mem_digits member, Bool.true_or]

theorem isPlain_of_mem_integerDigits {i : Int} {c : Char} (member : c ∈ integerDigits i) :
    Floating.isPlain c = true := by
  unfold integerDigits at member
  split at member
  · rcases List.mem_cons.mp member with sign | rest
    · rw [sign]
      decide
    · exact isPlain_of_mem_digits rest
  · exact isPlain_of_mem_digits member

theorem integerDigits_ne_nil (i : Int) : integerDigits i ≠ [] := by
  unfold integerDigits
  split
  · exact List.cons_ne_nil _ _
  · exact digits_ne_nil _

theorem isPlain_of_mem_word {k : ArrayKind} {x : k.Element} {c : Char}
    (member : c ∈ writeElement k x) : Floating.isPlain c = true := by
  cases k with
  | bit =>
      cases x with
      | true =>
          rw [List.mem_singleton.mp member]
          decide
      | false =>
          rw [List.mem_singleton.mp member]
          decide
  | integer w => exact isPlain_of_mem_integerDigits member
  | natural w => exact isPlain_of_mem_digits member
  | real p =>
      cases p with
      | half => exact Floating.isPlain_of_mem_plainText member
      | single => exact Floating.isPlain_of_mem_plainText member
      | double => exact Floating.isPlain_of_mem_plainText member

theorem word_ne_nil (k : ArrayKind) (x : k.Element) : writeElement k x ≠ [] := by
  cases k with
  | bit => cases x <;> exact List.cons_ne_nil _ _
  | integer w => exact integerDigits_ne_nil _
  | natural w => exact digits_ne_nil _
  | real p =>
      cases p with
      | half => exact Floating.plainText_ne_nil _
      | single => exact Floating.plainText_ne_nil _
      | double => exact Floating.plainText_ne_nil _

theorem not_separates_of_isPlain {c : Char} (plain : Floating.isPlain c = true) :
    separatesElements c = false := by
  have letters : ∀ d ∈ "-.NaNinf".toList, (!separatesElements d) = true :=
    List.all_eq_true.mp (by decide)
  rcases Bool.or_eq_true_iff.mp plain with decimal | letter
  · rw [isDigit_iff] at decimal
    have other : c ≠ ',' := by
      rintro rfl
      exact absurd decimal.1 (by decide)
    simp [separatesElements, isBlank, other]
    omega
  · have apart := letters c (of_decide_eq_true letter)
    rw [Bool.not_eq_true'] at apart
    exact apart

theorem word_whole (k : ArrayKind) (x : k.Element) : Whole separatesElements (writeElement k x) :=
  fun _ member => not_separates_of_isPlain (isPlain_of_mem_word member)

end RegisterPlane.Assignment
