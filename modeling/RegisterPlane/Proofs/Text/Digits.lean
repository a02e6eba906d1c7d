import Mathlib.Data.List.TakeWhile
import RegisterPlane.Proofs.Text.Character

namespace RegisterPlane.Text

theorem digitChar_toNat (n : Nat) : (digitChar n).toNat = 48 + n % 10 := by
  have small : 48 + n % 10 < 0xd800 := by omega
  exact toNat_ofNat_of_lt small

theorem isDigit_digitChar (n : Nat) : isDigit (digitChar n) = true := by
  rw [isDigit_iff, digitChar_toNat]
  omega

theorem digitValue_digitChar (n : Nat) : digitValue (digitChar n) = n % 10 := by
  unfold digitValue
  rw [digitChar_toNat]
  exact Nat.add_sub_cancel_left 48 (n % 10)

theorem digits_of_lt {n : Nat} (small : n < 10) : digits n = [digitChar n] := by
  rw [digits, if_pos small]

theorem digits_of_ge {n : Nat} (large : 10 ≤ n) : digits n = digits (n / 10) ++ [digitChar n] := by
  rw [digits, if_neg (by omega)]

theorem digits_ne_nil (n : Nat) : digits n ≠ [] := by
  by_cases small : n < 10
  · rw [digits_of_lt small]
    exact List.cons_ne_nil _ _
  · rw [digits_of_ge (by omega)]
    exact List.append_ne_nil_of_right_ne_nil _ (List.cons_ne_nil _ _)

theorem integerDigits_natCast (n : Nat) : integerDigits (n : Int) = digits n := by
  rw [integerDigits, if_neg (by omega), Int.natAbs_natCast]

theorem integerDigits_neg {n : Nat} (positive : 0 < n) : integerDigits (-(n : Int)) = '-' :: digits n := by
  rw [integerDigits, if_pos (by omega), Int.natAbs_neg, Int.natAbs_natCast]

theorem isDigit_of_mem_digits {n : Nat} {c : Char} (member : c ∈ digits n) : isDigit c = true := by
  induction n using Nat.strongRecOn with
  | ind n ih =>
      by_cases small : n < 10
      · rw [digits_of_lt small, List.mem_singleton] at member
        rw [member, isDigit_digitChar]
      · rw [digits_of_ge (by omega), List.mem_append, List.mem_singleton] at member
        rcases member with early | rfl
        · exact ih (n / 10) (by omega) early
        · exact isDigit_digitChar n

theorem ofDigits_append (front back : List Char) :
    ofDigits (front ++ back) = ofDigits front * 10 ^ back.length + ofDigits back := by
  induction back using List.reverseRecOn with
  | nil => simp [ofDigits]
  | append_singleton back c ih =>
      have step : ∀ cs, ofDigits (cs ++ [c]) = ofDigits cs * 10 + digitValue c := by
        intro cs
        simp [ofDigits, List.foldl_append]
      rw [← List.append_assoc, step, step, ih, List.length_append, List.length_singleton, pow_succ]
      ring

theorem ofDigits_singleton (c : Char) : ofDigits [c] = digitValue c := by
  simp [ofDigits]

theorem ofDigits_zeros (count : Nat) : ofDigits (List.replicate count '0') = 0 := by
  induction count with
  | zero => rfl
  | succ count ih =>
      rw [List.replicate_succ', ofDigits_append, ih, ofDigits_singleton]
      rfl

@[simp] theorem ofDigits_digits (n : Nat) : ofDigits (digits n) = n := by
  induction n using Nat.strongRecOn with
  | ind n ih =>
      by_cases small : n < 10
      · rw [digits_of_lt small, ofDigits_singleton, digitValue_digitChar]
        omega
      · rw [digits_of_ge (by omega), ofDigits_append, ih (n / 10) (by omega), ofDigits_singleton,
          digitValue_digitChar, List.length_singleton]
        omega

theorem digits_mul_ten {d : Nat} (positive : 0 < d) : digits (d * 10) = digits d ++ ['0'] := by
  have last : digitChar (d * 10) = '0' := by
    rw [digitChar, Nat.mul_mod_left]
    rfl
  rw [digits_of_ge (by omega), Nat.mul_div_cancel _ (by decide), last]

theorem digits_mul_pow {d : Nat} (positive : 0 < d) (exponent : Nat) :
    digits (d * 10 ^ exponent) = digits d ++ List.replicate exponent '0' := by
  induction exponent with
  | zero => simp
  | succ exponent ih =>
      rw [pow_succ, ← Nat.mul_assoc, digits_mul_ten (by positivity), ih, List.append_assoc,
        List.replicate_succ']

theorem lt_pow_length_digits (n : Nat) : n < 10 ^ (digits n).length := by
  induction n using Nat.strongRecOn with
  | ind n ih =>
      by_cases small : n < 10
      · rw [digits_of_lt small]
        simpa using small
      · have below := ih (n / 10) (by omega)
        rw [digits_of_ge (by omega), List.length_append, List.length_singleton, pow_succ]
        omega

theorem pow_length_digits_le {n : Nat} (positive : 0 < n) : 10 ^ ((digits n).length - 1) ≤ n := by
  induction n using Nat.strongRecOn with
  | ind n ih =>
      by_cases small : n < 10
      · rw [digits_of_lt small]
        exact positive
      · have below := ih (n / 10) (by omega) (by omega)
        have some_digit : 0 < (digits (n / 10)).length :=
          List.length_pos_iff.mpr (digits_ne_nil _)
        have shorter : (digits (n / 10)).length + 1 - 1 = (digits (n / 10)).length - 1 + 1 := by omega
        rw [digits_of_ge (by omega), List.length_append, List.length_singleton, shorter, pow_succ]
        omega

theorem head_digits {n : Nat} (positive : 0 < n) : (digits n).head? ≠ some '0' := by
  induction n using Nat.strongRecOn with
  | ind n ih =>
      by_cases small : n < 10
      · rw [digits_of_lt small, List.head?_cons]
        intro zero
        have code := digitChar_toNat n
        rw [Option.some.inj zero, Nat.mod_eq_of_lt small] at code
        have zero_code : '0'.toNat = 48 := rfl
        omega
      · rw [digits_of_ge (by omega), List.head?_append_of_ne_nil _ (digits_ne_nil _)]
        exact ih (n / 10) (by omega) (by omega)

theorem cut_digits_end {ds : List Char} (decimal : ∀ c ∈ ds, isDigit c = true) :
    ds.takeWhile isDigit = ds ∧ ds.dropWhile isDigit = [] :=
  ⟨List.takeWhile_eq_self_iff.mpr decimal, List.dropWhile_eq_nil_iff.mpr decimal⟩

theorem cut_digits_before {ds : List Char} (decimal : ∀ c ∈ ds, isDigit c = true) {c : Char}
    (other : isDigit c = false) (rest : List Char) :
    (ds ++ c :: rest).takeWhile isDigit = ds ∧ (ds ++ c :: rest).dropWhile isDigit = c :: rest := by
  rw [List.takeWhile_append_of_pos decimal, List.dropWhile_append_of_pos decimal,
    List.takeWhile_cons_of_neg (by simp [other]), List.dropWhile_cons_of_neg (by simp [other])]
  exact ⟨List.append_nil ds, rfl⟩

end RegisterPlane.Text
