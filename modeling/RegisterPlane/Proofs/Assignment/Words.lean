import RegisterPlane.Proofs.Assignment.Inference
import RegisterPlane.Proofs.Text.Tokens

namespace RegisterPlane

def ArrayKind.isSigned : ArrayKind → Bool
  | integer _ => true
  | _ => false

namespace Assignment

open Text

theorem decodeText_array_eq_ok_iff (k : ArrayKind) (text : String) (v : Value) :
    decodeText (.array k) text = .ok v ↔
      tokens separatesElements text.toList ≠ [] ∧ ∃ elements : List k.Element, v = .array k elements ∧
        List.Forall₂ (fun word x => readElement k word = .ok x) (tokens separatesElements text.toList)
          elements := by
  simp only [decodeText, ← readAll_eq_ok_iff]
  by_cases empty : tokens separatesElements text.toList = []
  · simp [empty]
  · rw [if_neg empty]
    cases readAll (readElement k) (tokens separatesElements text.toList) with
    | error fault => simp
    | ok elements =>
        simp only [Except.ok.injEq, ne_eq, empty, not_false_eq_true, true_and]
        constructor
        · rintro rfl
          exact ⟨elements, rfl, rfl⟩
        · rintro ⟨_, rfl, rfl⟩
          rfl

theorem readElement_eq_ok_iff {k : ArrayKind} {w : Width} (integers : k.OfIntegers w) (word : List Char)
    (x : k.Element) :
    readElement k word = .ok x ↔ ∃ n, IsNumeral k.isSigned word n ∧ k.Holds n ∧ k.toScalar x = .int n := by
  simp only [integers.toScalar_eq_iff]
  cases integers with
  | integer =>
      have some_half : 0 < w.half := by cases w <;> decide
      constructor
      · intro read
        obtain ⟨n, done, same⟩ := ok_of_map (x := readInteger true w.half (w.half - 1) word) read
        obtain ⟨numeral, least, most⟩ := readInteger_eq_ok_iff.mp done
        have holds : (ArrayKind.integer w).Holds n := ⟨least, by omega⟩
        exact ⟨n, numeral, holds, holds, same⟩
      · rintro ⟨n, numeral, ⟨least, less⟩, -, rfl⟩
        have done : readInteger true w.half (w.half - 1) word = .ok n :=
          readInteger_eq_ok_iff.mpr ⟨numeral, least, by omega⟩
        exact congrArg (Except.map (BitVec.ofInt w.bits)) done
  | natural =>
      have some_number : 0 < w.capacity := by cases w <;> decide
      constructor
      · intro read
        obtain ⟨n, done, same⟩ := ok_of_map (x := readInteger false 0 (w.capacity - 1) word) read
        obtain ⟨numeral, least, most⟩ := readInteger_eq_ok_iff.mp done
        have holds : (ArrayKind.natural w).Holds n := ⟨by omega, by omega⟩
        exact ⟨n, numeral, holds, holds, same⟩
      · rintro ⟨n, numeral, ⟨least, less⟩, -, rfl⟩
        have done : readInteger false 0 (w.capacity - 1) word = .ok n :=
          readInteger_eq_ok_iff.mpr ⟨numeral, by omega, by omega⟩
        exact congrArg (Except.map (BitVec.ofInt w.bits)) done

def InRange (k : ArrayKind) (word : List Char) : Prop := ∃ n, IsNumeral k.isSigned word n ∧ k.Holds n

theorem exists_element_iff {k : ArrayKind} {w : Width} (integers : k.OfIntegers w) (word : List Char) :
    (∃ x, readElement k word = .ok x) ↔ InRange k word := by
  simp only [readElement_eq_ok_iff integers, integers.toScalar_eq_iff]
  constructor
  · rintro ⟨x, n, numeral, holds, -⟩
    exact ⟨n, numeral, holds⟩
  · rintro ⟨n, numeral, holds⟩
    exact ⟨_, n, numeral, holds, holds, rfl⟩

theorem exists_decodeText_iff {k : ArrayKind} {w : Width} (integers : k.OfIntegers w) (text : String) :
    (∃ v, decodeText (.array k) text = .ok v) ↔
      tokens separatesElements text.toList ≠ [] ∧
        ∀ word ∈ tokens separatesElements text.toList, InRange k word := by
  simp only [decodeText_array_eq_ok_iff, ← exists_element_iff integers, ← exists_readAll_iff,
    readAll_eq_ok_iff]
  constructor
  · rintro ⟨v, filled, elements, -, each⟩
    exact ⟨filled, elements, each⟩
  · rintro ⟨filled, elements, each⟩
    exact ⟨_, filled, elements, rfl, each⟩

theorem valueOfText_cases (subject : String) (kind : Kind) (text : String) :
    (∃ v, decodeText kind text = .ok v ∧ valueOfText subject kind text = .ok v) ∨
      (¬∃ v, decodeText kind text = .ok v) ∧
        ∃ reason, valueOfText subject kind text = .error (.invalidAssignment subject reason) := by
  unfold valueOfText
  cases decodeText kind text with
  | ok v => exact Or.inl ⟨v, rfl, rfl⟩
  | error fault => exact Or.inr ⟨by simp, fault.message, rfl⟩

theorem numbers_of_decodeText {k : ArrayKind} {w : Width} (integers : k.OfIntegers w) {text : String} {v : Value}
    (decoded : decodeText (.array k) text = .ok v) :
    ∃ (ns : List ℤ) (elements : List k.Element),
      List.Forall₂ (IsNumeral k.isSigned) (tokens separatesElements text.toList) ns ∧
      (∀ n ∈ ns, k.Holds n) ∧ v = .array k elements ∧ elements.map k.toScalar = ns.map .int := by
  obtain ⟨-, elements, rfl, each⟩ := (decodeText_array_eq_ok_iff k text v).mp decoded
  have number : ∀ word x, readElement k word = .ok x →
      IsNumeral k.isSigned word (k.toScalar x).toInt ∧ k.Holds (k.toScalar x).toInt ∧
        k.toScalar x = .int (k.toScalar x).toInt := by
    intro word x read
    obtain ⟨n, numeral, holds, scalar⟩ := (readElement_eq_ok_iff integers word x).mp read
    rw [scalar]
    exact ⟨numeral, holds, rfl⟩
  refine ⟨elements.map fun x => (k.toScalar x).toInt, elements, ?_, ?_, rfl, ?_⟩
  · rw [List.forall₂_map_right_iff]
    exact each.imp fun word x read => (number word x read).1
  · intro n member
    obtain ⟨x, inside, rfl⟩ := List.mem_map.mp member
    obtain ⟨word, -, read⟩ := forall₂_mem_right each inside
    exact (number word x read).2.1
  · rw [List.map_map]
    apply List.map_congr_left
    intro x inside
    obtain ⟨word, -, read⟩ := forall₂_mem_right each inside
    exact (number word x read).2.2

/-- A text is decoded as integers exactly if it has words and all of them are numerals that the kind holds,
and then the elements are their numbers. A number that the kind does not hold is refused and never wraps
around. For arrays of every kind it makes no difference what separates the words. -/
theorem integers_decoded :
    (∀ (k : ArrayKind) (w : Width), k.OfIntegers w → ∀ subject text : String,
      ((∃ v, valueOfText subject (.array k) text = .ok v) ↔
        tokens separatesElements text.toList ≠ [] ∧
          ∀ word ∈ tokens separatesElements text.toList, InRange k word) ∧
      (∀ v, valueOfText subject (.array k) text = .ok v →
        ∃ (ns : List ℤ) (elements : List k.Element),
          List.Forall₂ (IsNumeral k.isSigned) (tokens separatesElements text.toList) ns ∧
          (∀ n ∈ ns, k.Holds n) ∧ v = .array k elements ∧ elements.map k.toScalar = ns.map .int) ∧
      ∀ word ∈ tokens separatesElements text.toList, ∀ n, IsNumeral k.isSigned word n → ¬k.Holds n →
        ∃ reason, valueOfText subject (.array k) text = .error (.invalidAssignment subject reason)) ∧
    ∀ (k : ArrayKind) (subject : String) (words : List (List Char)) (text text' : String),
      Laid separatesElements words text.toList → Laid separatesElements words text'.toList →
        valueOfText subject (.array k) text = valueOfText subject (.array k) text' := by
  constructor
  · intro k w integers subject text
    have decodes := exists_decodeText_iff integers text
    rcases valueOfText_cases subject (.array k) text with ⟨v, decoded, taken⟩ | ⟨undecoded, reason, refused⟩
    · have inRange := decodes.mp ⟨v, decoded⟩
      refine ⟨⟨fun _ => inRange, fun _ => ⟨v, taken⟩⟩, ?_, ?_⟩
      · intro v' same
        rw [taken] at same
        cases same
        exact numbers_of_decodeText integers decoded
      · intro word member n numeral beyond
        obtain ⟨m, numeral', holds⟩ := inRange.2 word member
        rw [numeral'.unique numeral] at holds
        exact absurd holds beyond
    · rw [refused]
      refine ⟨⟨?_, fun inRange => absurd (decodes.mpr inRange) undecoded⟩, ?_, fun _ _ _ _ _ => ⟨reason, rfl⟩⟩
      · rintro ⟨v, taken⟩
        cases taken
      · intro v taken
        cases taken
  · intro k subject words text text' laid laid'
    simp only [valueOfText, decodeText, tokens_eq_iff.mpr laid, tokens_eq_iff.mpr laid']

theorem integers_decoded_levels :
    (ArrayKind.natural .w8).OfIntegers .w8 ∧
      (∃ ns : List ℤ, List.Forall₂ (IsNumeral false) [['+', '7'], ['0', '2', '5', '5']] ns ∧
        ns.map Scalar.int = [.int 7, .int 255]) ∧
      (∃ reason, valueOfText "tank.level" (.array (.natural .w8)) "1 256" =
        .error (.invalidAssignment "tank.level" reason)) ∧
      valueOfText "tank.level" (.array (.natural .w8)) ",+7 \u2003,0255" =
        valueOfText "tank.level" (.array (.natural .w8)) "+7,0255\n" := by
  obtain ⟨read, apart⟩ := integers_decoded
  have decoded : valueOfText "tank.level" (.array (.natural .w8)) "+7,0255\n" =
      .ok (.array (.natural .w8) [(7 : BitVec 8), (255 : BitVec 8)]) := by decide +kernel
  have words : ∀ text ∈ [",+7 \u2003,0255", "+7,0255\n"],
      Laid separatesElements [['+', '7'], ['0', '2', '5', '5']] text.toList := by
    simp only [← tokens_eq_iff]
    decide +kernel
  obtain ⟨ns, elements, numerals, -, same, scalars⟩ :=
    (read _ _ (.natural .w8) "tank.level" "+7,0255\n").2.1 _ decoded
  rw [tokens_eq_iff.mpr (words _ (by simp))] at numerals
  cases same
  refine ⟨.natural .w8, ⟨ns, numerals, scalars.symm⟩, ?_, ?_⟩
  · have numeral : IsNumeral false ['2', '5', '6'] (ofDigits ['2', '5', '6']) :=
      .plain (by decide) (List.all_eq_true.mp (by decide))
    have beyond : ¬(ArrayKind.natural .w8).Holds (ofDigits ['2', '5', '6']) := by
      rintro ⟨-, less⟩
      exact absurd less (by decide)
    exact (read _ _ (.natural .w8) "tank.level" "1 256").2.2 _ (by decide +kernel) _ numeral beyond
  · exact apart _ "tank.level" _ _ _ (words _ (by simp)) (words _ (by simp))

end Assignment

end RegisterPlane
