import RegisterPlane.Proofs.Assignment.Named
import RegisterPlane.Proofs.Floating.Integer

/-! What a named kind of integers makes of numbers. Integers are stored as they are or refused. A real is
stored as the integer that its text writes, which is the real itself up to `2 ^ 53`; further out the shortest
text of a real may write another integer that is nearest to it. -/

namespace RegisterPlane.Assignment

open Text

theorem text_of_numeral {p : Precision} {signed : Bool} {x : Floating p} {n : Int}
    (numeral : IsNumeral signed x.plainText n) :
    x = .zero p true ∧ n = 0 ∨ x.plainText = integerDigits n := by
  rcases x.plainText_cases with ⟨negative, m, text⟩ | ⟨c, member, letter⟩
  · rw [text] at numeral
    cases negative with
    | false =>
        have same : n = m := numeral.unique (isNumeral_digits true m)
        right
        rw [text, same, integerDigits_natCast]
        rfl
    | true =>
        have same : n = -(m : Int) := numeral.unique (isNumeral_minus m)
        rcases Nat.eq_zero_or_pos m with rfl | positive
        · left
          refine ⟨Floating.plainText_injective (text.trans ?_), same⟩
          rw [Floating.plainText_negativeZero, digits_of_lt (by decide)]
          rfl
        · right
          rw [text, same, integerDigits_neg positive]
          rfl
  · have other : ['N', 'i', '.'].all (!inNumeral ·) = true := by decide
    have outside := List.all_eq_true.mp other c letter
    rw [numeral.inNumeral member] at outside
    cases outside

theorem ofInt_of_text {y : Floating .double} {n : ℤ} (text : y.plainText = integerDigits n) :
    Floating.ofInt .double n = y := by
  have read := Floating.read_plainText y
  rw [text, Floating.read_integerDigits] at read
  exact Option.some.inj read

theorem plainText_edges : ∀ i ∈ [(2 ^ 53 : ℤ), -2 ^ 53],
    (Floating.ofInt .double i).plainText = integerDigits i := by decide +kernel

theorem rational_of_text {y : Floating .double} {n : ℤ} {q : ℚ} (text : y.plainText = integerDigits n)
    (number : y.rational? = some q) (small : |q| ≤ 2 ^ 53) : q = n := by
  obtain rfl := ofInt_of_text text
  have bound : 2 * Precision.double.binadeSize = 2 ^ 53 := rfl
  have few : |q| ≤ (2 * Precision.double.binadeSize : ℕ) := by
    rw [bound]
    exact_mod_cast small
  have whole := Floating.isInteger_of_small number few
  have cast : ((2 ^ 53 : ℕ) : ℤ) = 2 ^ 53 := rfl
  rw [bound, cast] at whole
  -- Beyond the ends the nearest double would have to be an end, which has a text of its own.
  have edge : ∀ i ∈ [(2 ^ 53 : ℤ), -2 ^ 53], (Floating.ofInt .double n).IsInteger i → i = n := by
    intro i member here
    have same := plainText_edges i member
    rw [Floating.ofInt_of_isInteger here, text] at same
    exact (integerDigits_injective same).symm
  have same : max (-2 ^ 53) (min n (2 ^ 53)) = n := by
    rcases lt_or_ge n (-2 ^ 53) with below | least
    · have low : max (-2 ^ 53) (min n (2 ^ 53)) = -2 ^ 53 := by omega
      rw [low] at whole ⊢
      exact edge _ (by simp) whole
    · rcases lt_or_ge (2 ^ 53) n with above | most
      · have high : max (-2 ^ 53) (min n (2 ^ 53)) = 2 ^ 53 := by omega
        rw [high] at whole ⊢
        exact edge _ (by simp) whole
      · omega
  rw [same] at whole
  exact Option.some.inj (number.symm.trans (Floating.rational_of_isInteger whole))

/-- What is kept of a scalar: an integer as it is, a real as the integer that its text writes. That is an
integer that the real is nearest to, and the real itself as far as doubles hold all integers. -/
inductive Keeps : Scalar → ℤ → Prop
  | integer (i : ℤ) : Keeps (.int i) i
  | negativeZero : Keeps (.real (.zero .double true)) 0
  | real {y : Floating .double} {q : ℚ} {n : ℤ} (number : y.rational? = some q)
      (exact : |q| ≤ 2 ^ 53 → q = n) (nearest : .ofInt .double n = y)
      (text : y.plainText = integerDigits n) : Keeps (.real y) n

theorem keeps_of_text {y : Floating .double} {n : ℤ} (text : y.plainText = integerDigits n) :
    Keeps (.real y) n := by
  have numeral := isNumeral_integerDigits n
  rw [← text] at numeral
  cases y with
  | nan => exact absurd (numeral.inNumeral (c := 'N') List.mem_cons_self) (by decide)
  | infinite negative =>
      exact absurd (numeral.inNumeral (c := 'i') (List.mem_append_right _ List.mem_cons_self)) (by decide)
  | finite negative place => exact .real rfl (rational_of_text text rfl) (ofInt_of_text text) text

theorem keeps_of_readElement {k : ArrayKind} {w : Width} (integers : k.OfIntegers w) {s : Scalar}
    {x : k.Element} (read : readElement k s.word = .ok x) :
    ∃ n, Keeps s n ∧ k.toScalar x = .int n := by
  obtain ⟨n, numeral, -, scalar⟩ := (readElement_eq_ok_iff integers s.word x).mp read
  refine ⟨n, ?_, scalar⟩
  cases s with
  | bool b =>
      have letters : ∀ b, (Scalar.bool b).word.all inNumeral = false := by decide
      have inside : (Scalar.bool b).word.all inNumeral = true :=
        List.all_eq_true.mpr fun c member => numeral.inNumeral member
      rw [letters b] at inside
      cases inside
  | int i =>
      rw [numeral.unique (isNumeral_integerDigits i)]
      exact .integer i
  | real y =>
      rcases text_of_numeral numeral with ⟨rfl, rfl⟩ | text
      · exact .negativeZero
      · exact keeps_of_text text

theorem exists_readElement_iff {k : ArrayKind} {w : Width} (integers : k.OfIntegers w) (i : ℤ) :
    (∃ x, readElement k (Scalar.int i).word = .ok x) ↔ k.Holds i := by
  constructor
  · rintro ⟨x, read⟩
    obtain ⟨n, numeral, holds, -⟩ := (readElement_eq_ok_iff integers _ x).mp read
    rwa [numeral.unique (isNumeral_integerDigits i)] at holds
  · exact fun holds => ⟨_, readElement_integer integers holds⟩

theorem typedLiteral_cases {k : ArrayKind} {literal : Yaml} {v : Value}
    (typed : typedLiteral (.array k) literal = .ok v) :
    ∃ items : List Scalar, items ≠ [] ∧
      (literal = .sequence (items.map Scalar.literal) ∨ ∃ s, items = [s] ∧ literal = s.literal) ∧
      typedLiteral (.array k) (.sequence (items.map Scalar.literal)) = .ok v := by
  by_cases sequence : ∃ literals, literal = .sequence literals
  · obtain ⟨literals, rfl⟩ := sequence
    obtain ⟨words, spelled, decoded⟩ := ok_of_bind (x := readAll (itemWord (.array k)) literals) typed
    obtain ⟨items, rfl, rfl⟩ := (readAll_itemWord_iff _ literals words).mp spelled
    refine ⟨items, ?_, Or.inl rfl, typed⟩
    rintro rfl
    cases decoded
  · have alone : typedLiteral (.array k) literal = typedLiteral (.array k) (.sequence [literal]) := by
      cases literal with
      | sequence literals => exact absurd ⟨literals, rfl⟩ sequence
      | _ => rfl
    rw [alone] at typed
    obtain ⟨words, spelled, -⟩ := ok_of_bind (x := readAll (itemWord (.array k)) [literal]) typed
    obtain ⟨items, single, -⟩ := (readAll_itemWord_iff _ [literal] words).mp spelled
    obtain ⟨s, rfl, rfl⟩ := List.map_eq_singleton_iff.mp single.symm
    exact ⟨[s], List.cons_ne_nil s [], Or.inr ⟨s, rfl, rfl⟩, typed⟩

/-- A named kind of integers never wraps around and stores one element for each item: integers as they are,
and reals as the integers that their texts write, which up to `2 ^ 53` are the reals themselves. A sequence of
integers has a value just where the kind holds them all. -/
theorem typed_integers_kept {k : ArrayKind} {w : Width} (integers : k.OfIntegers w) (subject : String)
    {token : String} (named : Kind.ofToken? token = some (.array k)) :
    (∀ (literal : Yaml) (v : Value), infer subject (.mapping [(.string token, literal)]) = .ok v →
      ∃ (items : List Scalar) (elements : List k.Element),
        (literal = .sequence (items.map Scalar.literal) ∨ ∃ s, items = [s] ∧ literal = s.literal) ∧
        v = .array k elements ∧
        List.Forall₂ (fun s x => ∃ n, Keeps s n ∧ k.toScalar x = .int n) items elements) ∧
    ∀ is : List ℤ, is ≠ [] →
      ((∃ v, infer subject (.mapping [(.string token, .sequence (is.map .integer))]) = .ok v) ↔
        ∀ i ∈ is, k.Holds i) := by
  constructor
  · intro literal v inferred
    rw [infer_eq_ok_iff, ofLiteral_named named] at inferred
    obtain ⟨items, filled, shape, typed⟩ := typedLiteral_cases inferred
    obtain ⟨elements, rfl, read⟩ := (typedLiteral_sequence_iff k filled v).mp typed
    exact ⟨items, elements, shape, rfl, read.imp fun s x => keeps_of_readElement integers⟩
  · intro is filled
    have filled' : is.map Scalar.int ≠ [] := by simpa using filled
    have each : (∃ elements,
          List.Forall₂ (fun s x => readElement k s.word = .ok x) (is.map Scalar.int) elements) ↔
        ∀ s ∈ is.map Scalar.int, ∃ x, readElement k s.word = .ok x := by
      simp only [← exists_readAll_iff, readAll_eq_ok_iff]
    simp only [infer_eq_ok_iff, ofLiteral_named named, map_integer, typedLiteral_sequence_iff k filled']
    constructor
    · rintro ⟨v, elements, -, read⟩ i member
      exact (exists_readElement_iff integers i).mp (each.mp ⟨elements, read⟩ _ (List.mem_map_of_mem member))
    · intro holds
      have words : ∀ s ∈ is.map Scalar.int, ∃ x, readElement k s.word = .ok x := by
        intro s member
        obtain ⟨i, inside, rfl⟩ := List.mem_map.mp member
        exact (exists_readElement_iff integers i).mpr (holds i inside)
      obtain ⟨elements, read⟩ := each.mpr words
      exact ⟨_, elements, rfl, read⟩

def counts : Yaml := .sequence [.integer 65535, .real (.ofInt .double 3)]

theorem typed_integers_kept_counts :
    (ArrayKind.natural .w16).OfIntegers .w16 ∧
      Kind.ofToken? "natural16" = some (.array (.natural .w16)) ∧
      (∃ items : List Scalar, counts = .sequence (items.map Scalar.literal) ∧
        List.Forall₂ (fun s x => ∃ n, Keeps s n ∧ (ArrayKind.natural .w16).toScalar x = .int n) items
          [(65535 : BitVec 16), (3 : BitVec 16)]) ∧
      ¬∃ v, infer "tank.level" (.mapping [(.string "natural16", .sequence [.integer 65536])]) = .ok v := by
  have named : Kind.ofToken? "natural16" = some (.array (.natural .w16)) := by decide
  obtain ⟨kept, range⟩ := typed_integers_kept (.natural .w16) "tank.level" named
  have inferred : infer "tank.level" (.mapping [(.string "natural16", counts)]) =
      .ok (.array (.natural .w16) [(65535 : BitVec 16), (3 : BitVec 16)]) := by decide +kernel
  obtain ⟨items, elements, shape, same, each⟩ := kept counts _ inferred
  cases same
  refine ⟨.natural .w16, named, ⟨items, ?_, each⟩, ?_⟩
  · rcases shape with sequence | ⟨s, -, scalar⟩
    · exact sequence
    · cases s <;> cases scalar
  · intro accepted
    have holds := (range [65536] (by decide)).mp accepted 65536 List.mem_cons_self
    exact absurd holds.2 (by decide)

def volume : Floating .double := .ofInt .double (2 ^ 63)

theorem typed_real_altered :
    volume.rational? = some (2 ^ 63) ∧
      infer "tank.volume" (.mapping [(.string "natural64", .real volume)]) =
        .ok (.array (.natural .w64) [(9223372036854776000 : BitVec 64)]) ∧
      (ArrayKind.natural .w64).toScalar (9223372036854776000 : BitVec 64) ≠ .int (2 ^ 63) := by
  refine ⟨?_, ?_, ?_⟩
  · decide +kernel
  · decide +kernel
  · decide +kernel

end RegisterPlane.Assignment
