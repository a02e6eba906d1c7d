import RegisterPlane.Proofs.Json.Scan
import RegisterPlane.Proofs.Text.Hex

namespace RegisterPlane.Json

def IsPrinted (cs : List Char) : Prop := ∀ c ∈ cs, 0x20 ≤ c.toNat

theorem isPrinted_nil : IsPrinted [] := by
  intro c member
  cases member

theorem isPrinted_cons {c : Char} {cs : List Char} (first : 0x20 ≤ c.toNat) (rest : IsPrinted cs) :
    IsPrinted (c :: cs) := by
  intro d member
  rcases List.mem_cons.mp member with here | there
  · rw [here]
    exact first
  · exact rest d there

theorem isPrinted_append {front back : List Char} (first : IsPrinted front) (rest : IsPrinted back) :
    IsPrinted (front ++ back) := by
  intro c member
  rcases List.mem_append.mp member with early | late
  · exact first c early
  · exact rest c late

theorem isPrinted_word {c : Char} (word : isWordChar c = true) : 0x20 ≤ c.toNat := by
  by_contra control
  have table : ∀ n : Fin 32, isWordChar (Char.ofNat n.val) = false := by decide
  have here := table ⟨c.toNat, by omega⟩
  rw [Char.ofNat_toNat, word] at here
  cases here

theorem isPrinted_words {cs : List Char} (words : ∀ c ∈ cs, isWordChar c = true) : IsPrinted cs := by
  intro c member
  exact isPrinted_word (words c member)

theorem isPrinted_escapeChar (c : Char) : IsPrinted (escapeChar c) := by
  have hexDigit : ∀ n, 0x20 ≤ (Text.hexDigit n).toNat := by
    intro n
    rw [Text.Hex.hexDigit_toNat]
    split <;> omega
  rcases escapeChar_cases c with ⟨mark, text, -, shown, -⟩ | ⟨-, text⟩ | ⟨text, -, -, shown⟩
  · rw [text]
    exact isPrinted_cons (by decide) (isPrinted_cons shown isPrinted_nil)
  · rw [text]
    apply isPrinted_cons (by decide)
    apply isPrinted_cons (by decide)
    apply isPrinted_cons (by decide)
    apply isPrinted_cons (by decide)
    exact isPrinted_cons (hexDigit _) (isPrinted_cons (hexDigit _) isPrinted_nil)
  · rw [text]
    exact isPrinted_cons (by omega) isPrinted_nil

theorem isPrinted_stringText (text : String) : IsPrinted (stringText text) := by
  have inner : IsPrinted (text.toList.flatMap escapeChar) := by
    intro c member
    obtain ⟨d, -, here⟩ := List.mem_flatMap.mp member
    exact isPrinted_escapeChar d c here
  exact isPrinted_append (isPrinted_cons (by decide) inner) (isPrinted_cons (by decide) isPrinted_nil)

mutual

theorem isPrinted_compact (j : Json) (spelled : j.IsSpelled) : IsPrinted j.compact := by
  match j with
  | null =>
      have words : "null".toList.all isWordChar = true := by decide
      exact isPrinted_words (List.all_eq_true.mp words)
  | bool true =>
      have words : "true".toList.all isWordChar = true := by decide
      exact isPrinted_words (List.all_eq_true.mp words)
  | bool false =>
      have words : "false".toList.all isWordChar = true := by decide
      exact isPrinted_words (List.all_eq_true.mp words)
  | number n => exact isPrinted_words spelled.chars
  | string text => exact isPrinted_stringText text
  | unreadable => exact spelled.elim
  | array items =>
      exact isPrinted_append (isPrinted_cons (by decide) (isPrinted_items items spelled))
        (isPrinted_cons (by decide) isPrinted_nil)
  | object members =>
      exact isPrinted_append (isPrinted_cons (by decide) (isPrinted_members members spelled))
        (isPrinted_cons (by decide) isPrinted_nil)

theorem isPrinted_items (items : List Json) (spelled : AreSpelled items) :
    IsPrinted (compactItems items) := by
  match items with
  | [] => exact isPrinted_nil
  | [item] => exact isPrinted_compact item spelled.1
  | item :: next :: others =>
      exact isPrinted_append (isPrinted_compact item spelled.1)
        (isPrinted_cons (by decide) (isPrinted_items (next :: others) spelled.2))

theorem isPrinted_members (members : List (String × Json)) (spelled : MembersSpelled members) :
    IsPrinted (compactMembers members) := by
  match members with
  | [] => exact isPrinted_nil
  | [(name, value)] =>
      exact isPrinted_append (isPrinted_stringText name)
        (isPrinted_cons (by decide) (isPrinted_compact value spelled.1))
  | (name, value) :: next :: others =>
      exact isPrinted_append
        (isPrinted_append (isPrinted_stringText name)
          (isPrinted_cons (by decide) (isPrinted_compact value spelled.1)))
        (isPrinted_cons (by decide) (isPrinted_members (next :: others) spelled.2))

end

end RegisterPlane.Json
