import RegisterPlane.Proofs.Json.RoundTrip
import RegisterPlane.Text.Blank

namespace RegisterPlane.Json

theorem scan_space {c : Char} (space : isSpace c = true) (rest : List Char) :
    scan .between (c :: rest) = scan .between rest := by
  have stepped : step .between c = some ([], .between) := by
    change stepBetween c = _
    rw [stepBetween, if_pos space]
  exact scan_quiet stepped rest

theorem scan_spaces {cs : List Char} (spaces : ∀ c ∈ cs, isSpace c = true) (rest : List Char) :
    scan .between (cs ++ rest) = scan .between rest := by
  induction cs with
  | nil => rfl
  | cons c cs ih =>
      rw [List.cons_append, scan_space (spaces c List.mem_cons_self),
        ih fun d member => spaces d (List.mem_cons_of_mem c member)]

theorem scan_lineBreak (depth : Nat) (rest : List Char) :
    scan .between (lineBreak depth ++ rest) = scan .between rest := by
  apply scan_spaces
  intro c member
  rcases List.mem_cons.mp member with rfl | blank
  · rfl
  · rw [List.eq_of_mem_replicate blank]
    rfl

theorem delimited_lineBreak (depth : Nat) (rest : List Char) : Delimited (lineBreak depth ++ rest) :=
  delimited_cons (by decide) _

mutual

theorem scan_pretty (j : Json) (spelled : j.IsSpelled) (depth : Nat) {rest : List Char}
    (ends : Delimited rest) :
    scan .between (j.pretty depth ++ rest) = (scan .between rest).map (j.tokens ++ ·) := by
  match j with
  | null => exact scan_compact null spelled ends
  | bool true => exact scan_compact (bool true) spelled ends
  | bool false => exact scan_compact (bool false) spelled ends
  | number n => exact scan_compact (number n) spelled ends
  | string text => exact scan_compact (string text) spelled ends
  | unreadable => exact spelled.elim
  | array [] => exact scan_compact (array []) spelled ends
  | object [] => exact scan_compact (object []) spelled ends
  | array (item :: items) =>
      have inner := scan_prettyItems (item :: items) spelled (depth + 1)
        (delimited_lineBreak depth (']' :: rest))
      have opens : step .between '[' = some ([.openBracket], .between) := rfl
      have closes : step .between ']' = some ([.closeBracket], .between) := rfl
      have text : pretty depth (array (item :: items)) ++ rest =
          '[' :: (prettyItems (depth + 1) (item :: items) ++ (lineBreak depth ++ ']' :: rest)) := by
        simp [pretty]
      rw [text, scan_mark opens, inner, scan_lineBreak, scan_mark closes]
      simp [tokens, Function.comp_def]
  | object (member :: members) =>
      have inner := scan_prettyMembers (member :: members) spelled (depth + 1)
        (delimited_lineBreak depth ('\x7d' :: rest))
      have opens : step .between '\x7b' = some ([.openBrace], .between) := rfl
      have closes : step .between '\x7d' = some ([.closeBrace], .between) := rfl
      have text : pretty depth (object (member :: members)) ++ rest =
          '\x7b' :: (prettyMembers (depth + 1) (member :: members) ++
            (lineBreak depth ++ '\x7d' :: rest)) := by
        simp [pretty]
      rw [text, scan_mark opens, inner, scan_lineBreak, scan_mark closes]
      simp [tokens, Function.comp_def]

theorem scan_prettyItems (items : List Json) (spelled : AreSpelled items) (depth : Nat)
    {rest : List Char} (ends : Delimited rest) :
    scan .between (prettyItems depth items ++ rest) =
      (scan .between rest).map (tokensOfItems items ++ ·) := by
  match items with
  | [] => simp [prettyItems, tokensOfItems]
  | [item] =>
      have text : prettyItems depth [item] ++ rest = lineBreak depth ++ (pretty depth item ++ rest) := by
        simp [prettyItems]
      rw [text, scan_lineBreak]
      exact scan_pretty item spelled.1 depth ends
  | item :: next :: items =>
      have first := scan_pretty item spelled.1 depth
        (delimited_cons (c := ',') (by decide) (prettyItems depth (next :: items) ++ rest))
      have others := scan_prettyItems (next :: items) spelled.2 depth ends
      have comma : step .between ',' = some ([.comma], .between) := rfl
      have text : prettyItems depth (item :: next :: items) ++ rest =
          lineBreak depth ++ (pretty depth item ++ ',' :: (prettyItems depth (next :: items) ++ rest)) := by
        simp [prettyItems]
      rw [text, scan_lineBreak, first, scan_mark comma, others]
      simp [tokensOfItems, Function.comp_def]

theorem scan_prettyMembers (members : List (String × Json)) (spelled : MembersSpelled members)
    (depth : Nat) {rest : List Char} (ends : Delimited rest) :
    scan .between (prettyMembers depth members ++ rest) =
      (scan .between rest).map (tokensOfMembers members ++ ·) := by
  have colon : step .between ':' = some ([.colon], .between) := rfl
  have space : isSpace ' ' = true := rfl
  match members with
  | [] => simp [prettyMembers, tokensOfMembers]
  | [(name, value)] =>
      have text : prettyMembers depth [(name, value)] ++ rest =
          lineBreak depth ++ (stringText name ++ ':' :: ' ' :: (pretty depth value ++ rest)) := by
        simp [prettyMembers]
      rw [text, scan_lineBreak, scan_stringText, scan_mark colon, scan_space space,
        scan_pretty value spelled.1 depth ends]
      simp [tokensOfMembers, Function.comp_def]
  | (name, value) :: next :: members =>
      have first := scan_pretty value spelled.1 depth
        (delimited_cons (c := ',') (by decide) (prettyMembers depth (next :: members) ++ rest))
      have others := scan_prettyMembers (next :: members) spelled.2 depth ends
      have comma : step .between ',' = some ([.comma], .between) := rfl
      have text : prettyMembers depth ((name, value) :: next :: members) ++ rest =
          lineBreak depth ++ (stringText name ++ ':' :: ' ' :: (pretty depth value ++
            ',' :: (prettyMembers depth (next :: members) ++ rest))) := by
        simp [prettyMembers]
      rw [text, scan_lineBreak, scan_stringText, scan_mark colon, scan_space space, first,
        scan_mark comma, others]
      simp [tokensOfMembers, Function.comp_def]

end

theorem read_page {j : Json} (spelled : j.IsSpelled) : read? j.page = some j := by
  have scanned := scan_pretty j spelled 0 delimited_nil
  rw [List.append_nil] at scanned
  have text : j.page.toList = j.pretty 0 := String.toList_ofList
  have done : scan .between [] = some [] := rfl
  unfold read?
  rw [text, scanned, done]
  change ofTokens? (j.tokens ++ []) = _
  rw [List.append_nil, ofTokens_tokens]

theorem toNat_of_isWordChar {c : Char} (word : isWordChar c = true) : 43 ≤ c.toNat ∧ c.toNat ≤ 122 := by
  simp only [isWordChar, Bool.or_eq_true, Bool.and_eq_true, decide_eq_true_eq, beq_iff_eq,
    Text.isDigit_iff, Char.le_def, UInt32.le_iff_toNat_le] at word
  rcases word with ((((digit | lower) | upper) | rfl) | rfl) | rfl
  · omega
  · exact ⟨Nat.le_trans (by decide) lower.1, lower.2⟩
  · exact ⟨Nat.le_trans (by decide) upper.1, Nat.le_trans upper.2 (by decide)⟩
  · decide
  · decide
  · decide

theorem step_blank {c : Char} (blank : Text.isBlank c = true) :
    step .between c = some ([], .between) ∨ step .between c = none := by
  change stepBetween c = _ ∨ stepBetween c = _
  by_cases space : isSpace c = true
  · left
    rw [stepBetween, if_pos space]
  · right
    have other : ∀ {d : Char}, Text.isBlank d = false → c ≠ d := by
      rintro d filled rfl
      rw [blank] at filled
      cases filled
    have noWord : ¬isWordChar c = true := by
      intro word
      have range := toNat_of_isWordChar word
      simp [Text.isBlank] at blank
      omega
    unfold stepBetween
    rw [if_neg space, if_neg (other (by decide)), if_neg (other (by decide)), if_neg (other (by decide)),
      if_neg (other (by decide)), if_neg (other (by decide)), if_neg (other (by decide)),
      if_neg (other (by decide)), if_neg noWord]

theorem scan_blank {cs : List Char} (blank : ∀ c ∈ cs, Text.isBlank c = true) :
    scan .between cs = some [] ∨ scan .between cs = none := by
  induction cs with
  | nil => exact Or.inl rfl
  | cons c cs ih =>
      rcases step_blank (blank c List.mem_cons_self) with space | refused
      · rw [scan_quiet space]
        exact ih fun d member => blank d (List.mem_cons_of_mem c member)
      · right
        rw [scan, refused]
        rfl

theorem read_blank {text : String} (blank : ∀ c ∈ text.toList, Text.isBlank c = true) :
    read? text = none := by
  unfold read?
  rcases scan_blank blank with empty | refused
  · rw [empty]
    rfl
  · rw [refused]
    rfl

end RegisterPlane.Json
