import RegisterPlane.Proofs.Json.Spelling

namespace RegisterPlane.Json

mutual

def tokens : Json → List Token
  | null => [.null]
  | bool b => [.bool b]
  | number n => [.number n]
  | string text => [.string (some text)]
  | unreadable => [.string none]
  | array items => .openBracket :: tokensOfItems items ++ [.closeBracket]
  | object members => .openBrace :: tokensOfMembers members ++ [.closeBrace]

def tokensOfItems : List Json → List Token
  | [] => []
  | [item] => tokens item
  | item :: items => tokens item ++ .comma :: tokensOfItems items

def tokensOfMembers : List (String × Json) → List Token
  | [] => []
  | [(name, value)] => .string (some name) :: .colon :: tokens value
  | (name, value) :: members =>
    .string (some name) :: .colon :: tokens value ++ .comma :: tokensOfMembers members

end

mutual

/-- Everything in the document has a text, and every number is spelled as it is read. -/
def IsSpelled : Json → Prop
  | number n => n.IsSpelled
  | array items => AreSpelled items
  | object members => MembersSpelled members
  | unreadable => False
  | _ => True

def AreSpelled : List Json → Prop
  | [] => True
  | item :: items => IsSpelled item ∧ AreSpelled items

def MembersSpelled : List (String × Json) → Prop
  | [] => True
  | (_, value) :: members => IsSpelled value ∧ MembersSpelled members

end

theorem scan_cons {mode mode' : Mode} {c : Char} {completed : List Token}
    (stepped : step mode c = some (completed, mode')) (cs : List Char) :
    scan mode (c :: cs) = (scan mode' cs).map (completed ++ ·) := by
  rw [scan, stepped]
  change (scan mode' cs >>= fun rest => pure (completed ++ rest)) = _
  cases scan mode' cs <;> rfl

theorem scan_quiet {mode mode' : Mode} {c : Char} (stepped : step mode c = some ([], mode'))
    (cs : List Char) : scan mode (c :: cs) = scan mode' cs := by
  rw [scan_cons stepped]
  cases scan mode' cs <;> rfl

theorem hexValue_hexDigit (n : Nat) : hexValue? (Text.hexDigit n) = some (n % 16) := by
  have table : ∀ d : Fin 16, hexValue? (Text.hexDigit d.val) = some d.val := by decide
  have small : n % 16 < 16 := Nat.mod_lt n (by decide)
  have digit : Text.hexDigit n = Text.hexDigit (n % 16) := by
    unfold Text.hexDigit
    rw [Nat.mod_mod]
  rw [digit]
  exact table ⟨n % 16, small⟩

theorem escapeChar_cases (c : Char) :
    (∃ mark, escapeChar c = ['\\', mark] ∧ mark ≠ 'u' ∧ 0x20 ≤ mark.toNat ∧
        escapedChar? mark = some c) ∨
      (c.toNat < 0x20 ∧ escapeChar c =
        ['\\', 'u', '0', '0', Text.hexDigit (c.toNat / 16), Text.hexDigit c.toNat]) ∨
      (escapeChar c = [c] ∧ c ≠ '"' ∧ c ≠ '\\' ∧ ¬c.toNat < 0x20) := by
  have marked : ∀ {mark d : Char}, c = d → escapeChar d = ['\\', mark] →
      mark ≠ 'u' ∧ 0x20 ≤ mark.toNat → escapedChar? mark = some d →
      ∃ mark, escapeChar c = ['\\', mark] ∧ mark ≠ 'u' ∧ 0x20 ≤ mark.toNat ∧
        escapedChar? mark = some c := by
    rintro mark d rfl escaped ⟨notHex, shown⟩ back
    exact ⟨mark, escaped, notHex, shown, back⟩
  by_cases quote : c = '"'
  · exact Or.inl (marked quote rfl (by decide) rfl)
  by_cases backslash : c = '\\'
  · exact Or.inl (marked backslash rfl (by decide) rfl)
  by_cases backspace : c = '\x08'
  · exact Or.inl (marked backspace rfl (by decide) rfl)
  by_cases tab : c = '\t'
  · exact Or.inl (marked tab rfl (by decide) rfl)
  by_cases feed : c = '\n'
  · exact Or.inl (marked feed rfl (by decide) rfl)
  by_cases form : c = '\x0c'
  · exact Or.inl (marked form rfl (by decide) rfl)
  by_cases return' : c = '\r'
  · exact Or.inl (marked return' rfl (by decide) rfl)
  right
  unfold escapeChar
  rw [if_neg quote, if_neg backslash, if_neg backspace, if_neg tab, if_neg feed, if_neg form,
    if_neg return']
  by_cases control : c.toNat < 0x20
  · exact Or.inl ⟨control, if_pos control⟩
  · exact Or.inr ⟨if_neg control, quote, backslash, control⟩

theorem scan_escapeChar (units : List Nat) (c : Char) (rest : List Char) :
    scan (.text units) (escapeChar c ++ rest) = scan (.text (c.toNat :: units)) rest := by
  have escape : step (.text units) '\\' = some ([], .escape units) := rfl
  rcases escapeChar_cases c with ⟨mark, text, notHex, -, back⟩ | ⟨control, text⟩ | ⟨text, plain⟩
  · have done : step (.escape units) mark = some ([], .text (c.toNat :: units)) := by
      rw [step, if_neg notHex, back]
      rfl
    rw [text]
    change scan (.text units) ('\\' :: mark :: rest) = _
    rw [scan_quiet escape, scan_quiet done]
  · have high := hexValue_hexDigit (c.toNat / 16)
    have low := hexValue_hexDigit c.toNat
    have code : (0 * 16 + c.toNat / 16 % 16) * 16 + c.toNat % 16 = c.toNat := by omega
    have hex : step (.escape units) 'u' = some ([], .hex units 0 0) := rfl
    have first : step (.hex units 0 0) '0' = some ([], .hex units 1 0) := rfl
    have second : step (.hex units 1 0) '0' = some ([], .hex units 2 0) := rfl
    have third : step (.hex units 2 0) (Text.hexDigit (c.toNat / 16)) =
        some ([], .hex units 3 (0 * 16 + c.toNat / 16 % 16)) := by
      rw [step, high]
      rfl
    have fourth : step (.hex units 3 (0 * 16 + c.toNat / 16 % 16)) (Text.hexDigit c.toNat) =
        some ([], .text (c.toNat :: units)) := by
      rw [step, low]
      change some ([], Mode.text (((0 * 16 + c.toNat / 16 % 16) * 16 + c.toNat % 16) :: units)) = _
      rw [code]
    rw [text]
    change scan (.text units) ('\\' :: 'u' :: '0' :: '0' :: Text.hexDigit (c.toNat / 16) ::
      Text.hexDigit c.toNat :: rest) = _
    rw [scan_quiet escape, scan_quiet hex, scan_quiet first, scan_quiet second, scan_quiet third,
      scan_quiet fourth]
  · obtain ⟨notQuote, notBackslash, shown⟩ := plain
    rw [text]
    apply scan_quiet
    rw [step, if_neg notQuote, if_neg notBackslash, if_neg shown]

theorem scan_chars (units : List Nat) (cs rest : List Char) :
    scan (.text units) (cs.flatMap escapeChar ++ rest) =
      scan (.text ((cs.map Char.toNat).reverse ++ units)) rest := by
  induction cs generalizing units with
  | nil => rfl
  | cons c cs ih =>
      rw [List.flatMap_cons, List.append_assoc, scan_escapeChar, ih, List.map_cons, List.reverse_cons,
        List.append_assoc, List.singleton_append]

theorem not_surrogate (c : Char) : isHighSurrogate c.toNat = false ∧ isLowSurrogate c.toNat = false := by
  have valid : c.toNat < 0xD800 ∨ 0xDFFF < c.toNat ∧ c.toNat < 0x110000 := c.valid
  unfold isHighSurrogate isLowSurrogate
  simp only [Bool.and_eq_false_iff, decide_eq_false_iff_not]
  omega

theorem charsOfUnits_map (cs : List Char) : charsOfUnits? (cs.map Char.toNat) = some cs := by
  induction cs with
  | nil => rfl
  | cons c rest ih =>
      obtain ⟨notHigh, notLow⟩ := not_surrogate c
      cases rest with
      | nil => simp [charsOfUnits?, notHigh, notLow]
      | cons d ds =>
          rw [List.map_cons, List.map_cons, charsOfUnits?]
          rw [List.map_cons] at ih
          simp [notHigh, notLow, ih]

theorem scan_stringText (text : String) (rest : List Char) :
    scan .between (stringText text ++ rest) = (scan .between rest).map (.string (some text) :: ·) := by
  have begin' : step .between '"' = some ([], .text []) := rfl
  have spelled : stringText text ++ rest = '"' :: (text.toList.flatMap escapeChar ++ '"' :: rest) := by
    simp [stringText]
  have ends : step (.text ((text.toList.map Char.toNat).reverse ++ [])) '"' =
      some ([.string (some text)], .between) := by
    rw [List.append_nil, step, if_pos rfl, List.reverse_reverse, charsOfUnits_map, Option.map_some,
      String.ofList_toList]
  rw [spelled, scan_quiet begin', scan_chars, scan_cons ends]
  rfl

/-- No word goes on here. -/
def Delimited (rest : List Char) : Prop := ∀ c ∈ rest.head?, isWordChar c = false

theorem delimited_cons {c : Char} (other : isWordChar c = false) (rest : List Char) :
    Delimited (c :: rest) := by
  intro d member
  rw [← Option.some.inj member]
  exact other

theorem delimited_nil : Delimited [] := by
  intro c member
  cases member

theorem step_between_word {c : Char} (word : isWordChar c = true) :
    step .between c = some ([], .word [c]) := by
  have other : ∀ {d : Char}, isWordChar d = false → c ≠ d := by
    rintro d notWord rfl
    rw [word] at notWord
    cases notWord
  have space : isSpace c = false := by
    unfold isSpace
    simp [@other ' ' (by decide), @other '\t' (by decide), @other '\n' (by decide),
      @other '\r' (by decide)]
  change stepBetween c = _
  unfold stepBetween
  rw [space, if_neg Bool.false_ne_true, if_neg (other (by decide)), if_neg (other (by decide)),
    if_neg (other (by decide)), if_neg (other (by decide)), if_neg (other (by decide)),
    if_neg (other (by decide)), if_neg (other (by decide)), if_pos word]

theorem scan_wordChars (taken : List Char) {cs : List Char} (word : ∀ c ∈ cs, isWordChar c = true)
    (rest : List Char) : scan (.word taken) (cs ++ rest) = scan (.word (cs.reverse ++ taken)) rest := by
  induction cs generalizing taken with
  | nil => rfl
  | cons c cs ih =>
      have here : step (.word taken) c = some ([], .word (c :: taken)) := by
        rw [step, if_pos (word c List.mem_cons_self)]
      rw [List.cons_append, scan_quiet here, ih _ fun d member => word d (List.mem_cons_of_mem c member),
        List.reverse_cons, List.append_assoc, List.singleton_append]

theorem scan_word {cs : List Char} {token : Token} (filled : cs ≠ [])
    (word : ∀ c ∈ cs, isWordChar c = true) (reads : wordToken? cs = some token) {rest : List Char}
    (ends : Delimited rest) :
    scan .between (cs ++ rest) = (scan .between rest).map (token :: ·) := by
  obtain ⟨c, others, rfl⟩ := List.exists_cons_of_ne_nil filled
  have begin' := step_between_word (word c List.mem_cons_self)
  have back : ((others.reverse ++ [c]).reverse) = c :: others := by simp
  rw [List.cons_append, scan_quiet begin',
    scan_wordChars [c] (fun d member => word d (List.mem_cons_of_mem c member))]
  cases rest with
  | nil =>
      rw [scan, finish, back, reads]
      rfl
  | cons d ds =>
      have other := ends d rfl
      rw [scan, step, other, if_neg Bool.false_ne_true, back, reads, scan, step]
      cases stepBetween d with
      | none => rfl
      | some stepped =>
          obtain ⟨completed, mode⟩ := stepped
          change (scan mode ds >>= fun rest => pure (token :: completed ++ rest)) =
            (scan mode ds >>= fun rest => pure (completed ++ rest)).map (token :: ·)
          cases scan mode ds <;> rfl

theorem scan_mark {c : Char} {token : Token} (here : step .between c = some ([token], .between))
    (rest : List Char) : scan .between (c :: rest) = (scan .between rest).map (token :: ·) :=
  scan_cons here rest

mutual

/-- The text of a document is scanned into its tokens, whatever follows it. -/
theorem scan_compact (j : Json) (spelled : j.IsSpelled) {rest : List Char} (ends : Delimited rest) :
    scan .between (j.compact ++ rest) = (scan .between rest).map (j.tokens ++ ·) := by
  match j with
  | null => exact scan_word (by decide) (List.all_eq_true.mp (by decide)) (by decide) ends
  | bool true => exact scan_word (by decide) (List.all_eq_true.mp (by decide)) (by decide) ends
  | bool false => exact scan_word (by decide) (List.all_eq_true.mp (by decide)) (by decide) ends
  -- a number ends only where no further character of a word follows
  | number n => exact scan_word spelled.filled spelled.chars spelled.reads ends
  | string text => exact scan_stringText text rest
  | unreadable => exact spelled.elim
  | array items =>
      have inner := scan_items items spelled (delimited_cons (c := ']') (by decide) rest)
      have opens : step .between '[' = some ([.openBracket], .between) := rfl
      have closes : step .between ']' = some ([.closeBracket], .between) := rfl
      have text : compact (array items) ++ rest = '[' :: (compactItems items ++ ']' :: rest) := by
        simp [compact]
      rw [text, scan_mark opens, inner, scan_mark closes]
      simp [tokens, Function.comp_def]
  | object members =>
      have inner := scan_members members spelled (delimited_cons (c := '\x7d') (by decide) rest)
      have opens : step .between '\x7b' = some ([.openBrace], .between) := rfl
      have closes : step .between '\x7d' = some ([.closeBrace], .between) := rfl
      have text : compact (object members) ++ rest =
          '\x7b' :: (compactMembers members ++ '\x7d' :: rest) := by
        simp [compact]
      rw [text, scan_mark opens, inner, scan_mark closes]
      simp [tokens, Function.comp_def]

theorem scan_items (items : List Json) (spelled : AreSpelled items) {rest : List Char}
    (ends : Delimited rest) :
    scan .between (compactItems items ++ rest) =
      (scan .between rest).map (tokensOfItems items ++ ·) := by
  match items with
  | [] => simp [compactItems, tokensOfItems]
  | [item] => exact scan_compact item spelled.1 ends
  | item :: next :: items =>
      have first := scan_compact item spelled.1
        (delimited_cons (c := ',') (by decide) (compactItems (next :: items) ++ rest))
      have others := scan_items (next :: items) spelled.2 ends
      have comma : step .between ',' = some ([.comma], .between) := rfl
      have text : compactItems (item :: next :: items) ++ rest =
          compact item ++ ',' :: (compactItems (next :: items) ++ rest) := by
        simp [compactItems]
      rw [text, first, scan_mark comma, others]
      simp [tokensOfItems, Function.comp_def]

theorem scan_members (members : List (String × Json)) (spelled : MembersSpelled members)
    {rest : List Char} (ends : Delimited rest) :
    scan .between (compactMembers members ++ rest) =
      (scan .between rest).map (tokensOfMembers members ++ ·) := by
  have colon : step .between ':' = some ([.colon], .between) := rfl
  match members with
  | [] => simp [compactMembers, tokensOfMembers]
  | [(name, value)] =>
      have text : compactMembers [(name, value)] ++ rest =
          stringText name ++ ':' :: (compact value ++ rest) := by
        simp [compactMembers]
      rw [text, scan_stringText, scan_mark colon, scan_compact value spelled.1 ends]
      simp [tokensOfMembers, Function.comp_def]
  | (name, value) :: next :: members =>
      have first := scan_compact value spelled.1
        (delimited_cons (c := ',') (by decide) (compactMembers (next :: members) ++ rest))
      have others := scan_members (next :: members) spelled.2 ends
      have comma : step .between ',' = some ([.comma], .between) := rfl
      have text : compactMembers ((name, value) :: next :: members) ++ rest =
          stringText name ++ ':' :: (compact value ++
            ',' :: (compactMembers (next :: members) ++ rest)) := by
        simp [compactMembers]
      rw [text, scan_stringText, scan_mark colon, first, scan_mark comma, others]
      simp [tokensOfMembers, Function.comp_def]

end

end RegisterPlane.Json
