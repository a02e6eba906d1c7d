import RegisterPlane.Json.Reader
import RegisterPlane.Proofs.Json.Scan

namespace RegisterPlane.Json

namespace Progress

theorem run_cons {p q : Progress} {token : Token} (stepped : p.step token = some q)
    (rest : List Token) : p.run (token :: rest) = q.run rest := by
  rw [run, stepped]
  rfl

theorem run_itemOrEnd (j : Json) (frames : List Frame) (rest : List Token) :
    run ⟨.itemOrEnd, frames⟩ (j.tokens ++ rest) = run ⟨.value, frames⟩ (j.tokens ++ rest) := by
  cases j with
  | array items => rfl
  | object members => rfl
  | _ => rfl

theorem run_single {j : Json} {frames : List Frame} {token : Token}
    (begins : beginValue frames token = complete j frames) (rest : List Token) :
    run ⟨.value, frames⟩ (token :: rest) = (complete j frames).bind (·.run rest) := by
  rw [run]
  change (beginValue frames token >>= fun q => q.run rest) = _
  rw [begins]
  rfl

mutual

/-- The tokens of a document complete the document, whatever is open around it. -/
theorem run_tokens (j : Json) (frames : List Frame) (rest : List Token) :
    run ⟨.value, frames⟩ (j.tokens ++ rest) = (complete j frames).bind (·.run rest) := by
  match j with
  | null => exact run_single rfl rest
  | bool b => exact run_single rfl rest
  | number n => exact run_single rfl rest
  | string text => exact run_single rfl rest
  | unreadable => exact run_single rfl rest
  | array [] => rfl
  | array (item :: items) =>
      have opens : step ⟨.value, frames⟩ .openBracket = some ⟨.itemOrEnd, .array [] :: frames⟩ := rfl
      have inner := run_items (item :: items) (List.cons_ne_nil _ _) [] frames rest
      have first : ∃ more, tokensOfItems (item :: items) = item.tokens ++ more := by
        cases items with
        | nil => exact ⟨[], (List.append_nil _).symm⟩
        | cons next others => exact ⟨_, rfl⟩
      obtain ⟨more, split⟩ := first
      -- behind the bracket the array may end as well, which the tokens of an item exclude
      change run ⟨.value, frames⟩ (.openBracket :: tokensOfItems (item :: items) ++ [.closeBracket] ++ rest) = _
      rw [List.append_assoc, List.cons_append, run_cons opens]
      rw [split, List.append_assoc] at inner ⊢
      rw [run_itemOrEnd]
      exact inner
  | object [] => rfl
  | object (member :: members) =>
      have opens : step ⟨.value, frames⟩ .openBrace = some ⟨.nameOrEnd, .object (some []) :: frames⟩ := rfl
      have inner := run_members (member :: members) (List.cons_ne_nil _ _) [] frames rest
      have first : ∃ more, tokensOfMembers (member :: members) = .string (some member.1) :: more := by
        cases members with
        | nil => exact ⟨_, rfl⟩
        | cons next others => exact ⟨_, rfl⟩
      obtain ⟨more, split⟩ := first
      change run ⟨.value, frames⟩ (.openBrace :: tokensOfMembers (member :: members) ++ [.closeBrace] ++ rest) = _
      rw [List.append_assoc, List.cons_append, run_cons opens]
      rw [split] at inner ⊢
      exact inner

theorem run_items (items : List Json) (some_item : items ≠ []) (taken : List Json)
    (frames : List Frame) (rest : List Token) :
    run ⟨.value, .array taken :: frames⟩ (tokensOfItems items ++ ([.closeBracket] ++ rest)) =
      (complete (.array (taken.reverse ++ items)) frames).bind (·.run rest) := by
  match items with
  | [] => exact absurd rfl some_item
  | [item] =>
      change run _ (item.tokens ++ ([.closeBracket] ++ rest)) = _
      rw [run_tokens item]
      change (complete (.array (item :: taken).reverse) frames >>= fun q => q.run rest) = _
      rw [List.reverse_cons]
      rfl
  | item :: next :: others =>
      have later := run_items (next :: others) (List.cons_ne_nil _ _) (item :: taken) frames rest
      change run _ (item.tokens ++ .comma :: tokensOfItems (next :: others) ++ ([.closeBracket] ++ rest)) = _
      rw [List.append_assoc, run_tokens item]
      refine later.trans ?_
      rw [List.reverse_cons, List.append_assoc]
      rfl

theorem run_members (members : List (String × Json)) (some_member : members ≠ [])
    (taken : List (String × Json)) (frames : List Frame) (rest : List Token) :
    run ⟨.name, .object (some taken) :: frames⟩ (tokensOfMembers members ++ ([.closeBrace] ++ rest)) =
      (complete (.object (taken.reverse ++ members)) frames).bind (·.run rest) := by
  match members with
  | [] => exact absurd rfl some_member
  | [(name, value)] =>
      change run ⟨.value, .member (some taken) (some name) :: frames⟩
        (value.tokens ++ ([.closeBrace] ++ rest)) = _
      rw [run_tokens value]
      change (complete (.object ((name, value) :: taken).reverse) frames >>= fun q => q.run rest) = _
      rw [List.reverse_cons]
      rfl
  | (name, value) :: next :: others =>
      have later := run_members (next :: others) (List.cons_ne_nil _ _) ((name, value) :: taken) frames rest
      change run ⟨.value, .member (some taken) (some name) :: frames⟩
        (value.tokens ++ .comma :: tokensOfMembers (next :: others) ++ ([.closeBrace] ++ rest)) = _
      rw [List.append_assoc, run_tokens value]
      refine later.trans ?_
      rw [List.reverse_cons, List.append_assoc]
      rfl

end

end Progress

theorem ofTokens_tokens (j : Json) : ofTokens? j.tokens = some j := by
  have ran := Progress.run_tokens j [] []
  rw [List.append_nil] at ran
  unfold ofTokens?
  change (Progress.run ⟨.value, []⟩ j.tokens >>= fun p => p.document?) = _
  rw [ran]
  rfl

theorem read_line {j : Json} (spelled : j.IsSpelled) : read? j.line = some j := by
  have scanned := scan_compact j spelled delimited_nil
  rw [List.append_nil] at scanned
  unfold read? line
  rw [String.toList_ofList, scanned]
  change ofTokens? (j.tokens ++ []) = some j
  rw [List.append_nil, ofTokens_tokens]

end RegisterPlane.Json
