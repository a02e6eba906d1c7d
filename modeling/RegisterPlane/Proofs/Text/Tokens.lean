import RegisterPlane.Proofs.Text.Cutting

namespace RegisterPlane.Text

variable {separates : Char → Bool}

/-- Words in a text, with separators between one and the next and any number of them at both ends. -/
inductive Laid (separates : Char → Bool) : List (List Char) → List Char → Prop
  | gap {gap : List Char} (separators : ∀ c ∈ gap, separates c = true) : Laid separates [] gap
  | word {gap word rest : List Char} {words : List (List Char)}
      (separators : ∀ c ∈ gap, separates c = true) (filled : word ≠ []) (whole : Whole separates word)
      (apart : ∀ c ∈ rest.head?, separates c = true) (later : Laid separates words rest) :
      Laid separates (word :: words) (gap ++ word ++ rest)

theorem tokens_joined {c : Char} (separator : separates c = true) (front rest : List Char) :
    tokens separates (front ++ c :: rest) = tokens separates front ++ tokens separates rest := by
  rw [tokens, splitAt_joined separator, List.filter_append]
  rfl

theorem tokens_gap {gap : List Char} (separators : ∀ c ∈ gap, separates c = true) (rest : List Char) :
    tokens separates (gap ++ rest) = tokens separates rest := by
  induction gap with
  | nil => rfl
  | cons c gap ih =>
      obtain ⟨separator, others⟩ := List.forall_mem_cons.mp separators
      exact (tokens_joined separator [] (gap ++ rest)).trans (ih others)

theorem tokens_whole {word : List Char} (filled : word ≠ []) (whole : Whole separates word) :
    tokens separates word = [word] := by
  rw [tokens, splitAt_whole whole, List.filter_cons_of_pos (by simpa using filled)]
  rfl

theorem tokens_of_laid {words : List (List Char)} {text : List Char} (laid : Laid separates words text) :
    tokens separates text = words := by
  induction laid with
  | @gap gap separators =>
      have behind := tokens_gap separators []
      rw [List.append_nil] at behind
      exact behind
  | @word gap word rest words separators filled whole apart later ih =>
      rw [List.append_assoc, tokens_gap separators]
      cases rest with
      | nil =>
          rw [List.append_nil, tokens_whole filled whole, ← ih]
          rfl
      | cons c rest =>
          have separator := apart c rfl
          rw [tokens_joined separator, tokens_whole filled whole, ← ih]
          exact congrArg (word :: ·) (tokens_joined separator [] rest).symm

theorem exists_laid (text : List Char) : ∃ words, Laid separates words text := by
  induction text with
  | nil => exact ⟨[], .gap fun c member => by cases member⟩
  | cons c text ih =>
      obtain ⟨words, laid⟩ := ih
      have none : ∀ d ∈ ([] : List Char), separates d = true := fun d member => by cases member
      by_cases separator : separates c = true
      · cases laid with
        | gap separators => exact ⟨[], .gap (List.forall_mem_cons.mpr ⟨separator, separators⟩)⟩
        | word separators filled whole apart later =>
            exact ⟨_, .word (List.forall_mem_cons.mpr ⟨separator, separators⟩) filled whole apart later⟩
      · have solid : ∀ {cs : List Char}, Whole separates cs → Whole separates (c :: cs) := by
          intro cs whole
          exact List.forall_mem_cons.mpr ⟨by simpa using separator, whole⟩
        have lone : Whole separates [c] := solid fun d member => by cases member
        cases laid with
        | @gap gap separators =>
            refine ⟨_, .word none (List.cons_ne_nil c []) lone ?_ (.gap separators)⟩
            exact fun d first => separators d (List.mem_of_mem_head? first)
        | @word gap word rest words separators filled whole apart later =>
            cases gap with
            | nil => exact ⟨_, .word none (List.cons_ne_nil c word) (solid whole) apart later⟩
            | cons d gap =>
                refine ⟨_, .word none (List.cons_ne_nil c []) lone ?_
                  (.word separators filled whole apart later)⟩
                rintro _ ⟨⟩
                exact separators d List.mem_cons_self

theorem tokens_eq_iff {words : List (List Char)} {text : List Char} :
    tokens separates text = words ↔ Laid separates words text := by
  constructor
  · rintro rfl
    obtain ⟨words, laid⟩ : ∃ words, Laid separates words text := exists_laid text
    rw [tokens_of_laid laid]
    exact laid
  · exact tokens_of_laid

end RegisterPlane.Text
