import Mathlib.Data.List.TakeWhile
import Mathlib.Tactic
import RegisterPlane.Text.Blank

namespace RegisterPlane.Text

variable {separates : Char → Bool}

/-- No character of a piece separates. -/
def Whole (separates : Char → Bool) (piece : List Char) : Prop := ∀ c ∈ piece, separates c = false

theorem Whole.head {c : Char} {cs : List Char} (whole : Whole separates (c :: cs)) :
    separates c = false := whole c List.mem_cons_self

theorem Whole.tail {c : Char} {cs : List Char} (whole : Whole separates (c :: cs)) :
    Whole separates cs := fun x member => whole x (List.mem_cons_of_mem c member)

theorem splitAt_whole {piece : List Char} (whole : Whole separates piece) :
    splitAt separates piece = [piece] := by
  induction piece with
  | nil => rfl
  | cons c cs ih => rw [splitAt, whole.head, if_neg Bool.false_ne_true, ih whole.tail]

theorem splitAt_append {piece : List Char} (whole : Whole separates piece) {c : Char}
    (separator : separates c = true) (rest : List Char) :
    splitAt separates (piece ++ c :: rest) = piece :: splitAt separates rest := by
  induction piece with
  | nil => rw [List.nil_append, splitAt, if_pos separator]
  | cons x xs ih =>
      rw [List.cons_append, splitAt, whole.head, if_neg Bool.false_ne_true, ih whole.tail]

theorem splitAt_intercalate {c : Char} (separator : separates c = true) {pieces : List (List Char)}
    (whole : ∀ piece ∈ pieces, Whole separates piece) (some_piece : pieces ≠ []) :
    splitAt separates ([c].intercalate pieces) = pieces := by
  induction pieces with
  | nil => exact absurd rfl some_piece
  | cons piece rest ih =>
      have first := whole piece List.mem_cons_self
      cases rest with
      | nil => rw [List.intercalate_singleton, splitAt_whole first]
      | cons next others =>
          rw [List.intercalate_cons_cons, List.append_assoc, List.singleton_append,
            splitAt_append first separator,
            ih (fun p member => whole p (List.mem_cons_of_mem piece member)) (List.cons_ne_nil _ _)]

theorem tokens_intercalate {c : Char} (separator : separates c = true) {words : List (List Char)}
    (whole : ∀ word ∈ words, Whole separates word) (filled : ∀ word ∈ words, word ≠ []) :
    tokens separates ([c].intercalate words) = words := by
  unfold tokens
  cases words with
  | nil => rfl
  | cons word rest =>
      rw [splitAt_intercalate separator whole (List.cons_ne_nil _ _)]
      apply List.filter_eq_self.mpr
      intro piece member
      simpa using filled piece member

theorem splitAt_ne_nil (cs : List Char) : splitAt separates cs ≠ [] := by
  cases cs with
  | nil => exact List.cons_ne_nil _ _
  | cons c cs =>
      rw [splitAt]
      split
      · exact List.cons_ne_nil _ _
      · split
        · exact List.cons_ne_nil _ _
        · exact List.cons_ne_nil _ _

theorem whole_of_mem_splitAt {cs piece : List Char} (member : piece ∈ splitAt separates cs) :
    Whole separates piece := by
  induction cs generalizing piece with
  | nil =>
      rw [List.mem_singleton.mp member]
      intro c inside
      cases inside
  | cons c cs ih =>
      rw [splitAt] at member
      split at member
      · rcases List.mem_cons.mp member with rfl | later
        · intro c inside
          cases inside
        · exact ih later
      · rename_i joined
        have solid : separates c = false := by simpa using joined
        split at member
        · rename_i none
          exact absurd none (splitAt_ne_nil cs)
        · rename_i first rest cut
          rw [cut] at ih
          rcases List.mem_cons.mp member with rfl | later
          · intro x inside
            rcases List.mem_cons.mp inside with rfl | within
            · exact solid
            · exact ih List.mem_cons_self x within
          · exact ih (List.mem_cons_of_mem first later)

theorem splitAt_joined {c : Char} (separator : separates c = true) (front rest : List Char) :
    splitAt separates (front ++ c :: rest) = splitAt separates front ++ splitAt separates rest := by
  induction front with
  | nil =>
      change splitAt separates (c :: rest) = [] :: splitAt separates rest
      rw [splitAt, if_pos separator]
  | cons x xs ih =>
      rw [List.cons_append, splitAt, splitAt, ih]
      by_cases cut : separates x = true
      · rw [if_pos cut, if_pos cut, List.cons_append]
      · rw [if_neg cut, if_neg cut]
        cases pieces : splitAt separates xs with
        | nil => exact absurd pieces (splitAt_ne_nil xs)
        | cons piece others => rfl

theorem splitAt_extended (cs : List Char) {tail : List Char} (whole : Whole separates tail) :
    ∃ front last, splitAt separates cs = front ++ [last] ∧
      splitAt separates (cs ++ tail) = front ++ [last ++ tail] := by
  induction cs with
  | nil => exact ⟨[], [], rfl, splitAt_whole whole⟩
  | cons c cs ih =>
      obtain ⟨front, last, cut, extended⟩ := ih
      rw [List.cons_append, splitAt, splitAt, cut, extended]
      by_cases separator : separates c = true
      · exact ⟨[] :: front, last, by rw [if_pos separator]; rfl, by rw [if_pos separator]; rfl⟩
      · rw [if_neg separator, if_neg separator]
        cases front with
        | nil => exact ⟨[], c :: last, rfl, rfl⟩
        | cons piece front => exact ⟨(c :: piece) :: front, last, rfl, rfl⟩

theorem intercalate_splitAt (c : Char) (cs : List Char) :
    [c].intercalate (splitAt (· == c) cs) = cs := by
  induction cs with
  | nil => rfl
  | cons x xs ih =>
      rw [splitAt]
      cases cut : splitAt (· == c) xs with
      | nil => exact absurd cut (splitAt_ne_nil xs)
      | cons piece rest =>
          rw [cut] at ih
          by_cases here : x = c
          · rw [if_pos (by simpa using here), List.intercalate_cons_cons, ih, here]
            rfl
          · rw [if_neg (by simpa using here)]
            dsimp only
            rw [List.intercalate_cons_cons_left, ih]

theorem trim_whole {cs : List Char} (whole : Whole isBlank cs) : trim cs = cs := by
  have front : trimStart cs = cs := by
    cases cs with
    | nil => rfl
    | cons c rest =>
        unfold trimStart
        rw [List.dropWhile_cons_of_neg (by simp [whole.head])]
  have back : trimEnd cs = cs := by
    unfold trimEnd
    cases reversed : cs.reverse with
    | nil => simpa using reversed.symm
    | cons c rest =>
        have last : c ∈ cs := List.mem_reverse.mp (reversed ▸ List.mem_cons_self)
        rw [List.dropWhile_cons_of_neg (by simp [whole c last]), ← reversed, List.reverse_reverse]
  rw [trim, front, back]

end RegisterPlane.Text
