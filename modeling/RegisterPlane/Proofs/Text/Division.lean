import RegisterPlane.Proofs.Text.Lines

/-! The division of a stream into lines, as a relation. Cutting a stream finds it, and the division of a
longer stream goes on from that of a shorter one. -/

namespace RegisterPlane.Text

variable {α : Type} {feed return' : α}

/-- A stream and its lines. A line is what stands before a line feed, without one carriage return directly
before it; what no line feed ends is a line as it is, if there is something. -/
inductive Divided (feed return' : α) : List α → List (List α) → Prop
  | nothing : Divided feed return' [] []
  | unended {rest : List α} (filled : rest ≠ []) (bare : feed ∉ rest) :
      Divided feed return' rest [rest]
  | ended {line xs : List α} {lines : List (List α)} (bare : feed ∉ line)
      (kept : line.getLast? ≠ some return') (later : Divided feed return' xs lines) :
      Divided feed return' (line ++ feed :: xs) (line :: lines)
  | returned {line xs : List α} {lines : List (List α)} (bare : feed ∉ line)
      (later : Divided feed return' xs lines) :
      Divided feed return' (line ++ return' :: feed :: xs) (line :: lines)

def Complete (feed : α) (xs : List α) : Prop := ∀ x ∈ xs.getLast?, x = feed

theorem complete_nil : Complete feed [] := by
  intro x last
  cases last

theorem complete_line_iff (line : List α) {xs : List α} :
    Complete feed (line ++ feed :: xs) ↔ Complete feed xs := by
  unfold Complete
  rw [List.getLast?_append_of_ne_nil _ (List.cons_ne_nil _ _)]
  cases xs with
  | nil => simp
  | cons y ys => rw [List.getLast?_cons_cons]

theorem Complete.append {xs ys : List α} (complete : Complete feed xs) (complete' : Complete feed ys) :
    Complete feed (xs ++ ys) := by
  cases ys with
  | nil => rwa [List.append_nil]
  | cons y ys =>
      unfold Complete
      rw [List.getLast?_append_of_ne_nil _ (List.cons_ne_nil y ys)]
      exact complete'

theorem Complete.eq_nil {rest : List α} (complete : Complete feed rest) (bare : feed ∉ rest) : rest = [] := by
  by_contra filled
  have last := complete _ (List.getLast?_eq_some_getLast filled)
  exact bare (last ▸ List.getLast_mem filled)

theorem Divided.bare {xs : List α} {lines : List (List α)} (divided : Divided feed return' xs lines) :
    ∀ line ∈ lines, feed ∉ line := by
  induction divided with
  | nothing =>
      intro line member
      cases member
  | unended filled bare => exact List.forall_mem_singleton.mpr bare
  | ended bare kept later ih => exact List.forall_mem_cons.mpr ⟨bare, ih⟩
  | returned bare later ih => exact List.forall_mem_cons.mpr ⟨bare, ih⟩

theorem Divided.append {xs ys : List α} {lines lines' : List (List α)}
    (divided : Divided feed return' xs lines) (complete : Complete feed xs)
    (divided' : Divided feed return' ys lines') : Divided feed return' (xs ++ ys) (lines ++ lines') := by
  induction divided with
  | nothing => exact divided'
  | unended filled bare => exact absurd (complete.eq_nil bare) filled
  | @ended line xs lines bare kept later ih =>
      rw [List.append_assoc]
      exact .ended bare kept (ih ((complete_line_iff line).mp complete))
  | @returned line xs lines bare later ih =>
      have split : line ++ return' :: feed :: xs = (line ++ [return']) ++ feed :: xs := by
        rw [List.append_assoc, List.singleton_append]
      rw [split] at complete
      rw [List.append_assoc]
      exact .returned bare (ih ((complete_line_iff _).mp complete))

section Cutting

variable [DecidableEq α]

theorem lineInduction (feed : α) {motive : List α → Prop} (bare : ∀ rest, feed ∉ rest → motive rest)
    (line : ∀ line xs, feed ∉ line → motive xs → motive (line ++ feed :: xs)) : ∀ xs, motive xs := by
  intro xs
  induction size : xs.length using Nat.strong_induction_on generalizing xs with
  | _ n ih =>
      by_cases member : feed ∈ xs
      · obtain ⟨front, back, rfl, first⟩ := List.eq_append_cons_of_mem member
        have shorter : back.length < n := by
          rw [← size, List.length_append, List.length_cons]
          omega
        exact line front back first (ih back.length shorter back rfl)
      · exact bare xs member

theorem dropReturn_concat (line : List α) : dropReturn return' (line ++ [return']) = line := by
  rw [dropReturn, List.getLast?_concat, if_pos rfl, List.dropLast_concat]

theorem divided_dropReturn {line xs : List α} {lines : List (List α)} (bare : feed ∉ line)
    (later : Divided feed return' xs lines) :
    Divided feed return' (line ++ feed :: xs) (dropReturn return' line :: lines) := by
  by_cases last : line.getLast? = some return'
  · obtain ⟨front, rfl⟩ := List.getLast?_eq_some_iff.mp last
    rw [dropReturn_concat, List.append_assoc]
    exact .returned (fun member => bare (List.mem_append_left _ member)) later
  · rw [dropReturn_kept last]
    exact .ended bare last later

theorem cutLines_spec (feed return' : α) (xs : List α) :
    feed ∉ (cutLines feed xs).2 ∧
      ∃ front, front ++ (cutLines feed xs).2 = xs ∧ Complete feed front ∧
        Divided feed return' front ((cutLines feed xs).1.map (dropReturn return')) := by
  induction xs using lineInduction feed with
  | bare rest bare =>
      rw [cutLines_bare bare]
      exact ⟨bare, [], rfl, complete_nil, .nothing⟩
  | line line xs bare ih =>
      obtain ⟨open', front, spelled, complete, divided⟩ := ih
      rw [cutLines_append bare]
      refine ⟨open', line ++ feed :: front, ?_, (complete_line_iff line).mpr complete,
        divided_dropReturn bare divided⟩
      rw [List.append_assoc, List.cons_append, spelled]

theorem divided_lines (xs : List α) : Divided feed return' xs (lines feed return' xs) := by
  obtain ⟨bare, front, spelled, complete, divided⟩ := cutLines_spec feed return' xs
  unfold lines
  have rest : Divided feed return' (cutLines feed xs).2
      (if (cutLines feed xs).2 = [] then [] else [(cutLines feed xs).2]) := by
    split
    · rename_i empty
      rw [empty]
      exact .nothing
    · rename_i filled
      exact .unended filled bare
  have whole := divided.append complete rest
  rwa [spelled] at whole

theorem lines_of_divided (distinct : return' ≠ feed) {xs : List α} {found : List (List α)}
    (divided : Divided feed return' xs found) : lines feed return' xs = found := by
  induction divided with
  | nothing => rfl
  | unended filled bare =>
      unfold lines
      rw [cutLines_bare bare]
      exact if_neg filled
  | ended bare kept later ih => rw [lines_line bare, dropReturn_kept kept, ih]
  | @returned line xs found bare later ih =>
      have bare' : feed ∉ line ++ [return'] := by
        simpa [distinct.symm] using bare
      have split : line ++ return' :: feed :: xs = (line ++ [return']) ++ feed :: xs := by
        rw [List.append_assoc, List.singleton_append]
      rw [split, lines_line bare', dropReturn_concat, ih]

theorem divided_iff (distinct : return' ≠ feed) {xs : List α} {found : List (List α)} :
    Divided feed return' xs found ↔ lines feed return' xs = found := by
  constructor
  · exact lines_of_divided distinct
  · rintro rfl
    exact divided_lines xs

end Cutting

end RegisterPlane.Text
