import Mathlib.Tactic
import RegisterPlane.Text.Lines

namespace RegisterPlane.Text

variable {α : Type} [DecidableEq α] {feed return' : α}

theorem cutLines_bare {line : List α} (bare : feed ∉ line) : cutLines feed line = ([], line) := by
  induction line with
  | nil => rfl
  | cons x xs ih =>
      have other : x ≠ feed := by
        rintro rfl
        exact bare List.mem_cons_self
      rw [cutLines, ih fun member => bare (List.mem_cons_of_mem x member)]
      simp [other]

theorem cutLines_append {line : List α} (bare : feed ∉ line) (rest : List α) :
    cutLines feed (line ++ feed :: rest) =
      (line :: (cutLines feed rest).1, (cutLines feed rest).2) := by
  induction line with
  | nil => simp [cutLines]
  | cons x xs ih =>
      have other : x ≠ feed := by
        rintro rfl
        exact bare List.mem_cons_self
      rw [List.cons_append, cutLines, ih fun member => bare (List.mem_cons_of_mem x member)]
      simp [other]

theorem lines_line {line : List α} (bare : feed ∉ line) (rest : List α) :
    lines feed return' (line ++ feed :: rest) = dropReturn return' line :: lines feed return' rest := by
  unfold lines
  rw [cutLines_append bare]
  rfl

theorem dropReturn_kept {line : List α} (kept : line.getLast? ≠ some return') :
    dropReturn return' line = line := if_neg kept

theorem dropReturn_bare {line : List α} (bare : return' ∉ line) : dropReturn return' line = line :=
  dropReturn_kept fun last => bare (List.mem_of_getLast? last)

/-- A line that is left as it is: something without line feeds and carriage returns. -/
structure IsLine (feed return' : α) (line : List α) : Prop where
  filled : line ≠ []
  noFeed : feed ∉ line
  noReturn : return' ∉ line

theorem lines_single {line : List α} (isLine : IsLine feed return' line) :
    lines feed return' line = [line] := by
  unfold lines
  rw [cutLines_bare isLine.noFeed]
  simp [isLine.filled]

theorem lines_append {line : List α} (isLine : IsLine feed return' line) (rest : List α) :
    lines feed return' (line ++ feed :: rest) = line :: lines feed return' rest := by
  rw [lines_line isLine.noFeed, dropReturn_bare isLine.noReturn]

theorem lines_intercalate {all : List (List α)} (areLines : ∀ line ∈ all, IsLine feed return' line) :
    lines feed return' ([feed].intercalate all) = all := by
  induction all with
  | nil => rfl
  | cons line rest ih =>
      have first := areLines line List.mem_cons_self
      cases rest with
      | nil => rw [List.intercalate_singleton, lines_single first]
      | cons next others =>
          rw [List.intercalate_cons_cons, List.append_assoc, List.singleton_append,
            lines_append first, ih fun other member => areLines other (List.mem_cons_of_mem line member)]

theorem lines_ended {all : List (List α)} (areLines : ∀ line ∈ all, IsLine feed return' line) :
    lines feed return' (all.flatMap (· ++ [feed])) = all := by
  induction all with
  | nil => rfl
  | cons line rest ih =>
      rw [List.flatMap_cons, List.append_assoc, List.singleton_append,
        lines_append (areLines line List.mem_cons_self),
        ih fun other member => areLines other (List.mem_cons_of_mem line member)]

end RegisterPlane.Text
