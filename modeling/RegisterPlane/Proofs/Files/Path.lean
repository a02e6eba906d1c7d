import RegisterPlane.Files.Path
import RegisterPlane.Proofs.Text.Cutting

namespace RegisterPlane.Path

def lead (at' : List String) (name : String) : List String :=
  if stays name then at' else if name = ".." then at'.dropLast else at' ++ [name]

def leads (at' : List String) (names : List String) : List String := names.foldl lead at'

theorem leads_cons (at' : List String) (name : String) (names : List String) :
    leads at' (name :: names) = leads (lead at' name) names := rfl

theorem leads_append (at' : List String) (front back : List String) :
    leads at' (front ++ back) = leads (leads at' front) back := List.foldl_append

theorem leads_filter (at' : List String) (names : List String) :
    leads at' (names.filter fun name => !stays name) = leads at' names := by
  induction names generalizing at' with
  | nil => rfl
  | cons name names ih =>
      by_cases still : stays name = true
      · rw [List.filter_cons_of_neg (by simp [still]), ih, leads_cons, lead, if_pos still]
      · rw [List.filter_cons_of_pos (by simp [still]), leads_cons, leads_cons, ih]

theorem leads_steps (at' : List String) (path : String) :
    leads at' (steps path) = leads at' (names path) :=
  leads_filter at' (names path)

theorem leads_down (at' : List String) {names : List String}
    (down : ∀ name ∈ names, stays name = false ∧ name ≠ "..") : leads at' names = at' ++ names := by
  induction names generalizing at' with
  | nil => exact (List.append_nil at').symm
  | cons name names ih =>
      obtain ⟨moves, forward⟩ := down name List.mem_cons_self
      rw [leads_cons, ih _ fun other member => down other (List.mem_cons_of_mem name member), lead, moves,
        if_neg Bool.false_ne_true, if_neg forward, List.append_assoc, List.singleton_append]

theorem names_ne_nil (path : String) : names path ≠ [] := by
  unfold names
  simpa using Text.splitAt_ne_nil path.toList

theorem names_extended (path : String) {suffix : String} (whole : '/' ∉ suffix.toList) :
    ∃ front last, names path = front ++ [last] ∧ names (path ++ suffix) = front ++ [last ++ suffix] := by
  have solid : Text.Whole (· == '/') suffix.toList := by
    intro c member
    rw [beq_eq_false_iff_ne]
    rintro rfl
    exact whole member
  obtain ⟨front, last, cut, extended⟩ := Text.splitAt_extended path.toList solid
  refine ⟨front.map String.ofList, String.ofList last, ?_, ?_⟩
  · rw [names, cut, List.map_append]
    rfl
  · rw [names, String.toList_append, extended, List.map_append, List.map_singleton, String.ofList_append,
      String.ofList_toList]

theorem whole_of_mem_names {path name : String} (member : name ∈ names path) :
    Text.Whole (· == '/') name.toList := by
  obtain ⟨piece, here, rfl⟩ := List.mem_map.mp member
  rw [String.toList_ofList]
  exact Text.whole_of_mem_splitAt here

theorem names_intercalate {names' : List String} (some_name : names' ≠ [])
    (whole : ∀ name ∈ names', Text.Whole (· == '/') name.toList) :
    names ("/".intercalate names') = names' := by
  have slash : "/".toList = ['/'] := rfl
  have pieces : ∀ piece ∈ names'.map String.toList, Text.Whole (· == '/') piece := by
    intro piece member
    obtain ⟨name, here, rfl⟩ := List.mem_map.mp member
    exact whole name here
  rw [names, String.toList_intercalate, slash,
    Text.splitAt_intercalate (by decide) pieces (by simpa using some_name)]
  simp

theorem step_above {path name : String} (member : name ∈ (steps path).dropLast) :
    stays name = false ∧ Text.Whole (· == '/') name.toList := by
  obtain ⟨here, moves⟩ := List.mem_filter.mp (List.mem_of_mem_dropLast member)
  exact ⟨by simpa using moves, whole_of_mem_names here⟩

theorem names_above {path : String} (above : (steps path).dropLast ≠ []) :
    names ("/".intercalate (steps path).dropLast) = (steps path).dropLast :=
  names_intercalate above fun _ member => (step_above member).2

theorem names_absolute {path : String} (absolute : isAbsolute path = true) : "" ∈ names path := by
  unfold isAbsolute at absolute
  unfold names
  cases text : path.toList with
  | nil =>
      rw [text] at absolute
      cases absolute
  | cons c cs =>
      rw [text] at absolute
      have slash : c = '/' := by simpa using absolute
      rw [slash, Text.splitAt, if_pos (by decide)]
      exact List.mem_cons_self

theorem steps_append_slash (text : String) : steps ("/" ++ text) = steps text := by
  have cut : names ("/" ++ text) = "" :: names text := by
    rw [names, String.toList_append]
    rfl
  rw [steps, cut, List.filter_cons_of_neg (by decide)]
  rfl

theorem steps_parent (path : String) : steps (parent path) = (steps path).dropLast := by
  have inner : steps ("/".intercalate (steps path).dropLast) = (steps path).dropLast := by
    by_cases above : (steps path).dropLast = []
    · rw [above]
      rfl
    · rw [steps, names_above above]
      apply List.filter_eq_self.mpr
      intro name member
      rw [(step_above member).1]
      rfl
  unfold parent
  split
  · rw [steps_append_slash, inner]
  · rw [String.empty_append, inner]

theorem isAbsolute_parent {path : String} (filled : parent path ≠ "") :
    isAbsolute (parent path) = isAbsolute path := by
  cases absolute : isAbsolute path with
  | true =>
      unfold parent
      rw [absolute, if_pos rfl, isAbsolute, String.toList_append]
      rfl
  | false =>
      unfold parent at filled ⊢
      rw [absolute, if_neg Bool.false_ne_true, String.empty_append] at filled ⊢
      have above : (steps path).dropLast ≠ [] := by
        intro none
        rw [none] at filled
        exact filled rfl
      by_contra led
      have empty := names_absolute (Bool.eq_true_of_not_eq_false led)
      rw [names_above above] at empty
      exact absurd (step_above empty).1 (by decide)

end RegisterPlane.Path
