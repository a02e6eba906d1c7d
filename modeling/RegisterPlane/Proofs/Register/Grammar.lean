import RegisterPlane.Proofs.Register.Name
import RegisterPlane.Proofs.Text.Cutting

namespace RegisterPlane.RegisterName

def IsLetter (c : Char) : Prop := ('a' ≤ c ∧ c ≤ 'z') ∨ ('0' ≤ c ∧ c ≤ '9')

/-- Groups of letters with single underscores between them. -/
inductive IsSegment : List Char → Prop
  | group {letters : List Char} (filled : letters ≠ []) (all : ∀ c ∈ letters, IsLetter c) :
      IsSegment letters
  | joined {letters rest : List Char} (filled : letters ≠ []) (all : ∀ c ∈ letters, IsLetter c)
      (later : IsSegment rest) : IsSegment (letters ++ '_' :: rest)

theorem isLetter_iff (c : Char) : IsLetter c ↔ isAllowed c = true ∧ c ≠ '_' := by
  have apart : ¬IsLetter '_' := by
    unfold IsLetter
    decide
  simp only [isAllowed, Text.isDigit, Bool.or_eq_true, Bool.and_eq_true, decide_eq_true_eq, beq_iff_eq]
  constructor
  · intro letter
    refine ⟨Or.inl letter, ?_⟩
    rintro rfl
    exact apart letter
  · rintro ⟨letter | rfl, other⟩
    · exact letter
    · exact absurd rfl other

theorem IsSegment.cons {c : Char} {cs : List Char} (letter : IsLetter c) (segment : IsSegment cs) :
    IsSegment (c :: cs) := by
  cases segment with
  | group filled all => exact .group (List.cons_ne_nil _ _) (List.forall_mem_cons.mpr ⟨letter, all⟩)
  | joined filled all later =>
      exact .joined (List.cons_ne_nil _ _) (List.forall_mem_cons.mpr ⟨letter, all⟩) later

theorem hasDoubleUnderscore_cons {c : Char} {cs : List Char}
    (apart : ¬(c = '_' ∧ cs.head? = some '_')) :
    hasDoubleUnderscore (c :: cs) = hasDoubleUnderscore cs := by
  rw [hasDoubleUnderscore]
  rintro rest rfl rfl
  exact apart ⟨rfl, rfl⟩

theorem hasDoubleUnderscore_letters {letters : List Char} (all : ∀ c ∈ letters, IsLetter c)
    (rest : List Char) : hasDoubleUnderscore (letters ++ rest) = hasDoubleUnderscore rest := by
  induction letters with
  | nil => rfl
  | cons c cs ih =>
      obtain ⟨letter, later⟩ := List.forall_mem_cons.mp all
      rw [List.cons_append, hasDoubleUnderscore_cons fun pair => ((isLetter_iff c).mp letter).2 pair.1,
        ih later]

theorem head_letters {letters : List Char} (filled : letters ≠ []) (all : ∀ c ∈ letters, IsLetter c)
    (rest : List Char) : (letters ++ rest).head? ≠ some '_' := by
  cases letters with
  | nil => exact absurd rfl filled
  | cons c cs =>
      intro first
      cases first
      exact ((isLetter_iff _).mp (all _ List.mem_cons_self)).2 rfl

theorem sound_of_isSegment {segment : List Char} (grammatical : IsSegment segment) : Sound segment := by
  have allowed : ∀ {letters : List Char}, (∀ c ∈ letters, IsLetter c) →
      ∀ c ∈ letters, isAllowed c = true := fun all c member => ((isLetter_iff c).mp (all c member)).1
  induction grammatical with
  | @group letters filled all =>
      refine ⟨filled, ?_, ?_, ?_, allowed all⟩
      · have single := hasDoubleUnderscore_letters all []
        rwa [List.append_nil] at single
      · have first := head_letters filled all []
        rwa [List.append_nil] at first
      · intro last
        exact ((isLetter_iff _).mp (all _ (List.mem_of_getLast? last))).2 rfl
  | @joined letters rest filled all later ih =>
      refine ⟨by simp, ?_, head_letters filled all _, ?_, ?_⟩
      · rw [hasDoubleUnderscore_letters all, hasDoubleUnderscore_cons fun pair => ih.first pair.2]
        exact ih.single
      · rw [List.getLast?_append_of_ne_nil _ (List.cons_ne_nil _ _)]
        cases rest with
        | nil => exact absurd rfl ih.filled
        | cons d ds =>
            rw [List.getLast?_cons_cons]
            exact ih.last
      · intro c member
        rcases List.mem_append.mp member with early | late
        · exact allowed all c early
        · rcases List.mem_cons.mp late with rfl | later'
          · rfl
          · exact ih.allowed c later'

theorem hasDoubleUnderscore_suffix {front rest : List Char}
    (single : hasDoubleUnderscore (front ++ rest) = false) : hasDoubleUnderscore rest = false := by
  induction front with
  | nil => exact single
  | cons c cs ih => exact ih (hasDoubleUnderscore_tail single)

theorem Sound.suffix (front : List Char) {rest : List Char} (sound : Sound (front ++ rest))
    (filled : rest ≠ []) (first : rest.head? ≠ some '_') : Sound rest where
  filled := filled
  single := hasDoubleUnderscore_suffix sound.single
  first := first
  last := by
    have last := sound.last
    rwa [List.getLast?_append_of_ne_nil _ filled] at last
  allowed := fun c member => sound.allowed c (List.mem_append_right _ member)

theorem isSegment_of_sound : ∀ {segment : List Char}, Sound segment → IsSegment segment
  | [], sound => absurd rfl sound.filled
  | [c], sound => by
      have letter : IsLetter c := (isLetter_iff c).mpr
        ⟨sound.allowed c List.mem_cons_self, fun underscore => sound.first (by rw [underscore]; rfl)⟩
      exact .group (List.cons_ne_nil _ _) (by simpa using letter)
  | c :: d :: ds, sound => by
      have letter : IsLetter c := (isLetter_iff c).mpr
        ⟨sound.allowed c List.mem_cons_self, fun underscore => sound.first (by rw [underscore]; rfl)⟩
      by_cases underscore : d = '_'
      · subst underscore
        have filled : ds ≠ [] := by
          rintro rfl
          exact sound.last rfl
        have first : ds.head? ≠ some '_' := by
          intro head
          obtain ⟨rest, rfl⟩ := List.head?_eq_some_iff.mp head
          exact not_pair (hasDoubleUnderscore_tail sound.single) ⟨rfl, rfl⟩
        have later := isSegment_of_sound (Sound.suffix [c, '_'] sound filled first)
        change IsSegment ([c] ++ '_' :: ds)
        exact .joined (List.cons_ne_nil _ _) (by simpa using letter) later
      · have first : (d :: ds).head? ≠ some '_' := fun head => underscore (Option.some.inj head)
        exact (isSegment_of_sound
          (Sound.suffix [c] sound (List.cons_ne_nil _ _) first)).cons letter

theorem faultless_of_sound {segment : List Char} (sound : Sound segment) :
    segmentFault? segment = none := by
  unfold segmentFault?
  rw [if_neg sound.filled, if_neg]
  · rw [Option.map_eq_none_iff, List.find?_eq_none]
    intro c member
    simp [sound.allowed c member]
  · rintro (double | first | last)
    · rw [sound.single] at double
      cases double
    · exact sound.first first
    · exact sound.last last

theorem segmentFault_eq_none_iff (segment : List Char) :
    segmentFault? segment = none ↔ IsSegment segment :=
  ⟨fun faultless => isSegment_of_sound (sound_of_faultless faultless),
    fun grammatical => faultless_of_sound (sound_of_isSegment grammatical)⟩

theorem IsSegment.whole {segment : List Char} (grammatical : IsSegment segment) :
    Text.Whole (· == '.') segment := by
  intro c member
  have allowed := (sound_of_isSegment grammatical).allowed c member
  by_contra dot
  rw [Bool.not_eq_false, beq_iff_eq] at dot
  rw [dot] at allowed
  cases allowed

theorem splitAt_segments {segments : List (List Char)} (filled : segments ≠ [])
    (grammatical : ∀ segment ∈ segments, IsSegment segment) :
    Text.splitAt (· == '.') (['.'].intercalate segments) = segments :=
  Text.splitAt_intercalate (by rfl) (fun segment member => (grammatical segment member).whole) filled

theorem fault_eq_none_iff (raw : String) :
    fault? raw = none ↔
      ∃ segments, segments ≠ [] ∧ (∀ segment ∈ segments, IsSegment segment) ∧
        raw.toList = ['.'].intercalate segments := by
  constructor
  · intro faultless
    refine ⟨_, Text.splitAt_ne_nil raw.toList, ?_, (Text.intercalate_splitAt '.' raw.toList).symm⟩
    exact fun segment member => isSegment_of_sound (sound_of_mem ⟨raw, faultless⟩ member)
  · rintro ⟨segments, filled, grammatical, spelled⟩
    have cut := splitAt_segments filled grammatical
    rw [← spelled] at cut
    unfold fault?
    rw [if_neg]
    · rw [cut, List.findSome?_eq_none_iff]
      exact fun segment member => (segmentFault_eq_none_iff segment).mpr (grammatical segment member)
    · rintro rfl
      have single : segments = [[]] := cut.symm
      rw [single] at grammatical
      exact (sound_of_isSegment (grammatical [] List.mem_cons_self)).filled rfl

end RegisterPlane.RegisterName
