import Mathlib.Computability.Language
import RegisterPlane.Proofs.Assignment.Key
import RegisterPlane.Proofs.Register.Grammar

/-! Register names as a regular language. A name is segments with dots between them, in one way, and with
double underscores between them they can be told apart as well. -/

namespace RegisterPlane.RegisterName

open scoped Computability

def letterForm : Language Char := {word | ∃ c, IsLetter c ∧ word = [c]}

def groupForm : Language Char := letterForm * letterForm∗

/-- The form `[a-z0-9]+(_[a-z0-9]+)*`. -/
def segmentForm : Language Char := groupForm * ({['_']} * groupForm)∗

theorem mem_letterForm_star {cs : List Char} : cs ∈ letterForm∗ ↔ ∀ c ∈ cs, IsLetter c := by
  rw [Language.mem_kstar]
  constructor
  · rintro ⟨words, rfl, letters⟩ c member
    obtain ⟨word, here, inside⟩ := List.mem_flatten.mp member
    obtain ⟨d, letter, rfl⟩ := letters word here
    rw [List.mem_singleton.mp inside]
    exact letter
  · intro letters
    refine ⟨cs.map fun c => [c], (List.flatMap_singleton' cs).symm, ?_⟩
    intro word member
    obtain ⟨c, here, rfl⟩ := List.mem_map.mp member
    exact ⟨c, letters c here, rfl⟩

theorem mem_groupForm {cs : List Char} : cs ∈ groupForm ↔ cs ≠ [] ∧ ∀ c ∈ cs, IsLetter c := by
  unfold groupForm
  simp only [Language.mem_mul, mem_letterForm_star]
  constructor
  · rintro ⟨_, ⟨c, letter, rfl⟩, others, letters, rfl⟩
    exact ⟨List.cons_ne_nil c others, List.forall_mem_cons.mpr ⟨letter, letters⟩⟩
  · rintro ⟨filled, letters⟩
    obtain ⟨c, others, rfl⟩ := List.exists_cons_of_ne_nil filled
    obtain ⟨letter, later⟩ := List.forall_mem_cons.mp letters
    exact ⟨[c], ⟨c, letter, rfl⟩, others, later, rfl⟩

theorem mem_segmentForm {cs : List Char} : cs ∈ segmentForm ↔ IsSegment cs := by
  unfold segmentForm
  rw [Language.mem_mul]
  constructor
  · rintro ⟨first, group, _, ⟨groups, rfl, grouped⟩, rfl⟩
    induction groups generalizing first with
    | nil =>
        obtain ⟨filled, letters⟩ := mem_groupForm.mp group
        rw [List.flatten_nil, List.append_nil]
        exact .group filled letters
    | cons word groups ih =>
        obtain ⟨here, later⟩ := List.forall_mem_cons.mp grouped
        obtain ⟨_, rfl, next, group', rfl⟩ := Language.mem_mul.mp here
        obtain ⟨filled, letters⟩ := mem_groupForm.mp group
        exact .joined filled letters (ih next group' later)
  · intro segment
    induction segment with
    | @group letters filled all =>
        exact ⟨letters, mem_groupForm.mpr ⟨filled, all⟩, [], Language.nil_mem_kstar _, List.append_nil _⟩
    | @joined letters rest filled all later ih =>
        obtain ⟨next, group, _, ⟨groups, rfl, grouped⟩, rfl⟩ := ih
        have word : '_' :: next ∈ ({['_']} * groupForm : Language Char) :=
          Language.append_mem_mul (show ['_'] ∈ ({['_']} : Language Char) from rfl) group
        exact ⟨letters, mem_groupForm.mpr ⟨filled, all⟩, _,
          ⟨('_' :: next) :: groups, rfl, List.forall_mem_cons.mpr ⟨word, grouped⟩⟩, rfl⟩

/-- One or more segments of a name, separated by single dots. -/
structure Segmented (raw : String) (segments : List String) : Prop where
  filled : segments ≠ []
  formed : ∀ segment ∈ segments, segment.toList ∈ segmentForm
  joined : ".".intercalate segments = raw

theorem Segmented.splitAt {raw : String} {segments : List String} (segmented : Segmented raw segments) :
    Text.splitAt (· == '.') raw.toList = segments.map String.toList := by
  have spelled : raw.toList = ['.'].intercalate (segments.map String.toList) := by
    rw [← segmented.joined, String.toList_intercalate]
    rfl
  rw [spelled]
  apply splitAt_segments
  · simpa using segmented.filled
  · intro cs member
    obtain ⟨segment, here, rfl⟩ := List.mem_map.mp member
    exact mem_segmentForm.mp (segmented.formed segment here)

theorem map_toList_segments (n : RegisterName) :
    n.segments.map String.toList = Text.splitAt (· == '.') n.text.toList := by
  simp [segments, Function.comp_def]

theorem segmented_segments (n : RegisterName) : Segmented n.text n.segments where
  filled := by
    simpa [segments] using Text.splitAt_ne_nil n.text.toList
  formed := by
    intro segment member
    rw [mem_segmentForm]
    apply isSegment_of_sound
    apply n.sound_of_mem
    rw [← map_toList_segments]
    exact List.mem_map_of_mem member
  joined := by
    have dot : ".".toList = ['.'] := rfl
    apply String.toList_inj.mp
    rw [String.toList_intercalate, map_toList_segments, dot, Text.intercalate_splitAt]

theorem segmented_iff (n : RegisterName) (segments : List String) :
    Segmented n.text segments ↔ n.segments = segments := by
  constructor
  · intro segmented
    unfold RegisterName.segments
    rw [segmented.splitAt]
    simp
  · rintro rfl
    exact segmented_segments n

theorem faultless_of_segmented {raw : String} {segments : List String} (segmented : Segmented raw segments) :
    fault? raw = none := by
  refine (fault_eq_none_iff raw).mpr ⟨segments.map String.toList, ?_, ?_, ?_⟩
  · simpa using segmented.filled
  · intro cs member
    obtain ⟨segment, here, rfl⟩ := List.mem_map.mp member
    exact mem_segmentForm.mp (segmented.formed segment here)
  · rw [← segmented.splitAt, Text.intercalate_splitAt]

theorem exists_parse_iff (raw : String) :
    (∃ n, parse raw = .ok n) ↔ ∃ segments, Segmented raw segments := by
  constructor
  · rintro ⟨n, parsed⟩
    rw [← text_of_parse parsed]
    exact ⟨n.segments, segmented_segments n⟩
  · rintro ⟨segments, segmented⟩
    exact ⟨⟨raw, faultless_of_segmented segmented⟩, parse_of_text rfl⟩

theorem parse_or_invalid (raw : String) :
    (∃ n, parse raw = .ok n) ∨ ∃ reason, parse raw = .error (.invalidAssignment raw reason) := by
  unfold parse
  split
  · exact Or.inl ⟨_, rfl⟩
  · exact Or.inr ⟨_, rfl⟩

theorem splitPairs_segments (n : RegisterName) :
    Assignment.splitPairs ("__".intercalate n.segments).toList = n.segments.map String.toList := by
  have sound : ∀ segment ∈ n.segments.map String.toList, Sound segment := by
    rw [map_toList_segments]
    exact fun segment => n.sound_of_mem
  have pair : "__".toList = ['_', '_'] := rfl
  rw [String.toList_intercalate, pair]
  apply Assignment.splitPairs_intercalate
  · simpa using (segmented_segments n).filled
  · exact fun segment member => (sound segment member).single
  · exact fun segment member => (sound segment member).last

/-- A text is taken as a name exactly if it is segments of the form with dots between them, and every other
text is refused as invalid. The name is the text, its segments are the only ones, and they are told apart
again whether dots or double underscores join them. -/
theorem name_grammar (raw : String) :
    ((∃ n, parse raw = .ok n) ↔ ∃ segments, Segmented raw segments) ∧
      (∀ n, parse raw = .ok n →
        n.text = raw ∧
        (∀ segments, Segmented raw segments ↔ n.segments = segments) ∧
        ".".intercalate n.segments = raw ∧
        Assignment.splitPairs ("__".intercalate n.segments).toList = n.segments.map String.toList) ∧
      ((∃ n, parse raw = .ok n) ∨ ∃ reason, parse raw = .error (.invalidAssignment raw reason)) := by
  refine ⟨exists_parse_iff raw, ?_, parse_or_invalid raw⟩
  intro n parsed
  have text := text_of_parse parsed
  subst text
  exact ⟨rfl, segmented_iff n, (segmented_segments n).joined, splitPairs_segments n⟩

example : (parse "sump.level_2").toOption.map segments = some ["sump", "level_2"] ∧
    fault? "sump.level__2" = some .strayUnderscore := by
  decide

end RegisterPlane.RegisterName
