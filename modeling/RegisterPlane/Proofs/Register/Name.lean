import Mathlib.Tactic
import RegisterPlane.Register.Name

namespace RegisterPlane.RegisterName

theorem eq_of_text {a b : RegisterName} (texts : a.text = b.text) : a = b := by
  cases a
  cases b
  cases texts
  rfl

structure Sound (segment : List Char) : Prop where
  filled : segment ≠ []
  single : hasDoubleUnderscore segment = false
  first : segment.head? ≠ some '_'
  last : segment.getLast? ≠ some '_'
  allowed : ∀ c ∈ segment, isAllowed c = true

theorem sound_of_faultless {segment : List Char} (faultless : segmentFault? segment = none) :
    Sound segment := by
  unfold segmentFault? at faultless
  split at faultless
  · cases faultless
  · rename_i filled
    split at faultless
    · cases faultless
    · rename_i stray
      obtain ⟨single, first, last⟩ : hasDoubleUnderscore segment = false ∧
          segment.head? ≠ some '_' ∧ segment.getLast? ≠ some '_' := by
        simpa only [not_or, Bool.not_eq_true] using stray
      refine ⟨filled, single, first, last, fun c member => ?_⟩
      have none := List.find?_eq_none.mp (Option.map_eq_none_iff.mp faultless) c member
      simpa using none

theorem sound_of_mem (n : RegisterName) {segment : List Char}
    (member : segment ∈ Text.splitAt (· == '.') n.text.toList) : Sound segment := by
  have faultless := n.faultless
  unfold fault? at faultless
  split at faultless
  · cases faultless
  · exact sound_of_faultless (List.findSome?_eq_none_iff.mp faultless segment member)

theorem parse_text (n : RegisterName) : parse? n.text = some n := by
  rw [parse?, dif_pos n.faultless]

theorem text_of_parse {raw : String} {n : RegisterName} (parsed : parse raw = .ok n) :
    n.text = raw := by
  unfold parse at parsed
  split at parsed
  · cases parsed
    rfl
  · cases parsed

theorem parse_of_text {raw : String} {n : RegisterName} (written : n.text = raw) :
    parse raw = .ok n := by
  cases written
  unfold parse
  split
  · rfl
  · rename_i fault faulty
    rw [n.faultless] at faulty
    cases faulty

theorem hasDoubleUnderscore_tail {c : Char} {cs : List Char}
    (single : hasDoubleUnderscore (c :: cs) = false) : hasDoubleUnderscore cs = false := by
  cases cs with
  | nil => rfl
  | cons d ds =>
      by_cases pair : c = '_' ∧ d = '_'
      · rw [pair.1, pair.2, hasDoubleUnderscore] at single
        cases single
      · rw [hasDoubleUnderscore] at single
        · exact single
        · intro rest first second
          exact pair ⟨first, (List.cons.inj second).1⟩

theorem not_pair {c d : Char} {cs : List Char}
    (single : hasDoubleUnderscore (c :: d :: cs) = false) : ¬(c = '_' ∧ d = '_') := by
  rintro ⟨rfl, rfl⟩
  cases single

end RegisterPlane.RegisterName
