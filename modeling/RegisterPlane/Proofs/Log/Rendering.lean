import RegisterPlane.Log.Line
import RegisterPlane.Proofs.Group.Resolution
import RegisterPlane.Proofs.Text.Digits
import RegisterPlane.Proofs.Text.Hex
import RegisterPlane.Text.Utf8

namespace RegisterPlane

namespace Text

theorem parted {α : Type} {mark : α} {front front' back back' : List α} (bare : mark ∉ front)
    (bare' : mark ∉ front') (same : front ++ mark :: back = front' ++ mark :: back') :
    front = front' ∧ back = back' := by
  induction front generalizing front' with
  | nil =>
      cases front' with
      | nil => exact ⟨rfl, (List.cons.inj same).2⟩
      | cons x xs =>
          rw [(List.cons.inj same).1] at bare'
          exact absurd List.mem_cons_self bare'
  | cons x xs ih =>
      cases front' with
      | nil =>
          rw [← (List.cons.inj same).1] at bare
          exact absurd List.mem_cons_self bare
      | cons y ys =>
          obtain ⟨rfl, rest⟩ := List.cons.inj same
          obtain ⟨rfl, after⟩ := ih (fun early => bare (List.mem_cons_of_mem x early))
            (fun early => bare' (List.mem_cons_of_mem x early)) rest
          exact ⟨rfl, after⟩

namespace Utf8

theorem encode_empty : encode "" = [] := by
  rw [encode, toList_byteArray]
  rfl

theorem encode_append (s t : String) : encode (s ++ t) = encode s ++ encode t := by
  simp [encode, toList_byteArray, ByteArray.data_append]

theorem encode_injective {s t : String} (same : encode s = encode t) : s = t := by
  unfold encode at same
  rw [toList_byteArray, toList_byteArray] at same
  exact String.toByteArray_inj.mp (ByteArray.ext (Array.toList_inj.mp same))

end Utf8

end Text

theorem Stream.mark_injective {stream stream' : Stream} (same : stream.mark = stream'.mark) :
    stream = stream' := by
  cases stream <;> cases stream' <;> first | rfl | exact absurd same (by decide)

namespace LogLine

theorem renderFrom_append (number : Nat) (front back : List LogLine) :
    renderFrom number (front ++ back) =
      renderFrom number front ++ renderFrom (number + front.length) back := by
  induction front generalizing number with
  | nil => rfl
  | cons line front ih =>
      rw [List.cons_append, renderFrom, renderFrom, ih, List.length_cons, List.cons_append,
        Nat.add_assoc, Nat.add_comm 1]

theorem renderAll_concat (lines : List LogLine) (line : LogLine) :
    renderAll (lines ++ [line]) = renderAll lines ++ line.render (lines.length + 1) := by
  unfold renderAll
  rw [renderFrom_append, Nat.add_comm]
  simp [renderFrom, String.join]

/-- A line of a process with a proper name, whose text is one line. -/
structure IsLegible (line : LogLine) : Prop where
  process : GroupSpec.AcceptsName line.process
  text : '\n' ∉ line.text.toList

def content (line : LogLine) : List Char :=
  (line.process.toList ++ [line.stream.mark]) ++ ' ' :: line.text.toList

theorem toList_render (number : Nat) (line : LogLine) :
    (line.render number).toList = (Text.digits number ++ ' ' :: line.content) ++ ['\n'] := by
  simp [render, content]

theorem bare_process {line : LogLine} (legible : line.IsLegible) {c : Char}
    (blank : Text.isBlank c = true) : c ∉ line.process.toList ++ [line.stream.mark] := by
  obtain ⟨-, solid⟩ := (GroupSpec.acceptsName_iff line.process).mp legible.process
  intro member
  have filled : Text.isBlank c = false := by
    rcases List.mem_append.mp member with inName | marked
    · exact solid c inName
    · rw [List.mem_singleton.mp marked]
      cases line.stream <;> decide
  rw [blank] at filled
  cases filled

/-- Although names may hold marks: the first blank ends the name with its mark. -/
theorem content_injective {line line' : LogLine} (legible : line.IsLegible) (legible' : line'.IsLegible)
    (same : line.content = line'.content) : line = line' := by
  obtain ⟨marked, texts⟩ := Text.parted (bare_process legible (by decide))
    (bare_process legible' (by decide)) same
  obtain ⟨names, marks⟩ := List.append_inj' marked rfl
  have streams := Stream.mark_injective (List.cons.inj marks).1
  have processes := String.toList_inj.mp names
  have written := String.toList_inj.mp texts
  cases line
  cases line'
  cases processes
  cases streams
  cases written
  rfl

theorem bare_line {line : LogLine} (legible : line.IsLegible) (number : Nat) :
    '\n' ∉ Text.digits number ++ ' ' :: line.content := by
  intro member
  rcases List.mem_append.mp member with inNumber | later
  · exact absurd (Text.isDigit_of_mem_digits inNumber) (by decide)
  · rcases List.mem_cons.mp later with blank | inContent
    · exact absurd blank (by decide)
    · rcases List.mem_append.mp inContent with inName | later
      · exact bare_process legible (by decide) inName
      · rcases List.mem_cons.mp later with blank | inText
        · exact absurd blank (by decide)
        · exact legible.text inText

theorem toList_renderFrom (number : Nat) (line : LogLine) (rest : List LogLine) :
    (String.join (renderFrom number (line :: rest))).toList =
      (Text.digits number ++ ' ' :: line.content) ++
        '\n' :: (String.join (renderFrom (number + 1) rest)).toList := by
  rw [renderFrom, String.toList_join, List.flatMap_cons, ← String.toList_join, toList_render,
    List.append_assoc, List.singleton_append]

theorem renderFrom_injective {number : Nat} {lines lines' : List LogLine}
    (legible : ∀ line ∈ lines, line.IsLegible) (legible' : ∀ line ∈ lines', line.IsLegible)
    (same : String.join (renderFrom number lines) = String.join (renderFrom number lines')) :
    lines = lines' := by
  have chars := congrArg String.toList same
  induction lines generalizing number lines' with
  | nil =>
      cases lines' with
      | nil => rfl
      | cons line' rest' =>
          rw [toList_renderFrom] at chars
          simp [renderFrom, String.join] at chars
  | cons line rest ih =>
      cases lines' with
      | nil =>
          rw [toList_renderFrom] at chars
          simp [renderFrom, String.join] at chars
      | cons line' rest' =>
          rw [toList_renderFrom, toList_renderFrom] at chars
          obtain ⟨legibleLine, legibleRest⟩ := List.forall_mem_cons.mp legible
          obtain ⟨legibleLine', legibleRest'⟩ := List.forall_mem_cons.mp legible'
          obtain ⟨first, others⟩ := Text.parted (bare_line legibleLine number)
            (bare_line legibleLine' number) chars
          -- both lines are the first of what is left, so that they have the same number
          have contents := (List.cons.inj (List.append_cancel_left first)).2
          rw [content_injective legibleLine legibleLine' contents,
            ih legibleRest legibleRest' (String.toList_inj.mp others) others]

theorem renderAll_injective {lines lines' : List LogLine} (legible : ∀ line ∈ lines, line.IsLegible)
    (legible' : ∀ line ∈ lines', line.IsLegible)
    (same : Text.Utf8.encode (renderAll lines) = Text.Utf8.encode (renderAll lines')) :
    lines = lines' :=
  renderFrom_injective legible legible' (Text.Utf8.encode_injective same)

end LogLine

end RegisterPlane
