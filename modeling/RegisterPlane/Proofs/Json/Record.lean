import Mathlib.Tactic
import RegisterPlane.Json.Record
import RegisterPlane.Proofs.Json.Scan

namespace RegisterPlane.Json

theorem mapM_map {α β γ : Type} {read : α → Option β} {write : γ → α} {value : γ → β} {xs : List γ}
    (back : ∀ x ∈ xs, read (write x) = some (value x)) :
    (xs.map write).mapM read = some (xs.map value) := by
  induction xs with
  | nil => rfl
  | cons x rest ih =>
      rw [List.map_cons, List.mapM_cons, back x List.mem_cons_self,
        ih fun other member => back other (List.mem_cons_of_mem x member)]
      rfl

theorem mapM_back {α β : Type} {read : α → Option β} {write : β → α} {xs : List β}
    (back : ∀ x ∈ xs, read (write x) = some x) : (xs.map write).mapM read = some xs := by
  rw [mapM_map back, List.map_id']

/-- The members of an object: the fields of a record without those that are absent. -/
def filled (fields : List (String × Option Json)) : List (String × Json) :=
  fields.flatMap fun field => present field.1 field.2

theorem name_of_mem_present {name : String} {field : Option Json} {m : String × Json}
    (member : m ∈ present name field) : m.1 = name := by
  cases field with
  | none => cases member
  | some value => rw [List.mem_singleton.mp member]

theorem filter_present_self (name : String) (field : Option Json) :
    (present name field).filter (·.1 == name) = present name field := by
  rw [List.filter_eq_self]
  intro m member
  rw [name_of_mem_present member, beq_self_eq_true]

theorem filter_filled_absent {fields : List (String × Option Json)} {name : String}
    (absent : name ∉ fields.map (·.1)) : (filled fields).filter (·.1 == name) = [] := by
  rw [List.filter_eq_nil_iff]
  intro m member same
  obtain ⟨field, here, inside⟩ := List.mem_flatMap.mp member
  rw [name_of_mem_present inside, beq_iff_eq] at same
  exact absent (List.mem_map.mpr ⟨field, here, same⟩)

theorem filter_filled {fields : List (String × Option Json)} (distinct : (fields.map (·.1)).Nodup)
    {name : String} {field : Option Json} (member : (name, field) ∈ fields) :
    (filled fields).filter (·.1 == name) = present name field := by
  induction fields with
  | nil => cases member
  | cons first rest ih =>
      rw [List.map_cons, List.nodup_cons] at distinct
      obtain ⟨apart, distinct⟩ := distinct
      change (present first.1 first.2 ++ filled rest).filter _ = _
      rw [List.filter_append]
      rcases List.mem_cons.mp member with rfl | behind
      · rw [filter_present_self, filter_filled_absent apart, List.append_nil]
      · have other : first.1 ≠ name := by
          rintro rfl
          exact apart (List.mem_map.mpr ⟨_, behind, rfl⟩)
        have none : (present first.1 first.2).filter (·.1 == name) = [] := by
          rw [List.filter_eq_nil_iff]
          intro m inside same
          rw [name_of_mem_present inside, beq_iff_eq] at same
          exact other same
        rw [none, List.nil_append, ih distinct behind]

theorem member_filled {fields : List (String × Option Json)} (distinct : (fields.map (·.1)).Nodup)
    {name : String} {field : Option Json} (member : (name, field) ∈ fields) :
    member? (filled fields) name = some field := by
  unfold member?
  rw [filter_filled distinct member]
  cases field <;> rfl

theorem fields_filled {fields : List (String × Option Json)} (distinct : (fields.map (·.1)).Nodup) :
    (object (filled fields)).fields? (fields.map (·.1)) = some (fields.map (·.2)) :=
  mapM_map fun _ member => member_filled distinct member

theorem variant_filled {tag variant : String} {around : Nat} {fields : List (String × Option Json)}
    (untagged : tag ∉ fields.map (·.1)) (sound : (object (filled fields)).isSound = true)
    (shallow : around + (object (filled fields)).depth ≤ depthLimit) :
    (object ((tag, string variant) :: filled fields)).variant? tag around =
      some (variant, object (filled fields)) := by
  have none := filter_filled_absent untagged
  have others : (filled fields).filter (·.1 != tag) = filled fields := by
    rw [List.filter_eq_self]
    intro m member
    have other := List.filter_eq_nil_iff.mp none m member
    simpa [bne] using other
  have aside : (object (filled fields)).canSetAside around = true := by
    rw [canSetAside, sound, decide_eq_true shallow]
    rfl
  have named : ((tag, string variant) :: filled fields).filter (·.1 == tag) = [(tag, string variant)] := by
    rw [List.filter_cons, beq_self_eq_true, if_pos rfl, none]
  have rest : ((tag, string variant) :: filled fields).filter (·.1 != tag) = filled fields := by
    rw [List.filter_cons, bne_self_eq_false, if_neg (by decide), others]
  simp only [variant?]
  rw [named, rest]
  exact if_pos aside

theorem optional_map {α : Type} {read : Json → Option α} {write : α → Json} {field : Option α}
    (visible : ∀ x ∈ field, write x ≠ null) (back : ∀ x ∈ field, read (write x) = some x) :
    optional? read (field.map write) = some field := by
  cases field with
  | none => rfl
  | some x =>
      have seen := visible x rfl
      rw [Option.map_some, optional?, back x rfl]
      · rfl
      · exact seen

theorem membersSpelled_append {front back : List (String × Json)} (first : MembersSpelled front)
    (rest : MembersSpelled back) : MembersSpelled (front ++ back) := by
  induction front with
  | nil => exact rest
  | cons m others ih => exact ⟨first.1, ih first.2⟩

theorem isSpelled_filled {fields : List (String × Option Json)}
    (spelled : ∀ field ∈ fields, ∀ j ∈ field.2, j.IsSpelled) : (object (filled fields)).IsSpelled := by
  change MembersSpelled (filled fields)
  induction fields with
  | nil => exact trivial
  | cons first rest ih =>
      have others := ih fun field member => spelled field (List.mem_cons_of_mem first member)
      have here := spelled first List.mem_cons_self
      have alone : MembersSpelled (present first.1 first.2) := by
        cases same : first.2 with
        | none => exact trivial
        | some j => exact ⟨here j same, trivial⟩
      exact membersSpelled_append alone others

end RegisterPlane.Json
