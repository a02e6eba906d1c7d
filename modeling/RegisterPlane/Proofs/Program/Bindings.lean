import Mathlib.Tactic
import RegisterPlane.Program.Start

namespace RegisterPlane.Program

theorem bindingsOf_append (bindings : List (String × String)) (name value : String) :
    bindingsOf (bindings ++ [(name, value)]) =
      (bindingsOf bindings).filter (·.name != name) ++ [⟨name, value, true⟩] := by
  unfold bindingsOf
  rw [List.foldl_append]
  rfl

theorem filter_bindingsOf (wanted : String → Bool) (bindings : List (String × String)) :
    (bindingsOf bindings).filter (fun v => wanted v.name) =
      bindingsOf (bindings.filter fun binding => wanted binding.1) := by
  induction bindings using List.reverseRecOn with
  | nil => rfl
  | append_singleton earlier binding ih =>
      obtain ⟨name, value⟩ := binding
      rw [bindingsOf_append, List.filter_append, List.filter_append, List.filter_filter]
      by_cases here : wanted name = true
      · have last : [(name, value)].filter (fun binding => wanted binding.1) = [(name, value)] :=
          List.filter_cons_of_pos here
        have own : [(⟨name, value, true⟩ : Variable)].filter (fun v => wanted v.name) =
            [⟨name, value, true⟩] := List.filter_cons_of_pos here
        rw [last, own, bindingsOf_append, ← ih, List.filter_filter]
        congr 2
        funext v
        exact Bool.and_comm _ _
      · have last : [(name, value)].filter (fun binding => wanted binding.1) = [] :=
          List.filter_cons_of_neg here
        have own : [(⟨name, value, true⟩ : Variable)].filter (fun v => wanted v.name) = [] :=
          List.filter_cons_of_neg here
        rw [last, own, List.append_nil, List.append_nil, ← ih]
        apply List.filter_congr
        intro v _
        by_cases same : v.name = name
        · rw [same, Bool.eq_false_iff.mpr here, Bool.false_and]
        · simp [same]

theorem bindingsOf_distinct {bindings : List (String × String)}
    (distinct : (bindings.map (·.1)).Nodup) :
    (bindingsOf bindings).map (fun v => (v.name, v.value)) = bindings := by
  induction bindings using List.reverseRecOn with
  | nil => rfl
  | append_singleton earlier binding ih =>
      obtain ⟨name, value⟩ := binding
      rw [List.map_append, List.nodup_append] at distinct
      obtain ⟨before, -, apart⟩ := distinct
      have kept : (bindingsOf earlier).filter (·.name != name) = bindingsOf earlier := by
        apply List.filter_eq_self.mpr
        intro v member
        have found : (v.name, v.value) ∈ earlier := by
          rw [← ih before]
          exact List.mem_map.mpr ⟨v, member, rfl⟩
        have other := apart v.name (List.mem_map.mpr ⟨_, found, rfl⟩) name (by simp)
        simpa using other
      rw [bindingsOf_append, kept, List.map_append, ih before]
      rfl

end RegisterPlane.Program
