import RegisterPlane.Proofs.Assignment.Literal
import RegisterPlane.Proofs.Group.Specification

namespace RegisterPlane

open Assignment

structure Declares (registers : List (RegisterName × Value)) : Prop where
  distinct : (registers.map (·.1)).Nodup
  solid : ∀ name value, (name, value) ∈ registers → ¬IsHollow value

theorem names_of_assigns {declarations : List Declaration} {registers : List (RegisterName × Value)}
    (assigned : List.Forall₂ Assigns declarations registers) :
    registers.map (·.1.text) = declarations.map (·.1) := by
  induction assigned with
  | nil => rfl
  | cons here _ ih => rw [List.map_cons, List.map_cons, here.name, ih]

theorem declares_of_assigns {declarations : List Declaration} {registers : List (RegisterName × Value)}
    (assigned : List.Forall₂ Assigns declarations registers) (once : (declarations.map (·.1)).Nodup) :
    Declares registers where
  distinct := by
    apply List.Nodup.of_map (·.text)
    rw [List.map_map]
    exact (names_of_assigns assigned).symm ▸ once
  solid := by
    intro name value member
    obtain ⟨d, -, assigns⟩ := forall₂_mem_right assigned member
    exact solid_of_infer assigns.value

theorem declares_perm {registers others : List (RegisterName × Value)} (same : registers.Perm others)
    (declares : Declares registers) : Declares others where
  distinct := (same.map (·.1)).nodup_iff.mp declares.distinct
  solid := fun name value member => declares.solid name value (same.mem_iff.mpr member)

namespace GroupSpec

theorem declares_overlay {inherited own : List (RegisterName × Value)} (group : Declares inherited)
    (process : Declares own) : Declares (overlay inherited own) := by
  apply declares_perm (List.mergeSort_perm _ _).symm
  constructor
  · rw [List.map_append]
    apply List.Nodup.append
    · exact group.distinct.sublist (List.filter_sublist.map _)
    · exact process.distinct
    · intro name early late
      obtain ⟨first, kept, rfl⟩ := List.mem_map.mp early
      obtain ⟨second, declared, same⟩ := List.mem_map.mp late
      have free := (List.mem_filter.mp kept).2
      have taken : own.any (fun entry => entry.1 == first.1) = true :=
        List.any_eq_true.mpr ⟨second, declared, beq_iff_eq.mpr same⟩
      simp [taken] at free
  · intro name value member
    rcases List.mem_append.mp member with early | late
    · exact group.solid name value (List.mem_filter.mp early).1
    · exact process.solid name value late

theorem declares_resolve {g : GroupSpec} {resolved : List ResolvedProcess}
    (done : g.resolve = .ok resolved) {q : ResolvedProcess} (member : q ∈ resolved) :
    Declares q.registers := by
  obtain ⟨-, -, inherited, found, each⟩ := resolve_eq_ok_iff.mp done
  obtain ⟨assigned, once, -⟩ := resolveRegisters_eq_ok_iff.mp found
  obtain ⟨p, -, launchable, own, assigned', rfl⟩ := forall₂_mem_right each member
  exact declares_overlay (declares_of_assigns assigned once)
    (declares_of_assigns assigned' launchable.registers.once)

def AcceptsName (name : String) : Prop :=
  ∃ (g : GroupSpec) (resolved : List ResolvedProcess),
    g.resolve = .ok resolved ∧ name ∈ resolved.map (·.name)

theorem acceptsName_iff (name : String) :
    AcceptsName name ↔ name ≠ "" ∧ ∀ c ∈ name.toList, Text.isBlank c = false := by
  constructor
  · rintro ⟨g, resolved, done, member⟩
    obtain ⟨q, here, rfl⟩ := List.mem_map.mp member
    obtain ⟨-, -, inherited, -, each⟩ := resolve_eq_ok_iff.mp done
    obtain ⟨p, -, launchable, own, -, rfl⟩ := forall₂_mem_right each here
    exact ⟨launchable.named, launchable.unbroken⟩
  · rintro ⟨filled, solid⟩
    let lone : ProcessSpec := { name := name, command := ["run"] }
    have bare : Assignable [] := ⟨nofun, List.nodup_nil, nofun⟩
    have resolvable : Resolvable ⟨defaultGrace, [], [lone]⟩ := by
      refine ⟨List.cons_ne_nil _ _, bare, fun p member => ?_, List.nodup_singleton _⟩
      cases List.mem_singleton.mp member
      exact ⟨filled, solid, ⟨"run", rfl, by decide⟩, bare⟩
    obtain ⟨resolved, done⟩ := exists_resolve_iff.mpr resolvable
    obtain ⟨-, -, inherited, -, each⟩ := resolve_eq_ok_iff.mp done
    obtain ⟨q, member, alone⟩ := forall₂_mem_left each List.mem_cons_self
    obtain ⟨-, own, -, rfl⟩ := alone
    exact ⟨_, resolved, done, List.mem_map.mpr ⟨_, member, rfl⟩⟩

end GroupSpec

end RegisterPlane
