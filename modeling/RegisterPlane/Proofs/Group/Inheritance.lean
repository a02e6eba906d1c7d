import RegisterPlane.Proofs.Assignment.Scan
import RegisterPlane.Proofs.Group.Resolution

namespace RegisterPlane

open Assignment

/-- The value that some declarations give to a register. -/
def Gives (declarations : List Declaration) (name : RegisterName) (value : Value) : Prop :=
  ∃ literal, (name.text, literal) ∈ declarations ∧ infer name.text literal = .ok value

section

variable {declarations : List Declaration} {registers inherited own : List (RegisterName × Value)}
  {name : RegisterName} {value : Value}

theorem mem_iff_gives (assigned : List.Forall₂ Assigns declarations registers) :
    (name, value) ∈ registers ↔ Gives declarations name value := by
  constructor
  · intro member
    obtain ⟨⟨raw, literal⟩, declared, rfl, inferred⟩ := forall₂_mem_right assigned member
    exact ⟨literal, declared, inferred⟩
  · rintro ⟨literal, declared, inferred⟩
    obtain ⟨⟨name', value'⟩, member, same, inferred'⟩ := forall₂_mem_left assigned declared
    cases RegisterName.eq_of_text same
    rw [inferred] at inferred'
    cases inferred'
    exact member

theorem named_iff_declared (assigned : List.Forall₂ Assigns declarations registers) :
    name ∈ registers.map (·.1) ↔ name.text ∈ declarations.map (·.1) := by
  rw [← names_of_assigns assigned, List.mem_map, List.mem_map]
  constructor
  · rintro ⟨register, member, rfl⟩
    exact ⟨register, member, rfl⟩
  · rintro ⟨register, member, same⟩
    exact ⟨register, member, RegisterName.eq_of_text same⟩

namespace GroupSpec

theorem mem_overlay {register : RegisterName × Value} :
    register ∈ overlay inherited own ↔
      register ∈ own ∨ register.1 ∉ own.map (·.1) ∧ register ∈ inherited := by
  have absent : (!own.any (·.1 == register.1)) = true ↔ register.1 ∉ own.map (·.1) := by
    rw [Bool.not_eq_true', ← Bool.not_eq_true, List.any_eq_true, List.mem_map]
    simp only [beq_iff_eq]
  unfold overlay
  rw [List.mem_mergeSort, List.mem_append, List.mem_filter, absent, or_comm, and_comm]

theorem names_overlay :
    name ∈ (overlay inherited own).map (·.1) ↔ name ∈ inherited.map (·.1) ∨ name ∈ own.map (·.1) := by
  simp only [List.mem_map, mem_overlay]
  constructor
  · rintro ⟨register, declared | ⟨-, declared⟩, rfl⟩
    · exact Or.inr ⟨register, declared, rfl⟩
    · exact Or.inl ⟨register, declared, rfl⟩
  · intro either
    -- a name that the process declares too is the process's own
    by_cases mine : name ∈ own.map (·.1)
    · obtain ⟨register, declared, rfl⟩ := List.mem_map.mp mine
      exact ⟨register, Or.inl declared, rfl⟩
    · rcases either with ⟨register, declared, rfl⟩ | theirs
      · exact ⟨register, Or.inr ⟨by simpa using mine, declared⟩, rfl⟩
      · exact absurd (List.mem_map.mpr theirs) mine

end GroupSpec

end

/-- What a process of a group is resolved to. -/
structure Resolves (g : GroupSpec) (p : ProcessSpec) (q : ResolvedProcess) : Prop where
  name : q.name = p.name
  command : q.command = p.command
  required : q.required = p.required
  workingDirectory : q.workingDirectory = p.workingDirectory
  environment : q.environment = p.environment
  ascending : q.registers.Pairwise fun a b => a.1.text < b.1.text
  names : ∀ name : RegisterName, name ∈ q.registers.map (·.1) ↔
    name.text ∈ g.registers.map (·.1) ∨ name.text ∈ p.registers.map (·.1)
  values : ∀ name value, (name, value) ∈ q.registers ↔
    Gives p.registers name value ∨ name.text ∉ p.registers.map (·.1) ∧ Gives g.registers name value
  configuration : q.configuration = p.environment ++ q.registers.map fun r => encode r.1 r.2
  keys : ((q.registers.map fun r => encode r.1 r.2).map (·.1)).Nodup

theorem GroupSpec.resolves_of_resolve {g : GroupSpec} {resolved : List ResolvedProcess}
    (done : g.resolve = .ok resolved) : List.Forall₂ (Resolves g) g.processes resolved := by
  obtain ⟨-, -, inherited, found, each⟩ := resolve_eq_ok_iff.mp done
  obtain ⟨theirs, -, -⟩ := resolveRegisters_eq_ok_iff.mp found
  apply forall₂_imp_of_mem each
  intro p _ q member alone
  have declares := declares_resolve done member
  obtain ⟨-, own, mine, rfl⟩ := alone
  exact {
    name := rfl
    command := rfl
    required := rfl
    workingDirectory := rfl
    environment := rfl
    ascending := (sortedByName_mergeSort _).strictly declares.distinct
    names := fun name => by rw [names_overlay, named_iff_declared theirs, named_iff_declared mine]
    values := fun name value => by
      rw [mem_overlay, mem_iff_gives mine, mem_iff_gives theirs, named_iff_declared mine]
    configuration := rfl
    keys := distinct_keys declares.distinct }

/-- A group resolves exactly if it has processes, each with a name of its own that is one word and with a
program to run, and if all declarations of registers, of the group and of every process, are fit and assign no
register twice. Its processes come out as declared and in their order. Their registers ascend strictly; they
are those of the group and of the process, with the process's literal where it has one and the group's
elsewhere. -/
theorem group_resolution (g : GroupSpec) :
    ((∃ resolved, g.resolve = .ok resolved) ↔ Resolvable g) ∧
      ∀ resolved, g.resolve = .ok resolved → List.Forall₂ (Resolves g) g.processes resolved :=
  ⟨GroupSpec.exists_resolve_iff, fun _ done => GroupSpec.resolves_of_resolve done⟩

def plantGroup : GroupSpec where
  gracePeriod := GroupSpec.defaultGrace
  registers := [("level", .integer 7), ("mode", .string "auto")]
  processes := [
    { name := "boiler", command := ["boiler"], registers := [("mode", .bool true)] },
    { name := "relay", command := ["relay", "-v"], required := false, environment := [("LANG", "C")] }]

def plantBoiler : ResolvedProcess :=
  ⟨"boiler", ["boiler"], true, none, [],
    [(⟨"level", by decide⟩, .array (.natural .w8) [(7 : BitVec 8)]),
      (⟨"mode", by decide⟩, .array .bit [true])]⟩

def plantRelay : ResolvedProcess :=
  ⟨"relay", ["relay", "-v"], false, none, [("LANG", "C")],
    [(⟨"level", by decide⟩, .array (.natural .w8) [(7 : BitVec 8)]), (⟨"mode", by decide⟩, .string "auto")]⟩

theorem group_resolution_plant :
    plantGroup.resolve = .ok [plantBoiler, plantRelay] ∧ Resolvable plantGroup ∧
      List.Forall₂ (Resolves plantGroup) plantGroup.processes [plantBoiler, plantRelay] := by
  have sorted : ∀ p ∈ [plantBoiler, plantRelay], ∀ registers, registers = p.registers →
      registers.mergeSort (fun a b => a.1.le b.1) = p.registers := by
    rintro p member _ rfl
    apply List.mergeSort_of_pairwise
    revert p
    decide
  have done : plantGroup.resolve = .ok [plantBoiler, plantRelay] := by
    let launched (boiler relay : List (RegisterName × Value)) : Except GroupError (List ResolvedProcess) :=
      .ok [{ plantBoiler with registers := boiler }, { plantRelay with registers := relay }]
    exact congrArg₂ launched (sorted plantBoiler (by decide) _ rfl) (sorted plantRelay (by decide) _ rfl)
  exact ⟨done, (group_resolution plantGroup).1.mp ⟨_, done⟩, (group_resolution plantGroup).2 _ done⟩

end RegisterPlane
