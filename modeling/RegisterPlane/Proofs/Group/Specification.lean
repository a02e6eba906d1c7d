import RegisterPlane.Group.Basic
import RegisterPlane.Proofs.Outcome
import RegisterPlane.Proofs.Register.Name

namespace RegisterPlane

open Assignment

/-- Declarations that all stand for registers: each name is one and is declared once, and each literal has a
value. -/
structure Assignable (declarations : List Declaration) : Prop where
  named : ∀ d ∈ declarations, ∃ name, RegisterName.parse d.1 = .ok name
  once : (declarations.map (·.1)).Nodup
  valued : ∀ d ∈ declarations, ∃ value, infer d.1 d.2 = .ok value

/-- A process whose name is one word, whose command names a program, and whose declarations stand for
registers. -/
structure Launchable (p : ProcessSpec) : Prop where
  named : p.name ≠ ""
  unbroken : ∀ c ∈ p.name.toList, Text.isBlank c = false
  command : ∃ program ∈ p.command.head?, program ≠ ""
  registers : Assignable p.registers

structure Resolvable (g : GroupSpec) : Prop where
  filled : g.processes ≠ []
  registers : Assignable g.registers
  processes : ∀ p ∈ g.processes, Launchable p
  distinct : (g.processes.map (·.name)).Nodup

structure Assigns (d : Declaration) (register : RegisterName × Value) : Prop where
  name : register.1.text = d.1
  value : infer d.1 d.2 = .ok register.2

namespace GroupSpec

variable {owner : String} {seen : List RegisterName} {registers : List (RegisterName × Value)}

theorem resolveRegisters_cons_iff {raw : String} {literal : Yaml} {rest : List Declaration} :
    resolveRegisters owner seen ((raw, literal) :: rest) = .ok registers ↔
      ∃ name value others, name.text = raw ∧ name ∉ seen ∧ infer raw literal = .ok value ∧
        resolveRegisters owner (name :: seen) rest = .ok others ∧ registers = (name, value) :: others := by
  constructor
  · intro resolved
    unfold resolveRegisters at resolved
    obtain ⟨name, parsed, resolved⟩ := ok_of_bind resolved
    split at resolved
    · cases resolved
    · rename_i fresh
      obtain ⟨value, inferred, resolved⟩ := ok_of_bind resolved
      obtain ⟨others, found, resolved⟩ := ok_of_bind resolved
      cases resolved
      refine ⟨name, value, others, RegisterName.text_of_parse (ok_of_mapError parsed), ?_,
        ok_of_mapError inferred, found, rfl⟩
      intro early
      exact fresh (List.contains_iff_mem.mpr early)
  · rintro ⟨name, value, others, rfl, fresh, inferred, found, rfl⟩
    have fresh' : ¬seen.contains name = true := fun early => fresh (List.contains_iff_mem.mp early)
    rw [resolveRegisters, RegisterName.parse_of_text rfl, inferred]
    simp only [Except.mapError, bind, Except.bind, if_neg fresh', found]
    rfl

theorem resolveRegisters_eq_ok_iff {declarations : List Declaration} :
    resolveRegisters owner seen declarations = .ok registers ↔
      List.Forall₂ Assigns declarations registers ∧ (declarations.map (·.1)).Nodup ∧
        ∀ name ∈ seen, name.text ∉ declarations.map (·.1) := by
  -- the names seen so far grow with the declarations, so that a later name differs from every earlier one
  induction declarations generalizing seen registers with
  | nil =>
      simp only [resolveRegisters, Except.ok.injEq, List.forall₂_nil_left_iff, eq_comm]
      simp
  | cons d rest ih =>
      obtain ⟨raw, literal⟩ := d
      simp only [resolveRegisters_cons_iff, ih, List.map_cons, List.nodup_cons, List.forall₂_cons_left_iff,
        List.mem_cons, not_or]
      constructor
      · rintro ⟨name, value, others, rfl, fresh, inferred, ⟨assigned, once, unseen⟩, rfl⟩
        refine ⟨⟨(name, value), others, ⟨rfl, inferred⟩, assigned, rfl⟩, ⟨unseen name (Or.inl rfl), once⟩, ?_⟩
        intro other early
        refine ⟨fun same => ?_, unseen other (Or.inr early)⟩
        rw [RegisterName.eq_of_text same] at early
        exact fresh early
      · rintro ⟨⟨⟨name, value⟩, others, ⟨rfl, inferred⟩, assigned, rfl⟩, ⟨apart, once⟩, unseen⟩
        refine ⟨name, value, others, rfl, fun early => (unseen name early).1 rfl, inferred, ⟨assigned, once, ?_⟩,
          rfl⟩
        rintro other (rfl | early)
        · exact apart
        · exact (unseen other early).2

theorem exists_resolveRegisters_iff {declarations : List Declaration} :
    (∃ registers, resolveRegisters owner [] declarations = .ok registers) ↔ Assignable declarations := by
  simp only [resolveRegisters_eq_ok_iff]
  constructor
  · rintro ⟨registers, assigned, once, -⟩
    refine ⟨fun d member => ?_, once, fun d member => ?_⟩
    · obtain ⟨register, -, assigns⟩ := forall₂_mem_left assigned member
      exact ⟨register.1, RegisterName.parse_of_text assigns.name⟩
    · obtain ⟨register, -, assigns⟩ := forall₂_mem_left assigned member
      exact ⟨register.2, assigns.value⟩
  · rintro ⟨named, once, valued⟩
    have assigned : ∀ d ∈ declarations, ∃ register, Assigns d register := by
      intro d member
      obtain ⟨name, parsed⟩ := named d member
      obtain ⟨value, inferred⟩ := valued d member
      exact ⟨(name, value), RegisterName.text_of_parse parsed, inferred⟩
    obtain ⟨registers, each⟩ := exists_forall₂ assigned
    exact ⟨registers, each, once, fun _ early => by cases early⟩

theorem processFault_eq_none_iff (seen : List String) (p : ProcessSpec) :
    processFault? seen p = none ↔
      (p.name ≠ "" ∧ ∀ c ∈ p.name.toList, Text.isBlank c = false) ∧ p.name ∉ seen ∧
        ∃ program ∈ p.command.head?, program ≠ "" := by
  have proper : ¬(p.name.isEmpty || p.name.toList.any Text.isBlank) = true ↔
      p.name ≠ "" ∧ ∀ c ∈ p.name.toList, Text.isBlank c = false := by simp
  have fresh : ¬seen.contains p.name = true ↔ p.name ∉ seen := not_congr List.contains_iff_mem
  have command : ¬p.command.head?.all (·.isEmpty) = true ↔ ∃ program ∈ p.command.head?, program ≠ "" := by
    cases p.command.head? <;> simp
  rw [← proper, ← fresh, ← command]
  unfold processFault?
  split
  · rename_i bad
    exact iff_of_false nofun fun fine => fine.1 bad
  · rename_i good
    split
    · rename_i taken
      exact iff_of_false nofun fun fine => fine.2.1 taken
    · rename_i free
      split
      · rename_i empty
        exact iff_of_false nofun fun fine => fine.2.2 empty
      · rename_i filled
        exact iff_of_true rfl ⟨good, free, filled⟩

theorem resolveProcess_eq_ok_iff {inherited : List (RegisterName × Value)} {seen : List String}
    {p : ProcessSpec} {q : ResolvedProcess} :
    resolveProcess inherited seen p = .ok q ↔
      processFault? seen p = none ∧ ∃ own, resolveRegisters p.name [] p.registers = .ok own ∧
        q = ⟨p.name, p.command, p.required, p.workingDirectory, p.environment, overlay inherited own⟩ := by
  unfold resolveProcess
  cases processFault? seen p with
  | some fault =>
      constructor
      · intro resolved
        cases resolved
      · rintro ⟨faultless, -⟩
        cases faultless
  | none =>
      constructor
      · intro resolved
        obtain ⟨own, found, resolved⟩ := ok_of_bind resolved
        cases resolved
        exact ⟨rfl, own, found, rfl⟩
      · rintro ⟨-, own, found, rfl⟩
        rw [found]
        rfl

structure ResolvedAlone (inherited : List (RegisterName × Value)) (p : ProcessSpec) (q : ResolvedProcess) :
    Prop where
  launchable : Launchable p
  resolved : ∃ own, List.Forall₂ Assigns p.registers own ∧
    q = ⟨p.name, p.command, p.required, p.workingDirectory, p.environment, overlay inherited own⟩

theorem resolveProcess_eq_ok_iff_alone {inherited : List (RegisterName × Value)} {seen : List String}
    {p : ProcessSpec} {q : ResolvedProcess} :
    resolveProcess inherited seen p = .ok q ↔ p.name ∉ seen ∧ ResolvedAlone inherited p q := by
  rw [resolveProcess_eq_ok_iff, processFault_eq_none_iff]
  constructor
  · rintro ⟨⟨⟨named, unbroken⟩, fresh, command⟩, own, found, rfl⟩
    have assignable := exists_resolveRegisters_iff.mp ⟨own, found⟩
    exact ⟨fresh, ⟨named, unbroken, command, assignable⟩, own, (resolveRegisters_eq_ok_iff.mp found).1, rfl⟩
  · rintro ⟨fresh, ⟨named, unbroken, command, assignable⟩, own, assigned, rfl⟩
    refine ⟨⟨⟨named, unbroken⟩, fresh, command⟩, own, ?_, rfl⟩
    exact resolveRegisters_eq_ok_iff.mpr ⟨assigned, assignable.once, fun _ early => by cases early⟩

theorem resolveProcesses_eq_ok_iff {inherited : List (RegisterName × Value)} {seen : List String}
    {processes : List ProcessSpec} {resolved : List ResolvedProcess} :
    resolveProcesses inherited seen processes = .ok resolved ↔
      List.Forall₂ (ResolvedAlone inherited) processes resolved ∧ (processes.map (·.name)).Nodup ∧
        ∀ name ∈ seen, name ∉ processes.map (·.name) := by
  induction processes generalizing seen resolved with
  | nil =>
      simp only [resolveProcesses, Except.ok.injEq, List.forall₂_nil_left_iff, eq_comm]
      simp
  | cons p rest ih =>
      have first : resolveProcesses inherited seen (p :: rest) = .ok resolved ↔
          ∃ q others, resolveProcess inherited seen p = .ok q ∧
            resolveProcesses inherited (p.name :: seen) rest = .ok others ∧ resolved = q :: others := by
        constructor
        · intro done
          unfold resolveProcesses at done
          obtain ⟨q, first, done⟩ := ok_of_bind done
          obtain ⟨others, later, done⟩ := ok_of_bind done
          cases done
          exact ⟨q, others, first, later, rfl⟩
        · rintro ⟨q, others, first, later, rfl⟩
          rw [resolveProcesses, first, later]
          rfl
      simp only [first, ih, resolveProcess_eq_ok_iff_alone, List.map_cons, List.nodup_cons,
        List.forall₂_cons_left_iff, List.mem_cons, not_or]
      constructor
      · rintro ⟨q, others, ⟨fresh, alone⟩, ⟨each, distinct, unseen⟩, rfl⟩
        refine ⟨⟨q, others, alone, each, rfl⟩, ⟨unseen _ (Or.inl rfl), distinct⟩, fun name early => ⟨?_, ?_⟩⟩
        · rintro rfl
          exact fresh early
        · exact unseen name (Or.inr early)
      · rintro ⟨⟨q, others, alone, each, rfl⟩, ⟨apart, distinct⟩, unseen⟩
        refine ⟨q, others, ⟨fun early => (unseen _ early).1 rfl, alone⟩, ⟨each, distinct, ?_⟩, rfl⟩
        rintro name (rfl | early)
        · exact apart
        · exact (unseen name early).2

theorem resolve_eq_ok_iff {g : GroupSpec} {resolved : List ResolvedProcess} :
    g.resolve = .ok resolved ↔ g.processes ≠ [] ∧ (g.processes.map (·.name)).Nodup ∧
      ∃ inherited, resolveRegisters scope [] g.registers = .ok inherited ∧
        List.Forall₂ (ResolvedAlone inherited) g.processes resolved := by
  have later : ∀ inherited, resolveProcesses inherited [] g.processes = .ok resolved ↔
      List.Forall₂ (ResolvedAlone inherited) g.processes resolved ∧ (g.processes.map (·.name)).Nodup := by
    intro inherited
    rw [resolveProcesses_eq_ok_iff]
    simp
  constructor
  · intro done
    unfold resolve at done
    split at done
    · cases done
    · rename_i filled
      obtain ⟨inherited, found, done⟩ := ok_of_bind done
      obtain ⟨each, distinct⟩ := (later inherited).mp done
      exact ⟨fun none => filled (List.isEmpty_iff.mpr none), distinct, inherited, found, each⟩
  · rintro ⟨filled, distinct, inherited, found, each⟩
    have filled' : ¬g.processes.isEmpty = true := fun none => filled (List.isEmpty_iff.mp none)
    unfold resolve
    rw [if_neg filled']
    change (resolveRegisters scope [] g.registers >>= fun inherited =>
      resolveProcesses inherited [] g.processes) = _
    rw [found]
    exact (later inherited).mpr ⟨each, distinct⟩

theorem exists_resolve_iff {g : GroupSpec} : (∃ resolved, g.resolve = .ok resolved) ↔ Resolvable g := by
  simp only [resolve_eq_ok_iff]
  constructor
  · rintro ⟨resolved, filled, distinct, inherited, found, each⟩
    refine ⟨filled, exists_resolveRegisters_iff.mp ⟨inherited, found⟩, fun p member => ?_, distinct⟩
    obtain ⟨q, -, alone⟩ := forall₂_mem_left each member
    exact alone.launchable
  · rintro ⟨filled, registers, processes, distinct⟩
    obtain ⟨inherited, found⟩ : ∃ inherited, resolveRegisters scope [] g.registers = .ok inherited :=
      exists_resolveRegisters_iff.mpr registers
    have alone : ∀ p ∈ g.processes, ∃ q, ResolvedAlone inherited p q := by
      intro p member
      have launchable := processes p member
      obtain ⟨own, resolved⟩ : ∃ own, resolveRegisters p.name [] p.registers = .ok own :=
        exists_resolveRegisters_iff.mpr launchable.registers
      exact ⟨_, launchable, own, (resolveRegisters_eq_ok_iff.mp resolved).1, rfl⟩
    obtain ⟨resolved, each⟩ := exists_forall₂ alone
    exact ⟨resolved, filled, distinct, inherited, found, each⟩

end GroupSpec

end RegisterPlane
