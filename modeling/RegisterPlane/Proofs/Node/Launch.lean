import RegisterPlane.Node.Basic
import RegisterPlane.Proofs.Assignment.Environment
import RegisterPlane.Proofs.Group.Resolution
import RegisterPlane.Proofs.Program.Bindings
import RegisterPlane.Proofs.Store.Overrides

/-! From a group's declarations to the store of a node: the registers of a resolved process travel in its
environment and arrive unchanged. -/

namespace RegisterPlane

namespace Node

/-- The registers that describe the node itself. -/
def reserved : List RegisterName :=
  [nameRegister, socketRegister, backingRegister, pidRegister, uptimeRegister]

variable {vitals : Vitals} {now : Timestamp} {overrides : List (RegisterName × Value)}

theorem declared_other {text : String} (other : ∀ name ∈ reserved, name.text ≠ text) :
    Store.declared? now (seed (plainSeed vitals) id overrides) text = none := by
  have apart : nameRegister.text ≠ text ∧ socketRegister.text ≠ text ∧ backingRegister.text ≠ text ∧
      pidRegister.text ≠ text ∧ uptimeRegister.text ≠ text := by
    simpa [reserved] using other
  obtain ⟨noName, noSocket, noBacking, noPid, noUptime⟩ := apart
  simp [Store.declared?, Seed.computed?, Seed.default?, seed, plainSeed, noName, noSocket, noBacking,
    noPid, noUptime]

theorem declared_reserved {name : RegisterName} (member : name ∈ reserved) :
    ∃ entry, Store.declared? now (seed (plainSeed vitals) id overrides) name.text = some (name, entry) := by
  simp only [reserved, List.mem_cons, List.not_mem_nil, or_false] at member
  rcases member with rfl | rfl | rfl | rfl | rfl
  · exact ⟨_, rfl⟩
  · exact ⟨_, rfl⟩
  · exact ⟨_, rfl⟩
  · exact ⟨_, rfl⟩
  · exact ⟨_, rfl⟩

theorem backing_volatile (plain : ∀ name ∈ overrides.map (·.1), name ∉ reserved) :
    backing overrides = .volatile Files := by
  have absent : overrides.find? (·.1 == backingRegister) = none := by
    apply List.find?_eq_none.mpr
    intro entry member same
    have name := plain entry.1 (List.mem_map.mpr ⟨entry, member, rfl⟩)
    rw [beq_iff_eq.mp same] at name
    exact name (by decide)
  unfold backing backingPath?
  rw [absent]

theorem textOf_stored {σ : Type} {s : Store σ} {name : RegisterName} {stored : Stored}
    (found : Store.lookup? s.entries name.text = some (name, .stored stored)) :
    ∃ text, textOf? s name = (text, s) := by
  have read : s.get name.text = (.ok (s.view name stored), s) := by
    unfold Store.get Store.entry?
    rw [found]
  unfold textOf?
  rw [read]
  split
  · rename_i same
    rw [(Prod.mk.inj same).2]
    exact ⟨_, rfl⟩
  · rename_i same
    rw [(Prod.mk.inj same).2]
    exact ⟨_, rfl⟩

/-- A node's store with overrides of names that are not reserved: each is a register beside the node's
own, which are as they are declared. -/
structure Bears (vitals : Vitals) (now : Timestamp) (overrides : List (RegisterName × Value))
    (s : Store Vitals) : Prop where
  ascending : Store.Ascending s.entries
  found : ∀ name value, (name, value) ∈ overrides →
    Store.lookup? s.entries name.text = some (name, Store.overridden now value)
  kept : ∀ text, (∀ name ∈ overrides.map (·.1), name.text ≠ text) →
    Store.lookup? s.entries text = Store.declared? now (seed (plainSeed vitals) id overrides) text

theorem build_plain (vitals : Vitals) (now : Timestamp) (fs : Files)
    (distinct : (overrides.map (·.1)).Nodup) (plain : ∀ name ∈ overrides.map (·.1), name ∉ reserved) :
    ∃ s, Store.build (seed (plainSeed vitals) id overrides) (backing overrides) now fs = .ok s ∧
      Bears vitals now overrides s := by
  have absent : ∀ name ∈ overrides.map (·.1),
      Store.lookup? (Store.declare now (seed (plainSeed vitals) id overrides)) name.text = none := by
    intro name member
    rw [Store.lookup_declare]
    apply declared_other
    intro other own same
    rw [RegisterName.eq_of_text same] at own
    exact plain name member own
  obtain ⟨after, dirty, done, found, kept⟩ := Store.overrideAll_fresh false distinct absent
  have ordered : Store.Ascending after :=
    (Store.overrideAll_keeps Store.change_ascending (Store.ascending_declare now _) done).1
  refine ⟨⟨after, .implicit, false, dirty, vitals⟩, ?_, ordered, found, ?_⟩
  · have overridden : Store.overrideAll now
        (([] : List Persisted).foldl Store.restore
          (Store.declare now (seed (plainSeed vitals) id overrides)), false)
        (seed (plainSeed vitals) id overrides).overrides = .ok (after, dirty) := done
    rw [backing_volatile plain, Store.build]
    simp only [Backing.volatile, Store.ofSeed, Except.mapError, bind, Except.bind, overridden]
    rfl
  · intro text other
    rw [kept text other, Store.lookup_declare]

theorem Bears.own {s : Store Vitals} (bears : Bears vitals now overrides s)
    (plain : ∀ name ∈ overrides.map (·.1), name ∉ reserved) {name : RegisterName}
    (member : name ∈ reserved) :
    Store.lookup? s.entries name.text =
      Store.declared? now (seed (plainSeed vitals) id overrides) name.text := by
  apply bears.kept
  intro other assigned same
  rw [RegisterName.eq_of_text same] at assigned
  exact plain name assigned member

theorem Bears.mem_names {s : Store Vitals} (bears : Bears vitals now overrides s)
    (plain : ∀ name ∈ overrides.map (·.1), name ∉ reserved) {name : RegisterName} :
    name ∈ s.names ↔ name ∈ reserved ∨ name ∈ overrides.map (·.1) := by
  rw [Store.mem_names bears.ascending]
  constructor
  · rintro ⟨entry, here⟩
    by_cases assigned : name ∈ overrides.map (·.1)
    · exact Or.inr assigned
    · left
      by_contra other
      rw [bears.kept name.text, declared_other] at here
      · cases here
      · intro reserved' member same
        rw [RegisterName.eq_of_text same] at member
        exact other member
      · intro override member same
        rw [RegisterName.eq_of_text same] at member
        exact assigned member
  · rintro (member | member)
    · rw [bears.own plain member]
      exact declared_reserved member
    · obtain ⟨⟨key, value⟩, assigned, rfl⟩ := List.mem_map.mp member
      exact ⟨_, bears.found key value assigned⟩

theorem ofEnvironment_plain {bindings : List (String × String)} {registers : List (RegisterName × Value)}
    (declares : Declares registers) (plain : ∀ name ∈ registers.map (·.1), name ∉ reserved)
    (assignments : (bindings.filter fun binding => Assignment.looksLikeAssignment binding.1).Perm
      (registers.map fun entry => Assignment.encode entry.1 entry.2))
    (home : String) (vitals : Vitals) (now : Timestamp) (fs : Files) :
    ∃ node, ofEnvironment home bindings vitals now fs = .ok node ∧
      (∀ name, name ∈ node.store.names ↔ name ∈ reserved ∨ name ∈ registers.map (·.1)) ∧
      ∀ name value, (name, value) ∈ registers →
        Store.lookup? node.store.entries name.text = some (name, Store.overridden now value) := by
  -- the variables come in any order, and so do the overrides that are read from them
  obtain ⟨overrides, read, same⟩ := Assignment.ofEnvironment_encoded assignments declares.solid
  have names : ∀ {name}, name ∈ overrides.map (·.1) ↔ name ∈ registers.map (·.1) :=
    (same.map (·.1)).mem_iff
  have unreserved : ∀ name ∈ overrides.map (·.1), name ∉ reserved := by
    intro name member
    exact plain name (names.mp member)
  have distinct := (same.map (·.1)).nodup_iff.mpr declares.distinct
  obtain ⟨s, built, bears⟩ := build_plain vitals now fs distinct unreserved
  have reservedName : nameRegister ∈ reserved := by decide
  have reservedSocket : socketRegister ∈ reserved := by decide
  obtain ⟨title, titleRead⟩ := textOf_stored (bears.own unreserved reservedName)
  obtain ⟨socket, socketRead⟩ := textOf_stored (bears.own unreserved reservedSocket)
  have started : ofEnvironment home bindings vitals now fs =
      .ok ⟨title.getD defaultName,
        socket.getD (Path.defaultSocket home (title.getD defaultName)), s⟩ := by
    rw [ofEnvironment, read]
    change bootstrap home (plainSeed vitals) id overrides now fs = _
    rw [bootstrap, built]
    simp only [Except.mapError, bind, Except.bind, titleRead, socketRead]
    rfl
  refine ⟨_, started, ?_, ?_⟩
  · intro name
    rw [← names]
    exact bears.mem_names unreserved
  · intro name value member
    exact bears.found name value (same.mem_iff.mpr member)

theorem assignments_of_launch {p : ResolvedProcess} (distinct : (p.registers.map (·.1)).Nodup)
    {inherited bindings : List (String × String)}
    (silent : ∀ binding ∈ inherited ++ p.environment,
      Assignment.looksLikeAssignment binding.1 = false)
    (launched : bindings.Perm
      ((Program.bindingsOf (inherited ++ p.configuration)).map fun v => (v.name, v.value))) :
    (bindings.filter fun binding => Assignment.looksLikeAssignment binding.1).Perm
      (p.registers.map fun entry => Assignment.encode entry.1 entry.2) := by
  refine (launched.filter _).trans (List.Perm.of_eq ?_)
  have others : (inherited ++ p.environment).filter
      (fun binding => Assignment.looksLikeAssignment binding.1) = [] := by
    apply List.filter_eq_nil_iff.mpr
    intro binding member
    rw [silent binding member]
    exact Bool.false_ne_true
  have own : (p.registers.map fun entry => Assignment.encode entry.1 entry.2).filter
      (fun binding => Assignment.looksLikeAssignment binding.1) =
      p.registers.map fun entry => Assignment.encode entry.1 entry.2 := by
    apply List.filter_eq_self.mpr
    intro binding member
    obtain ⟨entry, -, rfl⟩ := List.mem_map.mp member
    exact Assignment.looksLikeAssignment_encodeKey entry.1 entry.2.kind
  have wanted : (inherited ++ p.configuration).filter
      (fun binding => Assignment.looksLikeAssignment binding.1) =
      p.registers.map fun entry => Assignment.encode entry.1 entry.2 := by
    unfold ResolvedProcess.configuration
    rw [← List.append_assoc, List.filter_append, others, List.nil_append]
    exact own
  calc
    _ = ((Program.bindingsOf (inherited ++ p.configuration)).filter
          (fun v => Assignment.looksLikeAssignment v.name)).map (fun v => (v.name, v.value)) :=
      List.filter_map
    _ = _ := by
      rw [Program.filter_bindingsOf, wanted, Program.bindingsOf_distinct (Assignment.distinct_keys distinct)]

/-- A group's declared registers arrive at the node unchanged. -/
theorem declared_registers_arrive {g : GroupSpec} {resolved : List ResolvedProcess}
    (resolves : g.resolve = .ok resolved) {p : ResolvedProcess} (member : p ∈ resolved)
    (unreserved : ∀ name ∈ p.registers.map (·.1), name ∉ reserved)
    {inherited bindings : List (String × String)}
    (silent : ∀ binding ∈ inherited ++ p.environment,
      Assignment.looksLikeAssignment binding.1 = false)
    (launched : bindings.Perm
      ((Program.bindingsOf (inherited ++ p.configuration)).map fun v => (v.name, v.value)))
    (home : String) (vitals : Vitals) (now : Timestamp) (fs : Files) :
    ∃ node, ofEnvironment home bindings vitals now fs = .ok node ∧
      (∀ name, name ∈ node.store.names ↔ name ∈ reserved ∨ name ∈ p.registers.map (·.1)) ∧
      ∀ name value, (name, value) ∈ p.registers →
        Store.lookup? node.store.entries name.text =
          some (name, .stored ⟨value, .config, some now⟩) := by
  have declares := GroupSpec.declares_resolve resolves member
  have assignments := assignments_of_launch declares.distinct silent launched
  exact ofEnvironment_plain declares unreserved assignments home vitals now fs

def pumpGroup : GroupSpec where
  gracePeriod := GroupSpec.defaultGrace
  registers := [("pump.mode", .string "auto"), ("lab.site", .string "north, 2")]
  processes := [{
    name := "pump"
    command := ["pump"]
    environment := [("LANG", "C")]
    registers := [("pump.limits_8", .sequence [.integer (-3), .integer 200]),
      ("pump.mode", .bool true)] }]

def pump : ResolvedProcess where
  name := "pump"
  command := ["pump"]
  required := true
  workingDirectory := none
  environment := [("LANG", "C")]
  registers := [(⟨"lab.site", by decide⟩, .string "north, 2"),
    (⟨"pump.limits_8", by decide⟩, .array (.integer .w16) [(-3 : BitVec 16), (200 : BitVec 16)]),
    (⟨"pump.mode", by decide⟩, .array .bit [true])]

theorem pumpGroup_resolve : pumpGroup.resolve = .ok [pump] := by
  have sorted : ∀ registers : List (RegisterName × Value), registers = pump.registers →
      registers.mergeSort (fun a b => a.1.le b.1) = pump.registers := by
    rintro _ rfl
    exact List.mergeSort_of_pairwise (by decide)
  exact congrArg (fun registers => Except.ok [{ pump with registers }]) (sorted _ rfl)

def pumpVariables : List (String × String) :=
  [("PUMP__MODE__BIT", "1"), ("LAB__SITE__STRING", "north, 2"), ("PUMP__LIMITS_8__INTEGER16", "-3,200"),
    ("LANG", "C"), ("HOME", "/root")]

theorem declared_registers_arrive_pump :
    pumpGroup.resolve = .ok [pump] ∧
      ∃ node, ofEnvironment "/root" pumpVariables ⟨7, .nan⟩ ⟨0, 0⟩ ⟨[], []⟩ = .ok node ∧
        (∀ name, name ∈ node.store.names ↔ name ∈ reserved ∨ name ∈ pump.registers.map (·.1)) ∧
        ∀ name value, (name, value) ∈ pump.registers →
          Store.lookup? node.store.entries name.text =
            some (name, .stored ⟨value, .config, some ⟨0, 0⟩⟩) := by
  refine ⟨pumpGroup_resolve, ?_⟩
  have launched : pumpVariables.Perm
      ((Program.bindingsOf ([("HOME", "/root"), ("LANG", "de")] ++ pump.configuration)).map
        fun v => (v.name, v.value)) := by decide +kernel
  exact declared_registers_arrive pumpGroup_resolve List.mem_cons_self (by decide) (by decide) launched
    "/root" ⟨7, .nan⟩ ⟨0, 0⟩ ⟨[], []⟩

end Node

end RegisterPlane
