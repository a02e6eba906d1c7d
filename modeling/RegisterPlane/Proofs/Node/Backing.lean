import RegisterPlane.Proofs.Assignment.Scan
import RegisterPlane.Proofs.Node.Launch
import RegisterPlane.Proofs.Store.Seeding
import RegisterPlane.Proofs.Store.Shape

namespace RegisterPlane

open Assignment

namespace Node

def keptAt (path : String) : Backing Files :=
  if path = "" then .volatile Files else RegisterFile.backing path

theorem durable_keptAt (path : String) : (keptAt path).durable = true ↔ path ≠ "" := by
  unfold keptAt
  split
  · rename_i empty
    simp [empty, Backing.volatile]
  · rename_i filled
    simp [filled, RegisterFile.backing]

def showing (path : String) : Register := ⟨backingRegister, .string path, false, false, none⟩

/-- The path that the first variable for the backing register gives. -/
def firstPath (bindings : List (String × String)) : String :=
  (textsFor backingRegister bindings).head?.getD ""

def lastPath (bindings : List (String × String)) : String :=
  (textsFor backingRegister bindings).getLast?.getD ""

/-- A store tells where its registers are kept. -/
def Candid (s : Store Vitals) (kept : Backing Files) : Prop :=
  ∃ path, (s.get backingRegister.text).1 = .ok (showing path) ∧ kept = keptAt path ∧
    (path = "" ↔ s.durable = false)

variable {vitals : Vitals} {overrides : List (RegisterName × Value)} {texts : List String}
  {kept : List Persisted} {durable : Bool} {s : Store Vitals}

theorem backing_eq_keptAt (assigned : (overrides.filter fun named => named.1 = backingRegister) =
      texts.map fun text => (backingRegister, .string text)) :
    backing overrides = keptAt (texts.head?.getD "") := by
  have first : overrides.find? (·.1 == backingRegister) =
      texts.head?.map fun text => (backingRegister, .string text) := by
    rw [← List.head?_filter, ← List.head?_map, ← assigned]
    rfl
  unfold backing backingPath? keptAt
  rw [first]
  cases texts.head? with
  | none => rfl
  | some text =>
      by_cases empty : text = ""
      · simp [empty]
      · simp [empty]

theorem texts_of_layered (layered : Store.Layered (seed (plainSeed vitals) id overrides) kept durable s) :
    ∀ value, (backingRegister, value) ∈ overrides → ∃ text, value = .string text := by
  intro value member
  obtain ⟨stored, found, -, shape, -⟩ : Store.StoredFrom (seed (plainSeed vitals) id overrides) kept s
      backingRegister.text (backingRegister, .string "", .readOnly) := layered.declared rfl rfl
  exact (layered.fitting member found).text shape.1

theorem entry_of_layered (layered : Store.Layered (seed (plainSeed vitals) id overrides) kept durable s)
    (assigned : (overrides.filter fun named => named.1 = backingRegister) =
      texts.map fun text => (backingRegister, .string text))
    (unkept : texts = [] → kept = []) :
    ∃ timestamp, s.entry? backingRegister.text =
      some (backingRegister, .stored ⟨.string (texts.getLast?.getD ""), .readOnly, timestamp⟩) := by
  obtain ⟨⟨value, flags, timestamp⟩, found, same, -, laid⟩ :
      Store.StoredFrom (seed (plainSeed vitals) id overrides) kept s backingRegister.text
        (backingRegister, .string "", .readOnly) := layered.declared rfl rfl
  cases same
  have offered : Store.overriding overrides backingRegister.text = texts.map .string := by
    rw [Store.overriding_eq, assigned, List.map_map]
    rfl
  change (((lastFitting? (.string "") (Store.overriding overrides backingRegister.text)).or _).getD _).coerce _ =
    _ at laid
  rw [offered, lastFitting_texts] at laid
  refine ⟨timestamp, found.trans ?_⟩
  cases last : texts.getLast? with
  | some text =>
      rw [last] at laid
      cases laid
      rfl
  | none =>
      rw [last, unkept (List.getLast?_eq_none_iff.mp last)] at laid
      cases laid
      rfl

theorem build_of_ofEnvironment {home : String} {bindings : List (String × String)} {now : Timestamp}
    {fs : Files} {node : Node Vitals} (started : ofEnvironment home bindings vitals now fs = .ok node) :
    ∃ overrides, Assignment.ofEnvironment bindings = .ok overrides ∧
      Store.build (seed (plainSeed vitals) id overrides) (backing overrides) now fs = .ok node.store := by
  obtain ⟨overrides, scanned, started⟩ := ok_of_bind started
  obtain ⟨s, built, started⟩ := ok_of_bind started
  have built := ok_of_mapError built
  refine ⟨overrides, ok_of_mapError scanned, ?_⟩
  obtain ⟨kept, loaded, -⟩ := Store.seed_of_build built
  have layered := Store.layered_build loaded built
  -- the registers that are read for the name and the socket are stored, so reading them leaves no trace
  obtain ⟨title, titleFound, -⟩ : Store.StoredFrom (seed (plainSeed vitals) id overrides) kept s
      nameRegister.text (nameRegister, .string defaultName, .config) := layered.declared rfl rfl
  obtain ⟨socket, socketFound, -⟩ : Store.StoredFrom (seed (plainSeed vitals) id overrides) kept s
      socketRegister.text (socketRegister, .string "", .config) := layered.declared rfl rfl
  obtain ⟨text, titleRead⟩ := textOf_stored titleFound
  obtain ⟨path, socketRead⟩ := textOf_stored socketFound
  dsimp only at started
  rw [titleRead] at started
  dsimp only at started
  rw [socketRead] at started
  cases started
  exact built

theorem get_of_run {built s : Store Vitals} {path : String} {timestamp : Option Timestamp}
    {b : Backing Files} {answers : List (Store.Answer Vitals)} {world world' : Files}
    (found : built.entry? backingRegister.text =
      some (backingRegister, .stored ⟨.string path, .readOnly, timestamp⟩))
    (ordered : Store.Ascending built.entries) (run : Store.Run b built world answers s world') :
    (s.get backingRegister.text).1 = .ok (showing path) := by
  obtain ⟨entry, there, keeps⟩ := (Store.shaped_run ordered run).keeps.entries found
  cases keeps with
  | stored flags shape fixed =>
      rw [fixed rfl] at there
      rw [Store.get_of_stored there]
      rfl

/-- Whatever the environment is, a node keeps its registers at the first path that is assigned to the backing
register, or nowhere if that is empty, and whatever is asked of the node the register shows the last one.
The node tells where its registers are kept if the first and the last are the same. -/
theorem backing_register_shown {home : String} {bindings : List (String × String)} {now : Timestamp}
    {fs : Files} {node : Node Vitals} (started : ofEnvironment home bindings vitals now fs = .ok node) :
    ∃ overrides, Assignment.ofEnvironment bindings = .ok overrides ∧
      backing overrides = keptAt (firstPath bindings) ∧
      Store.build (seed (plainSeed vitals) id overrides) (backing overrides) now fs = .ok node.store ∧
      ∀ answers s world world', Store.Run (backing overrides) node.store world answers s world' →
        (s.get backingRegister.text).1 = .ok (showing (lastPath bindings)) ∧
        (s.durable = true ↔ firstPath bindings ≠ "") ∧
        (firstPath bindings = lastPath bindings → Candid s (backing overrides)) := by
  obtain ⟨overrides, scanned, built⟩ := build_of_ofEnvironment started
  obtain ⟨kept, loaded, -⟩ := Store.seed_of_build built
  have layered := Store.layered_build loaded built
  have assigned := filter_ofEnvironment scanned (texts_of_layered layered)
  have place : backing overrides = keptAt (firstPath bindings) := backing_eq_keptAt assigned
  have unkept : textsFor backingRegister bindings = [] → kept = [] := by
    intro none
    rw [place, firstPath, none] at loaded
    cases loaded
    rfl
  obtain ⟨timestamp, found⟩ := entry_of_layered layered assigned unkept
  refine ⟨overrides, scanned, place, built, fun answers s world world' run => ?_⟩
  have shown : (s.get backingRegister.text).1 = .ok (showing (lastPath bindings)) :=
    get_of_run found (Store.ascending_build built) run
  have durable : s.durable = true ↔ firstPath bindings ≠ "" := by
    have keeps := (Store.shaped_run (Store.ascending_build built) run).keeps
    rw [keeps.durable, Store.durable_build built, place]
    exact durable_keptAt _
  refine ⟨shown, durable, fun agree => ⟨lastPath bindings, shown, agree ▸ place, ?_⟩⟩
  rw [← agree, ← Bool.not_eq_true, durable, not_not]

def boilerVariables : List (String × String) :=
  [("HOME", "/root"), ("BOILER__LEVEL__BIT", "1"), ("plexus__node__backing__string", "/run/regs.json")]

theorem boilerVariables_start : ∃ node,
    ofEnvironment "/root" boilerVariables ⟨7, .nan⟩ ⟨0, 0⟩ ⟨[], []⟩ = .ok node := by
  have scanned : Assignment.ofEnvironment boilerVariables =
      .ok [(⟨"boiler.level", by decide⟩, .array .bit [true]), (backingRegister, .string "/run/regs.json")] :=
    ofEnvironment_ascending (by decide +kernel) (by decide)
  rw [ofEnvironment, scanned]
  exact ⟨_, rfl⟩

theorem backing_register_shown_boiler :
    ∃ node overrides, ofEnvironment "/root" boilerVariables ⟨7, .nan⟩ ⟨0, 0⟩ ⟨[], []⟩ = .ok node ∧
      Assignment.ofEnvironment boilerVariables = .ok overrides ∧
      backing overrides = RegisterFile.backing "/run/regs.json" ∧
      ∀ answers s world world', Store.Run (backing overrides) node.store world answers s world' →
        (s.get backingRegister.text).1 = .ok (showing "/run/regs.json") ∧ Candid s (backing overrides) := by
  obtain ⟨node, started⟩ := boilerVariables_start
  obtain ⟨overrides, scanned, place, -, along⟩ := backing_register_shown started
  have first : firstPath boilerVariables = "/run/regs.json" := by decide +kernel
  have last : lastPath boilerVariables = "/run/regs.json" := by decide +kernel
  refine ⟨node, overrides, started, scanned, ?_, ?_⟩
  · rw [place, first]
    rfl
  · intro answers s world world' run
    obtain ⟨shown, -, candid⟩ := along answers s world world' run
    rw [last] at shown
    exact ⟨shown, candid (first.trans last.symm)⟩

def divertedVariables : List (String × String) :=
  [("PLEXUS__NODE__BACKING__STRING", ""), ("plexus__node__backing__string", "/run/regs.json")]

theorem backing_register_diverted :
    ∃ node overrides, ofEnvironment "/root" divertedVariables ⟨7, .nan⟩ ⟨0, 0⟩ ⟨[], []⟩ = .ok node ∧
      Assignment.ofEnvironment divertedVariables = .ok overrides ∧ ¬Candid node.store (backing overrides) := by
  have scanned : Assignment.ofEnvironment divertedVariables =
      .ok [(backingRegister, .string ""), (backingRegister, .string "/run/regs.json")] :=
    ofEnvironment_ascending (by decide +kernel) (by decide)
  obtain ⟨node, started, shows, durable⟩ : ∃ node,
      ofEnvironment "/root" divertedVariables ⟨7, .nan⟩ ⟨0, 0⟩ ⟨[], []⟩ = .ok node ∧
        (node.store.get backingRegister.text).1 = .ok (showing "/run/regs.json") ∧
        node.store.durable = false := by
    rw [ofEnvironment, scanned]
    exact ⟨_, rfl, rfl, rfl⟩
  refine ⟨node, _, started, scanned, ?_⟩
  rintro ⟨path, shown, -, empty⟩
  rw [shows, empty.mpr durable] at shown
  exact absurd shown (by decide)

end Node

end RegisterPlane
