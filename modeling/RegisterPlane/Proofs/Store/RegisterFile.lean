import RegisterPlane.Proofs.Json.Page
import RegisterPlane.Proofs.Wire.Register
import RegisterPlane.Store.File

namespace RegisterPlane.RegisterFile

open Json Wire

structure PersistedCarried (p : Persisted) : Prop where
  value : Carried p.value
  timestamp : ∀ t ∈ p.timestamp, Timestamp.read? t.text = some t

instance (p : Persisted) : Decidable (PersistedCarried p) :=
  decidable_of_iff (Carried p.value ∧ ∀ t ∈ p.timestamp, Timestamp.read? t.text = some t)
    ⟨fun both => ⟨both.1, both.2⟩, fun carried => ⟨carried.value, carried.timestamp⟩⟩

structure Document.IsCarried (d : Document) : Prop where
  savedAt : Timestamp.read? d.savedAt.text = some d.savedAt
  registers : ∀ p ∈ d.registers, PersistedCarried p

instance (d : Document) : Decidable d.IsCarried :=
  decidable_of_iff (Timestamp.read? d.savedAt.text = some d.savedAt ∧ ∀ p ∈ d.registers, PersistedCarried p)
    ⟨fun both => ⟨both.1, both.2⟩, fun carried => ⟨carried.savedAt, carried.registers⟩⟩

def persistedFields (p : Persisted) : List (String × Option Json) :=
  [("name", some (nameToJson p.name)), ("value", some (valueToJson p.value)),
    ("mutable", some (.bool p.mutable)), ("timestamp", p.timestamp.map timeToJson)]

theorem persistedToJson_filled (p : Persisted) :
    persistedToJson p = .object (filled (persistedFields p)) := by
  simp [persistedToJson, persistedFields, filled, present]

theorem persistedOfJson_persistedToJson {p : Persisted} (carried : PersistedCarried p) :
    persistedOfJson? (persistedToJson p) = some p := by
  have distinct : ((persistedFields p).map (·.1)).Nodup := by
    change ["name", "value", "mutable", "timestamp"].Nodup
    decide
  have fields : (persistedToJson p).fields? ["name", "value", "mutable", "timestamp"] =
      some [some (nameToJson p.name), some (valueToJson p.value), some (.bool p.mutable),
        p.timestamp.map timeToJson] := by
    rw [persistedToJson_filled]
    exact fields_filled distinct
  have name : required? nameOfJson? (some (nameToJson p.name)) = some p.name := nameOfJson_nameToJson p.name
  have value : required? (valueOfJson? .inPlace) (some (valueToJson p.value)) = some p.value :=
    valueOfJson_valueToJson .inPlace carried.value
  have timestamp : optional? timeOfJson? (p.timestamp.map timeToJson) = some p.timestamp :=
    optional_map (fun t _ => timeToJson_ne_null t)
      (fun t here => timeOfJson_timeToJson (carried.timestamp t here))
  unfold persistedOfJson?
  rw [fields]
  dsimp only
  rw [name, value, timestamp]
  rfl

theorem isSpelled_persistedToJson (p : Persisted) : (persistedToJson p).IsSpelled := by
  rw [persistedToJson_filled]
  apply isSpelled_filled
  intro field member j here
  simp only [persistedFields, List.mem_cons, List.not_mem_nil, or_false] at member
  rcases member with rfl | rfl | rfl | rfl
  · cases here
    exact trivial
  · cases here
    exact isSpelled_valueToJson p.value
  · cases here
    exact trivial
  · obtain ⟨t, -, rfl⟩ := Option.map_eq_some_iff.mp here
    exact trivial

def documentFields (d : Document) : List (String × Option Json) :=
  [("saved_at", some (timeToJson d.savedAt)), ("registers", some (.array (d.registers.map persistedToJson)))]

theorem documentToJson_filled (d : Document) : documentToJson d = .object (filled (documentFields d)) := by
  simp [documentToJson, documentFields, filled, present]

theorem documentOfJson_documentToJson {d : Document} (carried : d.IsCarried) :
    documentOfJson? (documentToJson d) = some d := by
  have distinct : ((documentFields d).map (·.1)).Nodup := by
    change ["saved_at", "registers"].Nodup
    decide
  have fields : (documentToJson d).fields? ["saved_at", "registers"] =
      some [some (timeToJson d.savedAt), some (.array (d.registers.map persistedToJson))] := by
    rw [documentToJson_filled]
    exact fields_filled distinct
  have savedAt : required? timeOfJson? (some (timeToJson d.savedAt)) = some d.savedAt := by
    rw [required?, Option.bind_some, timeOfJson_timeToJson carried.savedAt]
  have registers : (d.registers.map persistedToJson).mapM persistedOfJson? = some d.registers :=
    mapM_back fun p member => persistedOfJson_persistedToJson (carried.registers p member)
  unfold documentOfJson?
  rw [fields]
  dsimp only
  rw [savedAt]
  simp only [Option.bind_eq_bind, Option.bind_some, asArray?, registers]
  rfl

theorem read_page_document (d : Document) : read? (write d) = documentOfJson? (documentToJson d) := by
  have spelled : (documentToJson d).IsSpelled :=
    ⟨trivial, areSpelled_map persistedToJson isSpelled_persistedToJson d.registers, trivial⟩
  rw [read?, write, read_page spelled, Option.bind_some]

end RegisterPlane.RegisterFile
