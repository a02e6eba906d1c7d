import RegisterPlane.Proofs.Register.Name
import RegisterPlane.Proofs.Wire.Value
import RegisterPlane.Wire.Register

namespace RegisterPlane.Wire

open Json

/-- What is asked of a register on the wire: its value is carried, and the reader of times takes the
text of its timestamp for that timestamp. -/
structure RegisterCarried (r : Register) : Prop where
  value : Carried r.value
  timestamp : ∀ t ∈ r.timestamp, Timestamp.read? t.text = some t

instance (r : Register) : Decidable (RegisterCarried r) :=
  decidable_of_iff (Carried r.value ∧ ∀ t ∈ r.timestamp, Timestamp.read? t.text = some t)
    ⟨fun both => ⟨both.1, both.2⟩, fun carried => ⟨carried.value, carried.timestamp⟩⟩

def registerFields (r : Register) : List (String × Option Json) :=
  [("name", some (nameToJson r.name)), ("value", some (valueToJson r.value)),
    ("mutable", some (.bool r.mutable)), ("persistent", some (.bool r.persistent)),
    ("timestamp", r.timestamp.map timeToJson)]

theorem registerToJson_filled (r : Register) : registerToJson r = .object (filled (registerFields r)) := by
  simp [registerToJson, registerFields, filled, present]

theorem nameOfJson_nameToJson (name : RegisterName) : nameOfJson? (nameToJson name) = some name :=
  RegisterName.parse_text name

theorem timeOfJson_timeToJson {t : Timestamp} (back : Timestamp.read? t.text = some t) :
    timeOfJson? (timeToJson t) = some t := by
  rw [timeOfJson?, timeToJson, asString?, Option.bind_some, back]

theorem timeToJson_ne_null (t : Timestamp) : timeToJson t ≠ .null := by
  intro same
  unfold timeToJson at same
  cases same

theorem registerOfJson_eq (r : Register) :
    registerOfJson? (registerToJson r) = (valueOfJson? .inPlace (valueToJson r.value)).bind fun value =>
      (optional? timeOfJson? (r.timestamp.map timeToJson)).map fun timestamp =>
        { r with value, timestamp } := by
  have distinct : ((registerFields r).map (·.1)).Nodup := by
    change ["name", "value", "mutable", "persistent", "timestamp"].Nodup
    decide
  have fields : (registerToJson r).fields? ["name", "value", "mutable", "persistent", "timestamp"] =
      some [some (nameToJson r.name), some (valueToJson r.value), some (.bool r.mutable),
        some (.bool r.persistent), r.timestamp.map timeToJson] := by
    rw [registerToJson_filled]
    exact fields_filled distinct
  have name : required? nameOfJson? (some (nameToJson r.name)) = some r.name :=
    nameOfJson_nameToJson r.name
  unfold registerOfJson?
  rw [fields]
  dsimp only
  rw [name]
  change (valueOfJson? .inPlace (valueToJson r.value)).bind _ = _
  congr 1
  funext value
  cases optional? timeOfJson? (r.timestamp.map timeToJson) <;> rfl

theorem registerOfJson_registerToJson {r : Register} (carried : RegisterCarried r) :
    registerOfJson? (registerToJson r) = some r := by
  have timestamp : optional? timeOfJson? (r.timestamp.map timeToJson) = some r.timestamp :=
    optional_map (fun t _ => timeToJson_ne_null t)
      (fun t here => timeOfJson_timeToJson (carried.timestamp t here))
  rw [registerOfJson_eq, valueOfJson_valueToJson .inPlace carried.value, timestamp]
  rfl

theorem kind_of_registerOfJson {r r' : Register} (read : registerOfJson? (registerToJson r) = some r') :
    r'.value.kind = r.value.kind := by
  rw [registerOfJson_eq, valueOfJson_eq] at read
  obtain ⟨value, elements, rest⟩ := Option.bind_eq_some_iff.mp read
  obtain ⟨timestamp, -, rfl⟩ := Option.map_eq_some_iff.mp rest
  exact kind_of_elementsOfJson elements

theorem isSpelled_registerToJson (r : Register) : (registerToJson r).IsSpelled := by
  rw [registerToJson_filled]
  apply isSpelled_filled
  intro field member j here
  simp only [registerFields, List.mem_cons, List.not_mem_nil, or_false] at member
  rcases member with rfl | rfl | rfl | rfl | rfl
  · cases here
    exact trivial
  · cases here
    exact isSpelled_valueToJson r.value
  · cases here
    exact trivial
  · cases here
    exact trivial
  · obtain ⟨t, -, rfl⟩ := Option.map_eq_some_iff.mp here
    exact trivial

theorem errorOfJson_errorToJson (e : RegisterError) : errorOfJson? 1 (errorToJson e) = some e := by
  cases e with
  | notFound name => rfl
  | immutable name => rfl
  | invalidAssignment subject reason => rfl
  | incompatibleKind source target detail =>
      have first : required? (kindOfJson? .setAside) (some (kindToJson source)) = some source :=
        kindOfJson_kindToJson .setAside source
      have second : required? (kindOfJson? .setAside) (some (kindToJson target)) = some target :=
        kindOfJson_kindToJson .setAside target
      change (do
        return RegisterError.incompatibleKind
          (← required? (kindOfJson? .setAside) (some (kindToJson source)))
          (← required? (kindOfJson? .setAside) (some (kindToJson target))) (← some detail)) = _
      rw [first, second]
      rfl

theorem isSpelled_errorToJson (e : RegisterError) : (errorToJson e).IsSpelled := by
  cases e with
  | notFound name => exact ⟨trivial, trivial, trivial⟩
  | immutable name => exact ⟨trivial, trivial, trivial⟩
  | invalidAssignment subject reason => exact ⟨trivial, trivial, trivial, trivial⟩
  | incompatibleKind source target detail => exact ⟨trivial, trivial, trivial, trivial, trivial⟩

end RegisterPlane.Wire
