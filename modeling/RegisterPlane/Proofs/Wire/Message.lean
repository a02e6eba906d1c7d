import RegisterPlane.Proofs.Json.RoundTrip
import RegisterPlane.Proofs.Wire.Register
import RegisterPlane.Wire.Message

namespace RegisterPlane.Wire

open Json

def RequestCarried : Request → Prop
  | .access _ (some value) => Carried value
  | _ => True

def ResponseCarried (r : Response) : Prop := ∀ register ∈ r.register, RegisterCarried register

instance : (r : Request) → Decidable (RequestCarried r)
  | .list => .isTrue trivial
  | .nameAt _ => .isTrue trivial
  | .access _ none => .isTrue trivial
  | .access _ (some value) => inferInstanceAs (Decidable (Carried value))

instance (r : Response) : Decidable (ResponseCarried r) :=
  inferInstanceAs (Decidable (∀ register ∈ r.register, RegisterCarried register))

theorem indexOfJson_ofInt (index : UInt64) : indexOfJson? (ofInt index.toNat) = some index := by
  have octets := index.toNat_lt
  have capacity : Width.w64.capacity = 2 ^ 64 := rfl
  unfold indexOfJson?
  rw [asInteger_ofInt (by omega) (by omega) (by omega) (by omega), Option.map_some, Int.toNat_natCast,
    UInt64.ofNat_toNat]

def accessValue (value : Option Value) : Json := (value.map valueToJson).getD .null

theorem optional_accessValue {name : String} {value : Option Value}
    (carried : RequestCarried (.access name value)) :
    optional? (valueOfJson? .setAside) (some (accessValue value)) = some value := by
  cases value with
  | none => rfl
  | some value =>
      have back := valueOfJson_valueToJson .setAside carried
      change (valueOfJson? .setAside (valueToJson value)).map some = _
      rw [back]
      rfl

theorem accessValue_parts {name : String} {value : Option Value}
    (carried : RequestCarried (.access name value)) :
    (accessValue value).IsSpelled ∧ (accessValue value).isSound = true ∧ (accessValue value).depth ≤ 2 := by
  cases value with
  | none => exact ⟨trivial, rfl, Nat.zero_le 2⟩
  | some value => exact valueToJson_parts carried

def requestVariant : Request → String
  | .list => "list"
  | .nameAt _ => "name_at"
  | .access _ _ => "access"

def requestFields : Request → List (String × Option Json)
  | .list => []
  | .nameAt index => [("index", some (ofInt index.toNat))]
  | .access name value => [("name", some (.string name)), ("value", some (accessValue value))]

theorem requestToJson_filled (r : Request) :
    requestToJson r = .object (("op", .string (requestVariant r)) :: filled (requestFields r)) := by
  cases r <;> rfl

theorem requestFields_aside {r : Request} (carried : RequestCarried r) :
    (object (filled (requestFields r))).isSound = true ∧
      (object (filled (requestFields r))).depth ≤ 3 := by
  cases r with
  | list => exact ⟨rfl, by decide⟩
  | nameAt index =>
      have octets := index.toNat_lt
      refine ⟨?_, show 1 ≤ 3 by decide⟩
      change ((ofInt (index.toNat : Int)).isSound && true) = true
      rw [isSound_ofInt (by omega) (by omega)]
      rfl
  | access name value =>
      obtain ⟨-, sound, shallow⟩ := accessValue_parts carried
      constructor
      · change (true && ((accessValue value).isSound && true)) = true
        rw [sound]
        rfl
      · change max 0 (max (accessValue value).depth 0) + 1 ≤ 3
        omega

theorem variant_requestToJson {r : Request} (carried : RequestCarried r) :
    (requestToJson r).variant? "op" 0 = some (requestVariant r, .object (filled (requestFields r))) := by
  obtain ⟨sound, shallow⟩ := requestFields_aside carried
  have untagged : "op" ∉ (requestFields r).map (·.1) := by
    cases r with
    | list => exact show "op" ∉ [] by decide
    | nameAt index => exact show "op" ∉ ["index"] by decide
    | access name value => exact show "op" ∉ ["name", "value"] by decide
  have limit : depthLimit = 127 := rfl
  rw [requestToJson_filled]
  exact variant_filled untagged sound (by omega)

theorem requestOfJson_requestToJson {r : Request} (carried : RequestCarried r) :
    requestOfJson? (requestToJson r) = some r := by
  have variant := variant_requestToJson carried
  unfold requestOfJson?
  rw [variant]
  cases r with
  | list => rfl
  | nameAt index =>
      have distinct : ((requestFields (.nameAt index)).map (·.1)).Nodup :=
        show ["index"].Nodup by decide
      have fields : (object (filled (requestFields (.nameAt index)))).fields? ["index"] =
          some [some (ofInt index.toNat)] := fields_filled distinct
      have read : required? indexOfJson? (some (ofInt index.toNat)) = some index :=
        indexOfJson_ofInt index
      simp only [requestVariant, Option.bind_eq_bind, Option.bind_some, fields, read]
      rfl
  | access name value =>
      have distinct : ((requestFields (.access name value)).map (·.1)).Nodup :=
        show ["name", "value"].Nodup by decide
      have fields : (object (filled (requestFields (.access name value)))).fields? ["name", "value"] =
          some [some (.string name), some (accessValue value)] := fields_filled distinct
      have text : required? asString? (some (.string name)) = some name := rfl
      have read := optional_accessValue carried
      simp only [requestVariant, Option.bind_eq_bind, Option.bind_some, fields, text, read]
      rfl

theorem isSpelled_requestToJson {r : Request} (carried : RequestCarried r) :
    (requestToJson r).IsSpelled := by
  cases r with
  | list => exact ⟨trivial, trivial⟩
  | nameAt index => exact ⟨trivial, isSpelled_ofInt index.toNat, trivial⟩
  | access name value => exact ⟨trivial, trivial, (accessValue_parts carried).1, trivial⟩

def responseFields (r : Response) : List (String × Option Json) :=
  [("ok", some (.bool r.ok)), ("names", r.names.map fun names => .array (names.map nameToJson)),
    ("name", r.name.map nameToJson), ("register", r.register.map registerToJson),
    ("error", r.error.map errorToJson), ("message", r.message.map .string)]

theorem responseToJson_filled (r : Response) : responseToJson r = .object (filled (responseFields r)) := by
  simp [responseToJson, responseFields, filled, present]

theorem errorToJson_ne_null (e : RegisterError) : errorToJson e ≠ .null := by
  intro same
  cases e <;> cases same

theorem responseOfJson_eq (r : Response) :
    responseOfJson? (responseToJson r) =
      (optional? registerOfJson? (r.register.map registerToJson)).map fun register => { r with register } := by
  have distinct : ((responseFields r).map (·.1)).Nodup := by
    change ["ok", "names", "name", "register", "error", "message"].Nodup
    decide
  have fields : (responseToJson r).fields? ["ok", "names", "name", "register", "error", "message"] =
      some [some (.bool r.ok), r.names.map fun names => .array (names.map nameToJson),
        r.name.map nameToJson, r.register.map registerToJson, r.error.map errorToJson,
        r.message.map .string] := by
    rw [responseToJson_filled]
    exact fields_filled distinct
  have names : optional? namesOfJson? (r.names.map fun names => .array (names.map nameToJson)) =
      some r.names := by
    apply optional_map
    · intro names _ null
      cases null
    · intro names _
      exact mapM_back fun name _ => nameOfJson_nameToJson name
  have name : optional? nameOfJson? (r.name.map nameToJson) = some r.name := by
    apply optional_map
    · intro name _ null
      cases null
    · intro name _
      exact nameOfJson_nameToJson name
  have error : optional? (errorOfJson? 1) (r.error.map errorToJson) = some r.error := by
    apply optional_map
    · intro error _
      exact errorToJson_ne_null error
    · intro error _
      exact errorOfJson_errorToJson error
  have message : optional? asString? (r.message.map string) = some r.message := by
    apply optional_map
    · intro message _ null
      cases null
    · intro message _
      rfl
  unfold responseOfJson?
  rw [fields]
  dsimp only
  rw [names, name, error, message]
  cases optional? registerOfJson? (r.register.map registerToJson) <;> rfl

theorem responseOfJson_responseToJson {r : Response} (carried : ResponseCarried r) :
    responseOfJson? (responseToJson r) = some r := by
  have register : optional? registerOfJson? (r.register.map registerToJson) = some r.register := by
    apply optional_map
    · intro register _ null
      cases null
    · intro register here
      exact registerOfJson_registerToJson (carried register here)
  rw [responseOfJson_eq, register]
  rfl

theorem responseOfJson_misread {r r' : Response} (read : responseOfJson? (responseToJson r) = some r') :
    ∃ register, r' = { r with register } ∧
      register.map (fun shown => shown.value.kind) = r.register.map fun shown => shown.value.kind := by
  rw [responseOfJson_eq] at read
  obtain ⟨register, here, rfl⟩ := Option.map_eq_some_iff.mp read
  refine ⟨register, rfl, ?_⟩
  cases was : r.register with
  | none =>
      rw [was] at here
      cases here
      rfl
  | some shown =>
      rw [was] at here
      obtain ⟨shown', back, rfl⟩ := Option.map_eq_some_iff.mp here
      simp [kind_of_registerOfJson back]

theorem isSpelled_responseToJson (r : Response) : (responseToJson r).IsSpelled := by
  rw [responseToJson_filled]
  apply isSpelled_filled
  intro field member j here
  simp only [responseFields, List.mem_cons, List.not_mem_nil, or_false] at member
  rcases member with rfl | rfl | rfl | rfl | rfl | rfl
  · cases here
    exact trivial
  · obtain ⟨names, -, rfl⟩ := Option.map_eq_some_iff.mp here
    exact areSpelled_map nameToJson (fun _ => trivial) names
  · obtain ⟨name, -, rfl⟩ := Option.map_eq_some_iff.mp here
    exact trivial
  · obtain ⟨register, -, rfl⟩ := Option.map_eq_some_iff.mp here
    exact isSpelled_registerToJson register
  · obtain ⟨error, -, rfl⟩ := Option.map_eq_some_iff.mp here
    exact isSpelled_errorToJson error
  · obtain ⟨message, -, rfl⟩ := Option.map_eq_some_iff.mp here
    exact trivial

theorem readRequest_writeRequest {r : Request} (carried : RequestCarried r) :
    readRequest? (writeRequest r) = some r := by
  rw [readRequest?, writeRequest, read_line (isSpelled_requestToJson carried), Option.bind_some,
    requestOfJson_requestToJson carried]

theorem readResponse_writeResponse {r : Response} (carried : ResponseCarried r) :
    readResponse? (writeResponse r) = some r := by
  rw [readResponse?, writeResponse, read_line (isSpelled_responseToJson r), Option.bind_some,
    responseOfJson_responseToJson carried]

end RegisterPlane.Wire
