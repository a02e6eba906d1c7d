import RegisterPlane.Proofs.Assignment.Element
import RegisterPlane.Proofs.Assignment.Key
import RegisterPlane.Proofs.Outcome
import RegisterPlane.Proofs.Text.Hex

namespace RegisterPlane.Assignment

/-- An array without elements. -/
def IsHollow (value : Value) : Prop := ∃ k, value = .array k []

theorem readAll_map {α β ε : Type} {read : α → Except ε β} {write : β → α} {bs : List β}
    (back : ∀ b ∈ bs, read (write b) = .ok b) : readAll read (bs.map write) = .ok bs := by
  induction bs with
  | nil => rfl
  | cons b rest ih =>
      rw [List.map_cons, readAll, back b List.mem_cons_self,
        ih fun other member => back other (List.mem_cons_of_mem b member)]
      rfl

theorem of_readAll_cons {α β ε : Type} {read : α → Except ε β} {a : α} {rest : List α} {bs : List β}
    (done : readAll read (a :: rest) = .ok bs) :
    ∃ b tail, read a = .ok b ∧ readAll read rest = .ok tail ∧ bs = b :: tail := by
  rw [readAll] at done
  obtain ⟨b, first, done⟩ := ok_of_bind done
  obtain ⟨tail, later, same⟩ := ok_of_bind done
  cases same
  exact ⟨b, tail, first, later, rfl⟩

theorem length_readAll {α β ε : Type} {read : α → Except ε β} {as : List α} {bs : List β}
    (done : readAll read as = .ok bs) : bs.length = as.length := by
  induction as generalizing bs with
  | nil =>
      cases done
      rfl
  | cons a rest ih =>
      obtain ⟨b, tail, -, later, rfl⟩ := of_readAll_cons done
      rw [List.length_cons, List.length_cons, ih later]

theorem readAll_eq_ok_iff {α β ε : Type} {read : α → Except ε β} {as : List α} {bs : List β} :
    readAll read as = .ok bs ↔ List.Forall₂ (fun a b => read a = .ok b) as bs := by
  constructor
  · intro done
    induction as generalizing bs with
    | nil =>
        cases done
        exact .nil
    | cons a rest ih =>
        obtain ⟨b, tail, first, later, rfl⟩ := of_readAll_cons done
        exact .cons first (ih later)
  · intro each
    induction each with
    | nil => rfl
    | cons first later ih =>
        rw [readAll, first, ih]
        rfl

theorem exists_readAll_iff {α β ε : Type} {read : α → Except ε β} {as : List α} :
    (∃ bs, readAll read as = .ok bs) ↔ ∀ a ∈ as, ∃ b, read a = .ok b := by
  simp only [readAll_eq_ok_iff]
  induction as with
  | nil => simp
  | cons a rest ih => simp [List.forall₂_cons_left_iff, ← ih]

theorem readAll_eq_error_iff {α β ε : Type} {read : α → Except ε β} {as : List α} {error : ε} :
    readAll read as = .error error ↔
      ∃ front a back, as = front ++ a :: back ∧ (∀ b ∈ front, ∃ c, read b = .ok c) ∧
        read a = .error error := by
  constructor
  · intro failed
    induction as with
    | nil => cases failed
    | cons a rest ih =>
        cases first : read a with
        | error e =>
            rw [readAll, first] at failed
            cases failed
            exact ⟨[], a, rest, rfl, by simp, first⟩
        | ok b =>
            have later : readAll read rest = .error error := by
              cases others : readAll read rest with
              | error e =>
                  rw [readAll, first, others] at failed
                  cases failed
                  rfl
              | ok tail =>
                  rw [readAll, first, others] at failed
                  cases failed
            obtain ⟨front, c, back, rfl, fine, refused⟩ := ih later
            exact ⟨a :: front, c, back, rfl, List.forall_mem_cons.mpr ⟨⟨b, first⟩, fine⟩, refused⟩
  · rintro ⟨front, a, back, rfl, fine, refused⟩
    induction front with
    | nil =>
        rw [List.nil_append, readAll, refused]
        rfl
    | cons c front ih =>
        obtain ⟨⟨b, first⟩, later⟩ := List.forall_mem_cons.mp fine
        rw [List.cons_append, readAll, first, ih later]
        rfl

theorem tokens_words (k : ArrayKind) (elements : List k.Element) :
    Text.tokens separatesElements (joinWords (elements.map (writeElement k))) =
      elements.map (writeElement k) := by
  apply Text.tokens_intercalate (by decide)
  · intro word member
    obtain ⟨x, -, rfl⟩ := List.mem_map.mp member
    exact word_whole k x
  · intro word member
    obtain ⟨x, -, rfl⟩ := List.mem_map.mp member
    exact word_ne_nil k x

theorem decodeText_encodeText {value : Value} (solid : ¬IsHollow value) :
    decodeText value.kind (encodeText value) = .ok value := by
  cases value with
  | string text => rfl
  | unstructured bytes =>
      have plain : Text.trim (Text.Hex.encode bytes) = Text.Hex.encode bytes :=
        Text.trim_whole fun c member => (Text.Hex.ascii_of_mem_encode member).2
      change decodeText .unstructured (String.ofList (Text.Hex.encode bytes)) = _
      simp only [decodeText]
      rw [String.toList_ofList, plain, Text.Hex.decode_encode]
  | array k elements =>
      have some_word : elements.map (writeElement k) ≠ [] := by
        intro none
        rw [List.map_eq_nil_iff.mp none] at solid
        exact solid ⟨k, rfl⟩
      change decodeText (.array k) (String.ofList (joinWords (elements.map (writeElement k)))) = _
      simp only [decodeText]
      rw [String.toList_ofList, tokens_words, if_neg some_word,
        readAll_map fun x _ => readElement_writeElement k x]

theorem decodeText_hollow (k : ArrayKind) :
    decodeText (.array k) (encodeText (.array k [])) = .error .noElements := rfl

theorem solid_of_decodeText {kind : Kind} {text : String} {value : Value}
    (denotes : decodeText kind text = .ok value) : ¬IsHollow value := by
  rintro ⟨k, rfl⟩
  unfold decodeText at denotes
  split at denotes
  · cases denotes
  · split at denotes
    · cases denotes
    · cases denotes
  · dsimp only at denotes
    split at denotes
    · cases denotes
    · rename_i some_word
      split at denotes
      · rename_i elements read
        have length := length_readAll read
        cases denotes
        exact some_word (List.length_eq_zero_iff.mp length.symm)
      · cases denotes

theorem kind_of_decodeText {kind : Kind} {text : String} {value : Value}
    (denotes : decodeText kind text = .ok value) : value.kind = kind := by
  unfold decodeText at denotes
  split at denotes
  · cases denotes
    rfl
  · split at denotes
    · cases denotes
      rfl
    · cases denotes
  · dsimp only at denotes
    split at denotes
    · cases denotes
    · split at denotes
      · cases denotes
        rfl
      · cases denotes

theorem valueOfText_encodeText (subject : String) {value : Value} (solid : ¬IsHollow value) :
    valueOfText subject value.kind (encodeText value) = .ok value := by
  rw [valueOfText, decodeText_encodeText solid]
  rfl

theorem parse_encode (name : RegisterName) {value : Value} (solid : ¬IsHollow value) :
    parse (encode name value).1 (encode name value).2 = .ok (name, value) := by
  change parse (encodeKey name value.kind) (encodeText value) = _
  rw [parse, splitKey_encodeKey]
  change (valueOfText _ value.kind (encodeText value) >>= fun v => pure (name, v)) = _
  rw [valueOfText_encodeText _ solid]
  rfl

theorem parse_hollow (name : RegisterName) (k : ArrayKind) :
    parse (encode name (.array k [])).1 (encode name (.array k [])).2 =
      .error (.invalidAssignment (encodeKey name (.array k)) TextFault.noElements.message) := by
  change parse (encodeKey name (.array k)) (encodeText (.array k [])) = _
  rw [parse, splitKey_encodeKey]
  change (valueOfText _ (.array k) (encodeText (.array k [])) >>= fun v => pure (name, v)) = _
  rw [valueOfText, decodeText_hollow]
  rfl

theorem solid_of_parse {key text : String} {name : RegisterName} {value : Value}
    (parsed : parse key text = .ok (name, value)) : ¬IsHollow value := by
  unfold parse at parsed
  obtain ⟨⟨found, kind⟩, -, parsed⟩ := ok_of_bind parsed
  obtain ⟨denoted, decoded, same⟩ := ok_of_bind parsed
  cases same
  exact solid_of_decodeText (ok_of_mapError decoded)

/-- The hierarchical form loses nothing: it is read back exactly, an array without elements is refused,
keys tell names and kinds apart, and whatever can be read at all comes back from its own form. -/
theorem hierarchical_form_faithful :
    (∀ (name : RegisterName) (value : Value), (∀ k, value ≠ .array k []) →
      parse (encode name value).1 (encode name value).2 = .ok (name, value)) ∧
    (∀ (name : RegisterName) (k : ArrayKind),
      parse (encode name (.array k [])).1 (encode name (.array k [])).2 =
        .error (.invalidAssignment (encodeKey name (.array k)) "no elements given")) ∧
    (∀ (name other : RegisterName) (kind kind' : Kind),
      encodeKey name kind = encodeKey other kind' → name = other ∧ kind = kind') ∧
    (∀ (key text : String) (name : RegisterName) (value : Value),
      parse key text = .ok (name, value) →
        parse (encode name value).1 (encode name value).2 = .ok (name, value)) := by
  refine ⟨?_, parse_hollow, fun _ _ _ _ => encodeKey_injective, ?_⟩
  · intro name value solid
    apply parse_encode
    rintro ⟨k, hollow⟩
    exact solid k hollow
  · intro key text name value parsed
    exact parse_encode name (solid_of_parse parsed)

end RegisterPlane.Assignment
