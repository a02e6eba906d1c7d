import RegisterPlane.Proofs.Store.Operation

namespace RegisterPlane.Store

variable {σ World : Type}

theorem get_of_absent {s : Store σ} {name : String} (absent : s.entry? name = none) :
    s.get name = (.error (.notFound name), s) := by
  simp only [get, absent]

theorem get_of_stored {s : Store σ} {name : String} {key : RegisterName} {held : Stored}
    (found : s.entry? name = some (key, .stored held)) : s.get name = (.ok (s.view key held), s) := by
  simp only [get, found]

theorem get_of_computed {s : Store σ} {name : String} {key : RegisterName} {c : Computed σ}
    (found : s.entry? name = some (key, .computed c)) :
    s.get name = (.ok (computedView key c (c.read s.live).1), { s with live := (c.read s.live).2 }) := by
  simp only [get, found, readComputed]

inductive WriteOutcome (s : Store σ) (now : Timestamp) (name : String) (value : Value) :
    Except RegisterError Register × Store σ → Prop where
  | unknown (absent : s.entry? name = none) :
      WriteOutcome s now name value (.error (.notFound name), s)
  | computed {key : RegisterName} {c : Computed σ} {live : σ}
      {result : Except RegisterError Register} (found : s.entry? name = some (key, .computed c))
      (wrote : writeComputed s.policy key c value s.live = (result, live)) :
      WriteOutcome s now name value (result, { s with live })
  | readOnly {key : RegisterName} {stored : Stored}
      (found : s.entry? name = some (key, .stored stored)) (fixed : stored.flags.mutable = false) :
      WriteOutcome s now name value (.error (.immutable name), s)
  | misfit {key : RegisterName} {stored : Stored} {m : Misfit}
      (found : s.entry? name = some (key, .stored stored)) (mutable : stored.flags.mutable = true)
      (unfit : s.policy.misfit? stored.value value = some m) :
      WriteOutcome s now name value (.error (m.toError value.kind stored.value.kind), s)
  | written {key : RegisterName} {stored new : Stored}
      (found : s.entry? name = some (key, .stored stored)) (mutable : stored.flags.mutable = true)
      (fits : s.policy.Admits stored.value value)
      (coerced : value.coerce stored.value.kind = .ok new.value)
      (flags : new.flags = stored.flags) (timestamp : new.timestamp = some now) :
      WriteOutcome s now name value (.ok (s.view key new),
        { s with
          entries := insertEntry key (.stored new) s.entries
          dirty := s.dirty || stored.flags.persistent })

theorem outcome_set (s : Store σ) (now : Timestamp) (name : String) (value : Value) :
    WriteOutcome s now name value (s.set now name value) := by
  unfold set
  cases found : s.entry? name with
  | none => exact .unknown found
  | some entry =>
      obtain ⟨key, entry⟩ := entry
      cases entry with
      | computed c => exact .computed found rfl
      | stored stored =>
          cases mutable : stored.flags.mutable with
          | false =>
              simp only [writeStored, mutable, Bool.not_false, if_true]
              exact .readOnly found mutable
          | true =>
              simp only [writeStored, mutable, Bool.not_true, if_neg Bool.false_ne_true,
                Policy.assign_eq_misfit]
              cases unfit : s.policy.misfit? stored.value value with
              | some m => exact .misfit found mutable unfit
              | none =>
                  have fits := (Policy.misfit_eq_none_iff ..).mp unfit
                  obtain ⟨fitted, coerced, -⟩ := Value.coerce_of_family fits.family
                  simp only [coerced]
                  exact .written found mutable fits coerced rfl rfl

/-- A register that is there, is stored and mutable, and that the value fits. -/
def Accepts (s : Store σ) (name : String) (value : Value) : Prop :=
  ∃ key stored, s.entry? name = some (key, .stored stored) ∧ stored.flags.mutable = true ∧
    s.policy.Admits stored.value value

/-- Which error refuses a write. That there is no such register comes first, then that it is read-only,
whatever the value is, and last that the value does not fit it. -/
inductive Refuses (s : Store σ) (name : String) (value : Value) : RegisterError → Prop where
  | unknown (absent : s.entry? name = none) : Refuses s name value (.notFound name)
  | readOnly {key : RegisterName} {stored : Stored}
      (found : s.entry? name = some (key, .stored stored)) (fixed : stored.flags.mutable = false) :
      Refuses s name value (.immutable name)
  | misfit {key : RegisterName} {stored : Stored} {m : Misfit}
      (found : s.entry? name = some (key, .stored stored)) (mutable : stored.flags.mutable = true)
      (unfit : s.policy.misfit? stored.value value = some m) :
      Refuses s name value (.incompatibleKind value.kind stored.value.kind m.message)

/-- What an accepted write leaves: the register with the converted value and the time of the write, a
store that is dirty if the register is persistent, and all the rest as it was. -/
structure Writes (s : Store σ) (now : Timestamp) (name : String) (value : Value) (r : Register)
    (s' : Store σ) : Prop where
  changed : ∃ key old new, s.entry? name = some (key, .stored old) ∧
    entry? s' name = some (key, .stored new) ∧ value.coerce old.value.kind = .ok new.value ∧
    new.flags = old.flags ∧ new.timestamp = some now ∧
    s'.dirty = (s.dirty || old.flags.persistent)
  others : ∀ other, other ≠ name → entry? s' other = s.entry? other
  names : s'.names = s.names
  policy : s'.policy = s.policy
  durable : s'.durable = s.durable
  live : s'.live = s.live
  returned : (s'.get name).1 = .ok r

theorem names_insert {entries : Entries σ} (ordered : Ascending entries) {key : RegisterName}
    {old : Entry σ} (found : lookup? entries key.text = some (key, old)) (new : Entry σ) :
    (insertEntry key new entries).map (·.1) = entries.map (·.1) := by
  induction entries with
  | nil => cases found
  | cons head rest ih =>
      obtain ⟨other, kept⟩ := head
      obtain ⟨first, later⟩ := List.pairwise_cons.mp ordered
      rw [lookup_cons] at found
      by_cases here : other.text = key.text
      · have same := RegisterName.eq_of_text here
        cases same
        simp [insertEntry]
      · rw [if_neg here] at found
        have before := first _ (mem_of_lookup found)
        have after : ¬key.text < other.text := not_lt_of_gt before
        simp only [insertEntry, if_neg after, if_pos before, List.map_cons, ih later found]

theorem not_accepts_of_refuses {s : Store σ} {name : String} {value : Value} {e : RegisterError}
    (refuses : Refuses s name value e) : ¬Accepts s name value := by
  rintro ⟨key, stored, there, writable, fits⟩
  cases refuses with
  | unknown absent =>
      rw [absent] at there
      cases there
  | readOnly found fixed =>
      rw [found] at there
      cases there
      rw [fixed] at writable
      cases writable
  | misfit found mutable unfit =>
      rw [found] at there
      cases there
      rw [(Policy.misfit_eq_none_iff ..).mpr fits] at unfit
      cases unfit

theorem writes_insert {s : Store σ} (ordered : Ascending s.entries) {name : String} {value : Value}
    {now : Timestamp} {key : RegisterName} {stored new : Stored}
    (found : s.entry? name = some (key, .stored stored))
    (coerced : value.coerce stored.value.kind = .ok new.value) (flags : new.flags = stored.flags)
    (timestamp : new.timestamp = some now) :
    Writes s now name value (s.view key new)
      { s with
        entries := insertEntry key (.stored new) s.entries
        dirty := s.dirty || stored.flags.persistent } := by
  have same := key_of_lookup found
  have here : lookup? (insertEntry key (.stored new) s.entries) name = some (key, .stored new) := by
    rw [lookup_insert, if_pos same]
  refine ⟨⟨key, stored, new, found, here, coerced, flags, timestamp, rfl⟩, ?_, ?_, rfl, rfl, rfl, ?_⟩
  · intro other differ
    exact lookup_insert_of_ne (by rw [same]; exact differ.symm) _ _
  · exact names_insert ordered (by rw [same]; exact found) _
  · simp only [get, entry?, here]
    rfl

theorem set_settles {s : Store σ} (ordered : Ascending s.entries) (now : Timestamp) {name : String}
    (value : Value) (plain : ∀ key c, s.entry? name ≠ some (key, .computed c)) :
    (∃ e, s.set now name value = (.error e, s) ∧ Refuses s name value e) ∨
      ∃ r s', s.set now name value = (.ok r, s') ∧ Accepts s name value ∧
        Writes s now name value r s' := by
  have outcome := outcome_set s now name value
  generalize s.set now name value = result at outcome ⊢
  cases outcome with
  | unknown absent => exact Or.inl ⟨_, rfl, .unknown absent⟩
  | computed found => exact absurd found (plain _ _)
  | readOnly found fixed => exact Or.inl ⟨_, rfl, .readOnly found fixed⟩
  | misfit found mutable unfit => exact Or.inl ⟨_, rfl, .misfit found mutable unfit⟩
  | written found mutable fits coerced flags timestamp =>
      exact Or.inr ⟨_, _, rfl, ⟨_, _, found, mutable, fits⟩,
        writes_insert ordered found coerced flags timestamp⟩

/-- A write to a name that is not computed is accepted exactly when the register is there, is mutable
and fits the value. A refused write says why and leaves the whole store as it was; an accepted one
changes that register alone, and returns what is read from then on. -/
theorem write_all_or_nothing {backing : Backing World} {s : Store σ}
    (reachable : Reachable backing s) (now : Timestamp) (name : String) (value : Value)
    (plain : ∀ key c, s.entry? name ≠ some (key, .computed c)) :
    ((∃ r, (s.set now name value).1 = .ok r) ↔ Accepts s name value) ∧
      (∀ e, (s.set now name value).1 = .error e →
        Refuses s name value e ∧ (s.set now name value).2 = s) ∧
      ∀ r, (s.set now name value).1 = .ok r → Writes s now name value r (s.set now name value).2 := by
  rcases set_settles (ascending_reachable reachable) now value plain with
    ⟨e, result, refuses⟩ | ⟨r, s', result, accepts, writes⟩
  · rw [result]
    refine ⟨⟨?_, fun accepts => absurd accepts (not_accepts_of_refuses refuses)⟩, ?_, ?_⟩
    · rintro ⟨r, taken⟩
      cases taken
    · intro other refused
      cases refused
      exact ⟨refuses, rfl⟩
    · intro r taken
      cases taken
  · rw [result]
    refine ⟨⟨fun _ => accepts, fun _ => ⟨r, rfl⟩⟩, ?_, ?_⟩
    · intro e refused
      cases refused
    · intro other taken
      cases taken
      exact writes

def boilerSeed : Seed Nat where
  policy := .implicit
  defaults := [(⟨"boiler.limit", by decide⟩, .array (.natural .w16) [(80 : BitVec 16)], .config),
    (⟨"boiler.serial", by decide⟩, .string "b7", .readOnly)]
  computed := [(⟨"boiler.load", by decide⟩,
    ⟨fun live => (.array (.natural .w32) [BitVec.ofNat 32 live], live), none⟩)]
  overrides := []
  live := 12

theorem write_all_or_nothing_boiler :
    ∃ built : Store Nat, Store.build boilerSeed (.volatile Unit) ⟨0, 0⟩ () = .ok built ∧
      (∃ r s', built.set ⟨1, 0⟩ "boiler.limit" (.array (.integer .w8) [(75 : BitVec 8)]) = (.ok r, s') ∧
        Writes built ⟨1, 0⟩ "boiler.limit" (.array (.integer .w8) [(75 : BitVec 8)]) r s') ∧
      Refuses built "boiler.serial" (.string "b8") (.immutable "boiler.serial") ∧
      (built.set ⟨1, 0⟩ "boiler.serial" (.string "b8")).2 = built := by
  have reachable : ∀ s : Store Nat, Store.build boilerSeed (.volatile Unit) ⟨0, 0⟩ () = .ok s →
      Reachable (.volatile Unit) s := fun s built => reachable_build built
  refine ⟨_, rfl, ⟨_, _, rfl, ?_⟩, ?_⟩
  · refine (write_all_or_nothing (reachable _ rfl) ⟨1, 0⟩ "boiler.limit" _ ?_).2.2 _ rfl
    intro key c found
    cases found
  · refine (write_all_or_nothing (reachable _ rfl) ⟨1, 0⟩ "boiler.serial" _ ?_).2.1 _ rfl
    intro key c found
    cases found

end RegisterPlane.Store
