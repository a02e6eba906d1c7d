import RegisterPlane.Proofs.Store.Write

namespace RegisterPlane.Store

variable {σ : Type} {s : Store σ} {now : Timestamp} {name : String} {value : Value}

/-- What a refused write answers, case by case. -/
inductive Denies (s : Store σ) (name : String) (value : Value) : Refusal → Prop where
  | unknown (absent : s.entry? name = none) : Denies s name value ⟨.notFound name, none⟩
  | readOnly {key : RegisterName} {stored : Stored} (found : s.entry? name = some (key, .stored stored))
      (fixed : stored.flags.mutable = false) :
      Denies s name value ⟨.immutable name, some (s.view key stored)⟩
  | misfit {key : RegisterName} {stored : Stored} {m : Misfit}
      (found : s.entry? name = some (key, .stored stored)) (mutable : stored.flags.mutable = true)
      (unfit : s.policy.misfit? stored.value value = some m) :
      Denies s name value ⟨m.toError value.kind stored.value.kind, some (s.view key stored)⟩
  | unsettable {key : RegisterName} {c : Computed σ} (found : s.entry? name = some (key, .computed c))
      (fixed : c.write = none) :
      Denies s name value ⟨.immutable key.text, some (computedView key c (c.read s.live).1)⟩
  | computedMisfit {key : RegisterName} {c : Computed σ} {write : Value → σ → σ} {m : Misfit}
      (found : s.entry? name = some (key, .computed c)) (settable : c.write = some write)
      (unfit : s.policy.misfit? (c.read s.live).1 value = some m) :
      Denies s name value ⟨m.toError value.kind (c.read s.live).1.kind,
        some (computedView key c (c.read (c.read s.live).2).1)⟩

theorem access_of_taken {r : Register} {s' : Store σ} (taken : s.set now name value = (.ok r, s')) :
    s.access now name (some value) = (.ok r, s') := by
  simp only [access, accessWrite, taken]

theorem writeComputed_refused {key : RegisterName} {c : Computed σ} {live : σ} {e : RegisterError}
    (found : s.entry? name = some (key, .computed c))
    (wrote : writeComputed s.policy key c value s.live = (.error e, live)) :
    Denies s name value ⟨e, some (computedView key c (c.read live).1)⟩ := by
  unfold writeComputed at wrote
  cases settable : c.write with
  | none =>
      rw [settable] at wrote
      cases wrote
      exact .unsettable found settable
  | some write =>
      rw [settable] at wrote
      dsimp only at wrote
      cases assigned : s.policy.assign (c.read s.live).1 value with
      | ok fitted =>
          rw [assigned] at wrote
          cases wrote
      | error e' =>
          rw [assigned] at wrote
          cases wrote
          obtain ⟨m, unfit, rfl⟩ := Policy.assign_eq_error_iff.mp assigned
          exact .computedMisfit found settable unfit

theorem access_of_refused {e : RegisterError} (refused : (s.set now name value).1 = .error e) :
    ∃ refusal live, s.access now name (some value) = (.error refusal, { s with live }) ∧
      Denies s name value refusal := by
  have answered : ∀ {s' s'' : Store σ} {current : Except RegisterError Register},
      s.set now name value = (.error e, s') → s'.get name = (current, s'') →
        s.access now name (some value) = (.error ⟨e, current.toOption⟩, s'') := by
    intro s' s'' current wrote read
    simp only [access, accessWrite, wrote, read]
  have outcome := outcome_set s now name value
  generalize wrote : s.set now name value = result at outcome refused
  cases outcome with
  | unknown absent =>
      cases refused
      exact ⟨_, s.live, answered wrote (get_of_absent absent), .unknown absent⟩
  | readOnly found fixed =>
      cases refused
      exact ⟨_, s.live, answered wrote (get_of_stored found), .readOnly found fixed⟩
  | misfit found mutable unfit =>
      cases refused
      exact ⟨_, s.live, answered wrote (get_of_stored found), .misfit found mutable unfit⟩
  | @computed key c live result found written =>
      cases refused
      have there : entry? { s with live } name = some (key, .computed c) := found
      exact ⟨_, _, answered wrote (get_of_computed there), writeComputed_refused found written⟩
  | written => cases refused

/-- A mutable register that holds a text. A computed one is read once by a write and once more when that is
refused. -/
inductive HoldsText (s : Store σ) (name : String) : Prop where
  | stored {key : RegisterName} {stored : Stored} (found : s.entry? name = some (key, .stored stored))
      (mutable : stored.flags.mutable = true) (text : stored.value.kind = .string)
  | computed {key : RegisterName} {c : Computed σ} {write : Value → σ → σ}
      (found : s.entry? name = some (key, .computed c)) (settable : c.write = some write)
      (text : (c.read (c.read s.live).2).1.kind = .string)

structure TextSet (s : Store σ) (name text : String) (r : Register) (s' : Store σ) : Prop where
  shown : r.value = .string text
  kept : (s'.get name).1 = .ok r
  others : ∀ other, other ≠ name → s'.entry? other = s.entry? other

theorem set_text {key : RegisterName} {stored : Stored} (found : s.entry? name = some (key, .stored stored))
    (mutable : stored.flags.mutable = true) (held : stored.value.kind = .string) (now : Timestamp)
    (text : String) : ∃ r s', s.set now name (.string text) = (.ok r, s') ∧ TextSet s name text r s' := by
  have shape : (Value.string text).SameShape stored.value := by
    refine ⟨held.symm, fun numeric => ?_⟩
    rw [held] at numeric
    cases numeric
  have same := key_of_lookup found
  have here : lookup? (insertEntry key (.stored ⟨.string text, stored.flags, some now⟩) s.entries) name =
      some (key, .stored ⟨.string text, stored.flags, some now⟩) := by
    rw [lookup_insert, if_pos same]
  refine ⟨s.view key ⟨.string text, stored.flags, some now⟩,
    { s with
      entries := insertEntry key (.stored ⟨.string text, stored.flags, some now⟩) s.entries
      dirty := s.dirty || stored.flags.persistent }, ?_, ⟨rfl, ?_, ?_⟩⟩
  · simp only [set, found, writeStored, mutable, Policy.assign_of_shape shape]
    rfl
  · simp only [get, entry?, here]
    rfl
  · intro other differ
    exact lookup_insert_of_ne (by rw [same]; exact differ.symm) _ _

/-- A computed register that keeps texts in all the states it comes to: it reads as a text, a text that was
written is read back, and reading changes nothing that is read. -/
structure TextCell (c : Computed σ) (write : Value → σ → σ) (states : σ → Prop) : Prop where
  settable : c.write = some write
  text : ∀ live, states live → (c.read live).1.kind = .string
  read : ∀ live, states live → states (c.read live).2
  written : ∀ text live, states live → states (write (.string text) live)
  kept : ∀ text live, states live → (c.read (write (.string text) live)).1 = .string text
  steady : ∀ live, states live → (c.read (c.read live).2).1 = (c.read live).1

theorem set_cell {key : RegisterName} {c : Computed σ} {write : Value → σ → σ} {states : σ → Prop}
    (cell : TextCell c write states) (found : s.entry? name = some (key, .computed c))
    (inside : states s.live) (now : Timestamp) (text : String) :
    ∃ r live, s.set now name (.string text) = (.ok r, { s with live }) ∧
      TextSet s name text r { s with live } := by
  have shape : (Value.string text).SameShape (c.read s.live).1 := by
    refine ⟨(cell.text _ inside).symm, fun numeric => ?_⟩
    rw [cell.text _ inside] at numeric
    cases numeric
  have read := cell.read _ inside
  refine ⟨computedView key c (.string text), (c.read (write (.string text) (c.read s.live).2)).2, ?_,
    ⟨rfl, ?_, fun other _ => rfl⟩⟩
  · simp only [set, found, writeComputed, cell.settable, Policy.assign_of_shape shape, readComputed,
      cell.kept text _ read]
  · have there : entry? { s with live := (c.read (write (.string text) (c.read s.live).2)).2 } name =
        some (key, .computed c) := found
    rw [get_of_computed there, cell.steady _ (cell.written text _ read), cell.kept text _ read]

theorem refused_of_text (now : Timestamp) {key : RegisterName} {stored : Stored}
    (found : s.entry? name = some (key, .stored stored)) (held : stored.value.kind = .string)
    (other : value.kind ≠ .string) : ∃ e, (s.set now name value).1 = .error e := by
  have outcome := outcome_set s now name value
  generalize s.set now name value = result at outcome ⊢
  cases outcome with
  | unknown | readOnly | misfit => exact ⟨_, rfl⟩
  | computed found' =>
      rw [found] at found'
      cases found'
  | written found' mutable fits =>
      rw [found] at found'
      cases found'
      obtain ⟨t, rfl⟩ := fits.text held
      exact absurd rfl other

theorem access_of_cell (now : Timestamp) {key : RegisterName} {c : Computed σ} {write : Value → σ → σ}
    {states : σ → Prop} (cell : TextCell c write states) (found : s.entry? name = some (key, .computed c))
    (inside : states s.live) (other : value.kind ≠ .string) :
    (∃ e, (s.set now name value).1 = .error e) ∧
      ∃ live, (s.access now name (some value)).2 = { s with live } ∧ states live := by
  cases assigned : s.policy.assign (c.read s.live).1 value with
  | ok fitted =>
      have fits := (Policy.misfit_eq_none_iff ..).mp (Policy.coerce_of_assign assigned).1
      obtain ⟨t, rfl⟩ := fits.text (cell.text _ inside)
      exact absurd rfl other
  | error e =>
      have wrote : s.set now name value = (.error e, { s with live := (c.read s.live).2 }) := by
        simp only [set, found, writeComputed, cell.settable, assigned]
      have there : entry? { s with live := (c.read s.live).2 } name = some (key, .computed c) := found
      refine ⟨⟨e, by rw [wrote]⟩, (c.read (c.read s.live).2).2, ?_, cell.read _ (cell.read _ inside)⟩
      simp only [access, accessWrite, wrote, get_of_computed there]

end RegisterPlane.Store
