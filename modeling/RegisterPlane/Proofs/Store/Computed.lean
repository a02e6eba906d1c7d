import RegisterPlane.Proofs.Store.Write

namespace RegisterPlane.Store

variable {σ World : Type}

theorem computed_change {before after : Entries σ} (change : Change before after) (name : String)
    (key : RegisterName) (c : Computed σ) :
    lookup? after name = some (key, .computed c) ↔ lookup? before name = some (key, .computed c) := by
  cases change with
  | keep => exact Iff.rfl
  | @refit changed old new found flags shape =>
      rw [lookup_insert]
      by_cases here : changed.text = name
      · rw [if_pos here, ← here, found]
        simp
      · rw [if_neg here]
  | @add added new absent persistent =>
      rw [lookup_insert]
      by_cases here : added.text = name
      · rw [if_pos here, ← here, absent]
        simp
      · rw [if_neg here]

/-- The same computed registers, under the same policy. -/
structure SameComputed (s s' : Store σ) : Prop where
  entry : ∀ name key c,
    s'.entry? name = some (key, .computed c) ↔ s.entry? name = some (key, .computed c)
  policy : s'.policy = s.policy

theorem SameComputed.refl (s : Store σ) : SameComputed s s := ⟨fun _ _ _ => Iff.rfl, rfl⟩

theorem SameComputed.trans {first second third : Store σ} (early : SameComputed first second)
    (late : SameComputed second third) : SameComputed first third :=
  ⟨fun name key c => (late.entry name key c).trans (early.entry name key c),
    late.policy.trans early.policy⟩

theorem sameComputed_of_moves {s s' : Store σ} (moves : Moves s s') : SameComputed s s' :=
  ⟨computed_change moves.change, moves.policy⟩

theorem sameComputed_live (s : Store σ) (live : σ) : SameComputed s { s with live } :=
  sameComputed_of_moves (moves_live s live)

theorem sameComputed_access (s : Store σ) (now : Timestamp) (name : String) (value : Option Value) :
    SameComputed s (s.access now name value).2 :=
  access_keeps (fun moves same => same.trans (sameComputed_of_moves moves)) (.refl s) now name value

theorem sameComputed_flush (s : Store σ) (backing : Backing World) (now : Timestamp) (world : World) :
    SameComputed s (s.flush backing now world).2.1 := by
  unfold flush
  split
  · exact .refl s
  · split <;> exact ⟨fun _ _ _ => Iff.rfl, rfl⟩

theorem live_flush (s : Store σ) (backing : Backing World) (now : Timestamp) (world : World) :
    (s.flush backing now world).2.1.live = s.live := by
  unfold flush
  split
  · rfl
  · split <;> rfl

theorem live_access {s : Store σ} {name : String}
    (plain : ∀ key c, s.entry? name ≠ some (key, .computed c)) (now : Timestamp)
    (value : Option Value) : (s.access now name value).2.live = s.live := by
  have read : ∀ s' : Store σ, (∀ key c, s'.entry? name ≠ some (key, .computed c)) →
      (s'.get name).2 = s' := by
    intro s' plain'
    unfold get
    split
    · rfl
    · rfl
    · rename_i key c found
      exact absurd found (plain' key c)
  cases value with
  | none =>
      simp only [access, accessRead]
      rw [read s plain]
  | some value =>
      have outcome := outcome_set s now name value
      simp only [access, accessWrite]
      generalize s.set now name value = result at outcome ⊢
      cases outcome with
      | computed found => exact absurd found (plain _ _)
      | written => rfl
      | unknown | readOnly | misfit =>
          dsimp only
          rw [read s plain]

/-- Getters leave the live state alone. -/
def Quiet (s : Store σ) : Prop :=
  ∀ name key c, s.entry? name = some (key, .computed c) → ∀ live, (c.read live).2 = live

theorem quiet_of_sameComputed {s s' : Store σ} (same : SameComputed s s') (quiet : Quiet s) :
    Quiet s' :=
  fun name key c found => quiet name key c ((same.entry name key c).mp found)

theorem get_quiet {s : Store σ} (quiet : Quiet s) (name : String) : (s.get name).2 = s := by
  unfold get
  split
  · rfl
  · rfl
  · rename_i key c found
    simp only [readComputed, quiet name key c found]

theorem access_read_quiet {s : Store σ} (quiet : Quiet s) (now : Timestamp) (name : String) :
    s.access now name none = ((s.get name).1.mapError fun error => ⟨error, none⟩, s) := by
  simp only [access, accessRead, get_quiet quiet name]

theorem writeComputed_cases {c : Computed σ} (silent : ∀ live, (c.read live).2 = live)
    (policy : Policy) (key : RegisterName) (value : Value) (live : σ) :
    (∃ error, writeComputed policy key c value live = (.error error, live)) ∨
      ∃ after, writeComputed policy key c value live =
        (.ok (computedView key c (c.read after).1), after) := by
  unfold writeComputed
  split
  · exact Or.inl ⟨_, rfl⟩
  · simp only [silent]
    split
    · exact Or.inl ⟨_, rfl⟩
    · simp only [readComputed, silent]
      exact Or.inr ⟨_, rfl⟩

theorem access_refused {s : Store σ} (quiet : Quiet s) {now : Timestamp} {name : String}
    {value : Value} {refusal : Refusal} (refused : (s.access now name (some value)).1 = .error refusal) :
    (s.access now name (some value)).2 = s ∧ refusal.current = (s.get name).1.toOption := by
  have unchanged : ∀ error, s.set now name value = (.error error, s) →
      (s.access now name (some value)).2 = s ∧ refusal.current = (s.get name).1.toOption := by
    intro error result
    simp only [access, accessWrite, result, get_quiet quiet name, Except.error.injEq] at refused ⊢
    exact ⟨trivial, by rw [← refused]⟩
  have outcome := outcome_set s now name value
  generalize result : s.set now name value = answer at outcome
  cases outcome with
  | unknown absent => exact unchanged _ result
  | readOnly found fixed => exact unchanged _ result
  | misfit found mutable unfit => exact unchanged _ result
  | @computed key c live answer found wrote =>
      rcases writeComputed_cases (quiet name key c found) s.policy key value s.live with
        ⟨error, same⟩ | ⟨after, same⟩
      · rw [same] at wrote
        cases wrote
        exact unchanged error result
      · rw [same] at wrote
        cases wrote
        simp [access, accessWrite, result] at refused
  | written => simp [access, accessWrite, result] at refused

theorem access_taken {s : Store σ} (quiet : Quiet s) {now : Timestamp} {name : String}
    {value : Value} {register : Register} (taken : (s.access now name (some value)).1 = .ok register) :
    ((s.access now name (some value)).2.get name).1 = .ok register := by
  have outcome := outcome_set s now name value
  generalize result : s.set now name value = answer at outcome
  cases outcome with
  | unknown | readOnly | misfit => simp [access, accessWrite, result] at taken
  | @computed key c live answer found wrote =>
      rcases writeComputed_cases (quiet name key c found) s.policy key value s.live with
        ⟨error, same⟩ | ⟨after, same⟩
      · rw [same] at wrote
        cases wrote
        simp [access, accessWrite, result] at taken
      · rw [same] at wrote
        cases wrote
        simp only [access, accessWrite, result, Except.ok.injEq] at taken ⊢
        have there : entry? { s with live } name = some (key, .computed c) := found
        simp only [get, there, readComputed]
        rw [taken]
  | @written key stored new found =>
      simp only [access, accessWrite, result, Except.ok.injEq] at taken ⊢
      rw [← taken]
      have here : lookup? (insertEntry key (.stored new) s.entries) name = some (key, .stored new) := by
        rw [lookup_insert, if_pos (key_of_lookup found)]
      simp only [get, entry?, here]
      rfl

end RegisterPlane.Store
