import RegisterPlane.Proofs.Store.Change

namespace RegisterPlane.Store

variable {σ : Type}

structure Follows (seed : Seed σ) (entries : Entries σ) : Prop where
  computed : ∀ {name key c}, seed.computed? name = some (key, c) →
    lookup? entries name = some (key, .computed c)
  stored : ∀ {name key value flags}, seed.computed? name = none →
    seed.default? name = some (key, value, flags) →
    ∃ stored, lookup? entries name = some (key, .stored stored) ∧ stored.flags = flags ∧
      stored.value.SameShape value
  other : ∀ {name key entry}, seed.computed? name = none → seed.default? name = none →
    lookup? entries name = some (key, entry) →
    ∃ stored, entry = .stored stored ∧ stored.flags.persistent = true

theorem follows_declare (now : Timestamp) (seed : Seed σ) : Follows seed (declare now seed) where
  computed := by
    intro name key c declared
    rw [lookup_declare, declared?, declared]
  stored := by
    intro name key value flags plain declared
    refine ⟨⟨value, flags, some now⟩, ?_, rfl, .refl value⟩
    rw [lookup_declare, declared?, plain, declared]
    rfl
  other := by
    intro name key entry plain absent found
    rw [lookup_declare, declared?, plain, absent] at found
    cases found

theorem declaration_cases (seed : Seed σ) (name : String) :
    (∃ key c, seed.computed? name = some (key, c)) ∨
      (seed.computed? name = none ∧ ∃ key value flags, seed.default? name = some (key, value, flags)) ∨
      (seed.computed? name = none ∧ seed.default? name = none) := by
  cases computed : seed.computed? name with
  | some found => exact Or.inl ⟨found.1, found.2, rfl⟩
  | none =>
      cases declared : seed.default? name with
      | some found => exact Or.inr (Or.inl ⟨rfl, found.1, found.2.1, found.2.2, rfl⟩)
      | none => exact Or.inr (Or.inr ⟨rfl, rfl⟩)

theorem follows_change {seed : Seed σ} {before after : Entries σ} (change : Change before after)
    (follows : Follows seed before) : Follows seed after := by
  cases change with
  | keep => exact follows
  | @refit key old new found flags shape =>
      -- the flags and the shape are those of before, so that only the fitted name needs a look
      constructor
      · intro name other c declared
        have there := follows.computed declared
        by_cases here : key.text = name
        · rw [here, there] at found
          cases found
        · rw [lookup_insert_of_ne here, there]
      · intro name other value kept plain declared
        obtain ⟨stored, there, same, fits⟩ := follows.stored plain declared
        by_cases here : key.text = name
        · rw [here, there] at found
          cases found
          refine ⟨new, ?_, flags.trans same, shape.trans fits⟩
          rw [lookup_insert, if_pos here]
        · exact ⟨stored, by rw [lookup_insert_of_ne here, there], same, fits⟩
      · intro name other entry plain absent there
        by_cases here : key.text = name
        · rw [lookup_insert, if_pos here] at there
          cases there
          rw [here] at found
          obtain ⟨stored, same, persistent⟩ := follows.other plain absent found
          cases same
          exact ⟨new, rfl, by rw [flags, persistent]⟩
        · rw [lookup_insert_of_ne here] at there
          exact follows.other plain absent there
  | @add added new absent persistent =>
      constructor
      · intro name other c declared
        have there := follows.computed declared
        by_cases here : added.text = name
        · rw [here, there] at absent
          cases absent
        · rw [lookup_insert_of_ne here, there]
      · intro name other value kept plain declared
        obtain ⟨stored, there, same, fits⟩ := follows.stored plain declared
        by_cases here : added.text = name
        · rw [here, there] at absent
          cases absent
        · exact ⟨stored, by rw [lookup_insert_of_ne here, there], same, fits⟩
      · intro name other entry plain undeclared there
        by_cases here : added.text = name
        · rw [lookup_insert, if_pos here] at there
          cases there
          exact ⟨new, rfl, persistent⟩
        · rw [lookup_insert_of_ne here] at there
          exact follows.other plain undeclared there

theorem restoreAll_keeps {holds : Entries σ → Prop}
    (step : ∀ {before after : Entries σ}, Change before after → holds before → holds after)
    (kept : List Persisted) {entries : Entries σ} (start : holds entries) :
    holds (kept.foldl restore entries) := by
  induction kept generalizing entries with
  | nil => exact start
  | cons p rest ih => exact ih (step (restore_change entries p) start)

theorem seed_of_build {World : Type} {seed : Seed σ} {backing : Backing World} {now : Timestamp}
    {world : World} {s : Store σ} (built : build seed backing now world = .ok s) :
    ∃ kept, backing.load world = .ok kept ∧ ofSeed seed backing.durable kept now = .ok s := by
  obtain ⟨kept, loaded, built⟩ := ok_of_bind built
  exact ⟨kept, ok_of_mapError loaded, ok_of_mapError built⟩

theorem build_entries {World : Type} {seed : Seed σ} {backing : Backing World} {now : Timestamp}
    {world : World} {s : Store σ} (built : build seed backing now world = .ok s) :
    ∃ kept, backing.load world = .ok kept ∧
      overrideAll now (kept.foldl restore (declare now seed), false) seed.overrides =
        .ok (s.entries, s.dirty) := by
  obtain ⟨kept, loaded, seeded⟩ := seed_of_build built
  obtain ⟨⟨entries, dirty⟩, overridden, same⟩ := ok_of_bind seeded
  cases same
  exact ⟨kept, loaded, overridden⟩

end RegisterPlane.Store
