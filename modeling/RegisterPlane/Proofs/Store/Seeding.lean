import RegisterPlane.Proofs.Store.Layers

/-! What a store is seeded with, name by name. The backing and the overrides mention names and offer
values for them. A name takes its shape and flags from its default or else from its first mention, and
its value from the last mention that fits. -/

namespace RegisterPlane

/-- A name, a value offered for it, and the flags of a register that this is the first mention of. -/
abbrev Mention := RegisterName × Value × Flags

def Persisted.mention (p : Persisted) : Mention := (p.name, p.value, ⟨p.mutable, true⟩)

def overrideMention (override : RegisterName × Value) : Mention := (override.1, override.2, .config)

/-- The last of the values that fits the shape of a mould. -/
def lastFitting? (mould : Value) (values : List Value) : Option Value :=
  (values.filter fun value => (Policy.implicit.misfit? mould value).isNone).getLast?

theorem lastFitting_append (mould : Value) (early late : List Value) :
    lastFitting? mould (early ++ late) = (lastFitting? mould late).or (lastFitting? mould early) := by
  simp [lastFitting?, List.getLast?_append]

theorem lastFitting_fit {mould value : Value} (fits : Policy.implicit.misfit? mould value = none)
    (values : List Value) : lastFitting? mould (values ++ [value]) = some value := by
  simp [lastFitting?, fits]

theorem lastFitting_unfit {mould value : Value} {m : Misfit}
    (unfit : Policy.implicit.misfit? mould value = some m) (values : List Value) :
    lastFitting? mould (values ++ [value]) = lastFitting? mould values := by
  simp [lastFitting?, unfit]

theorem lastFitting_texts (mould : String) (texts : List String) :
    lastFitting? (.string mould) (texts.map .string) = texts.getLast?.map .string := by
  have fits : (texts.map Value.string).filter
      (fun value => (Policy.implicit.misfit? (.string mould) value).isNone) = texts.map .string := by
    apply List.filter_eq_self.mpr
    intro value member
    obtain ⟨text, -, rfl⟩ := List.mem_map.mp member
    rfl
  rw [lastFitting?, fits, List.getLast?_map]

namespace Store

variable {σ World : Type}

/-- What decides the name, the shape and the flags of a register that is not computed. -/
def ground? (seed : Seed σ) (mentions : List Mention) (name : String) : Option Mention :=
  (seed.default? name).or (mentions.find? (·.1.text == name))

def offers (mentions : List Mention) (name : String) : List Value :=
  (mentions.filter (·.1.text == name)).map (·.2.1)

theorem ground_concat (seed : Seed σ) (mentions : List Mention) (mention : Mention) (name : String) :
    ground? seed (mentions ++ [mention]) name =
      (ground? seed mentions name).or (if mention.1.text = name then some mention else none) := by
  unfold ground?
  by_cases here : mention.1.text = name
  · simp [List.find?_append, here]
  · simp [List.find?_append, here]

theorem offers_concat (mentions : List Mention) (mention : Mention) (name : String) :
    offers (mentions ++ [mention]) name =
      offers mentions name ++ if mention.1.text = name then [mention.2.1] else [] := by
  unfold offers
  by_cases here : mention.1.text = name
  · simp [here]
  · simp [here]

/-- What a mention makes of the entries. -/
inductive Lay (entries : Entries σ) (mention : Mention) : Entries σ → Prop where
  | hidden {key : RegisterName} {c : Computed σ}
      (found : lookup? entries mention.1.text = some (key, .computed c)) : Lay entries mention entries
  | define (timestamp : Option Timestamp) (absent : lookup? entries mention.1.text = none) :
      Lay entries mention
        (insertEntry mention.1 (.stored ⟨mention.2.1, mention.2.2, timestamp⟩) entries)
  | fit {key : RegisterName} {stored : Stored} {fitted : Value} (timestamp : Option Timestamp)
      (found : lookup? entries mention.1.text = some (key, .stored stored))
      (assigned : Policy.implicit.assign stored.value mention.2.1 = .ok fitted) :
      Lay entries mention (insertEntry key (.stored ⟨fitted, stored.flags, timestamp⟩) entries)
  | skip {key : RegisterName} {stored : Stored} {m : Misfit}
      (found : lookup? entries mention.1.text = some (key, .stored stored))
      (unfit : Policy.implicit.misfit? stored.value mention.2.1 = some m) : Lay entries mention entries

theorem lookup_lay_of_ne {entries after : Entries σ} {mention : Mention} (lay : Lay entries mention after)
    {name : String} (other : mention.1.text ≠ name) : lookup? after name = lookup? entries name := by
  cases lay with
  | hidden | skip => rfl
  | define timestamp absent => exact lookup_insert_of_ne other _ _
  | fit timestamp found assigned =>
      exact lookup_insert_of_ne (by rwa [key_of_lookup found]) _ _

/-! What a mention made of the entries, by what they had under its name. -/

theorem lay_computed {entries after : Entries σ} {mention : Mention} (lay : Lay entries mention after)
    {key : RegisterName} {c : Computed σ}
    (there : lookup? entries mention.1.text = some (key, .computed c)) : after = entries := by
  cases lay with
  | hidden | skip => rfl
  | define timestamp absent => simp [there] at absent
  | fit timestamp found assigned => simp [there] at found

theorem lay_absent {entries after : Entries σ} {mention : Mention} (lay : Lay entries mention after)
    (absent : lookup? entries mention.1.text = none) : ∃ timestamp,
      after = insertEntry mention.1 (.stored ⟨mention.2.1, mention.2.2, timestamp⟩) entries := by
  cases lay with
  | define timestamp absent => exact ⟨timestamp, rfl⟩
  | hidden found | skip found | fit timestamp found => simp [absent] at found

theorem lay_stored {entries after : Entries σ} {mention : Mention} (lay : Lay entries mention after)
    {key : RegisterName} {stored : Stored}
    (there : lookup? entries mention.1.text = some (key, .stored stored)) :
    (∃ fitted timestamp, Policy.implicit.assign stored.value mention.2.1 = .ok fitted ∧
        after = insertEntry key (.stored ⟨fitted, stored.flags, timestamp⟩) entries) ∨
      ∃ m, Policy.implicit.misfit? stored.value mention.2.1 = some m ∧ after = entries := by
  cases lay with
  | @fit key' stored' fitted timestamp found assigned =>
      rw [there] at found
      cases found
      exact Or.inl ⟨fitted, timestamp, assigned, rfl⟩
  | @skip key' stored' m found unfit =>
      rw [there] at found
      cases found
      exact Or.inr ⟨m, unfit, rfl⟩
  | define timestamp absent => simp [there] at absent
  | hidden found => simp [there] at found

theorem restore_lay (entries : Entries σ) (p : Persisted) :
    Lay entries p.mention (restore entries p) := by
  unfold restore
  cases found : lookup? entries p.name.text with
  | none => exact .define p.timestamp found
  | some entry =>
      obtain ⟨key, entry⟩ := entry
      cases entry with
      | computed c => exact .hidden found
      | stored stored =>
          dsimp only
          cases assigned : Policy.implicit.assign stored.value p.value with
          | ok fitted => exact .fit _ found assigned
          | error e =>
              obtain ⟨m, unfit, -⟩ := Policy.assign_eq_error_iff.mp assigned
              exact .skip found unfit

theorem override_lay {now : Timestamp} {entries after : Entries σ} {name : RegisterName} {value : Value}
    {changed : Bool} (overridden : override now entries name value = .ok (after, changed)) :
    Lay entries (overrideMention (name, value)) after := by
  unfold override at overridden
  cases found : lookup? entries name.text with
  | none =>
      rw [found] at overridden
      cases overridden
      exact .define (some now) found
  | some entry =>
      obtain ⟨key, entry⟩ := entry
      rw [found] at overridden
      cases entry with
      | computed c =>
          cases overridden
          exact .hidden found
      | stored stored =>
          obtain ⟨fitted, assigned, same⟩ := ok_of_map overridden
          cases same
          exact .fit (some now) found assigned

theorem override_error_iff {now : Timestamp} {entries : Entries σ} {name : RegisterName} {value : Value}
    {error : RegisterError} :
    override now entries name value = .error error ↔
      ∃ key stored m, lookup? entries name.text = some (key, .stored stored) ∧
        Policy.implicit.misfit? stored.value value = some m ∧
        error = m.toError value.kind stored.value.kind := by
  unfold override
  cases found : lookup? entries name.text with
  | none => simp
  | some entry =>
      obtain ⟨key, entry⟩ := entry
      cases entry with
      | computed c => simp
      | stored stored =>
          dsimp only
          have refused : Policy.implicit.assign stored.value value = .error error ↔ ∃ m,
              Policy.implicit.misfit? stored.value value = some m ∧
                error = m.toError value.kind stored.value.kind := Policy.assign_eq_error_iff
          cases assigned : Policy.implicit.assign stored.value value with
          | ok fitted =>
              rw [assigned] at refused
              simpa [Except.map] using refused
          | error other =>
              rw [assigned] at refused
              simpa [Except.map] using refused

/-- Entries that are settled by the declarations of a seed and by mentions. -/
structure Settled (seed : Seed σ) (mentions : List Mention) (entries : Entries σ) : Prop where
  computed : ∀ {name key c}, seed.computed? name = some (key, c) →
    lookup? entries name = some (key, .computed c)
  absent : ∀ {name}, seed.computed? name = none → ground? seed mentions name = none →
    lookup? entries name = none
  stored : ∀ {name key mould flags}, seed.computed? name = none →
    ground? seed mentions name = some (key, mould, flags) →
    ∃ stored, lookup? entries name = some (key, .stored stored) ∧ stored.flags = flags ∧
      stored.value.SameShape mould ∧
      ((lastFitting? mould (offers mentions name)).getD mould).coerce mould.kind = .ok stored.value

theorem settled_declare (now : Timestamp) (seed : Seed σ) : Settled seed [] (declare now seed) where
  computed := by
    intro name key c declared
    rw [lookup_declare, declared?, declared]
  absent := by
    intro name plain groundless
    obtain ⟨undeclared, -⟩ := Option.or_eq_none_iff.mp groundless
    rw [lookup_declare, declared?, plain, undeclared]
    rfl
  stored := by
    intro name key mould flags plain ground
    have declared : seed.default? name = some (key, mould, flags) := by simpa [ground?] using ground
    refine ⟨⟨mould, flags, some now⟩, ?_, rfl, .refl mould, mould.coerce_self⟩
    rw [lookup_declare, declared?, plain, declared]
    rfl

theorem stored_lay {entries after : Entries σ} {mention : Mention} (lay : Lay entries mention after)
    {key : RegisterName} {old : Stored}
    (there : lookup? entries mention.1.text = some (key, .stored old)) {mould : Value}
    (shape : old.value.SameShape mould) {values : List Value}
    (value : ((lastFitting? mould values).getD mould).coerce mould.kind = .ok old.value) :
    ∃ stored, lookup? after mention.1.text = some (key, .stored stored) ∧ stored.flags = old.flags ∧
      stored.value.SameShape mould ∧
      ((lastFitting? mould (values ++ [mention.2.1])).getD mould).coerce mould.kind =
        .ok stored.value := by
  rcases lay_stored lay there with ⟨fitted, timestamp, assigned, rfl⟩ | ⟨m, unfit, rfl⟩
  · obtain ⟨fits, coerced⟩ := Policy.coerce_of_assign assigned
    rw [Policy.misfit_of_shape shape] at fits
    refine ⟨⟨fitted, old.flags, timestamp⟩, ?_, rfl, (Policy.shape_of_assign assigned).trans shape, ?_⟩
    · rw [lookup_insert, if_pos (key_of_lookup there)]
    · rw [lastFitting_fit fits, ← shape.1]
      exact coerced
  · rw [Policy.misfit_of_shape shape] at unfit
    exact ⟨old, there, rfl, shape, by rw [lastFitting_unfit unfit]; exact value⟩

theorem settled_lay {seed : Seed σ} {mentions : List Mention} {mention : Mention}
    {entries after : Entries σ} (settled : Settled seed mentions entries)
    (lay : Lay entries mention after) : Settled seed (mentions ++ [mention]) after where
  computed := by
    intro name key c declared
    have there := settled.computed declared
    by_cases here : mention.1.text = name
    · subst here
      rw [lay_computed lay there, there]
    · rw [lookup_lay_of_ne lay here, there]
  absent := by
    intro name plain groundless
    rw [ground_concat] at groundless
    obtain ⟨before, unmentioned⟩ := Option.or_eq_none_iff.mp groundless
    have other : mention.1.text ≠ name := by
      intro here
      rw [if_pos here] at unmentioned
      cases unmentioned
    rw [lookup_lay_of_ne lay other, settled.absent plain before]
  stored := by
    intro name key mould flags plain ground
    rw [ground_concat] at ground
    rw [offers_concat]
    by_cases here : mention.1.text = name
    · subst here
      rw [if_pos rfl] at ground ⊢
      cases before : ground? seed mentions mention.1.text with
      | some earlier =>
          rw [before, Option.some_or] at ground
          cases ground
          obtain ⟨old, there, rfl, shape, value⟩ := settled.stored plain before
          exact stored_lay lay there shape value
      | none =>
          -- This is the first mention, and what it offers is its own ground.
          rw [before, Option.none_or] at ground
          cases ground
          obtain ⟨timestamp, rfl⟩ := lay_absent lay (settled.absent plain before)
          refine ⟨⟨mould, flags, timestamp⟩, lookup_insert_self _ _ _, rfl, .refl mould, ?_⟩
          rw [lastFitting_fit (Policy.misfit_self .implicit mould)]
          exact mould.coerce_self
    · rw [if_neg here, Option.or_none] at ground
      rw [if_neg here, List.append_nil, lookup_lay_of_ne lay here]
      exact settled.stored plain ground

theorem settled_restoreAll {seed : Seed σ} {mentions : List Mention} {entries : Entries σ}
    (settled : Settled seed mentions entries) (kept : List Persisted) :
    Settled seed (mentions ++ kept.map Persisted.mention) (kept.foldl restore entries) := by
  induction kept generalizing mentions entries with
  | nil => simpa using settled
  | cons p rest ih =>
      have next := ih (settled_lay settled (restore_lay entries p))
      simpa only [List.map_cons, List.append_assoc, List.singleton_append, List.foldl_cons] using next

theorem ground_append {seed : Seed σ} {mentions : List Mention} {name : String} {ground : Mention}
    (here : ground? seed mentions name = some ground) (more : List Mention) :
    ground? seed (mentions ++ more) name = some ground := by
  unfold ground? at here ⊢
  rw [List.find?_append, ← Option.or_assoc, here, Option.some_or]

theorem ground_override {seed : Seed σ} {mentions : List Mention} {entries after : Entries σ}
    (settled : Settled seed mentions entries) {now : Timestamp} {name : RegisterName} {value : Value}
    {changed : Bool} (overridden : override now entries name value = .ok (after, changed))
    (plain : seed.computed? name.text = none) :
    ∃ key mould flags,
      ground? seed (mentions ++ [overrideMention (name, value)]) name.text = some (key, mould, flags) ∧
      Policy.implicit.misfit? mould value = none ∧ changed = flags.persistent := by
  cases before : ground? seed mentions name.text with
  | none =>
      refine ⟨name, value, .config, ?_, Policy.misfit_self .implicit value, ?_⟩
      · rw [ground_concat, before]
        exact if_pos rfl
      · rw [override, settled.absent plain before] at overridden
        cases overridden
        rfl
  | some ground =>
      obtain ⟨key, mould, flags⟩ := ground
      obtain ⟨stored, there, same, shape, -⟩ := settled.stored plain before
      refine ⟨key, mould, flags, ground_append before _, ?_, ?_⟩
      all_goals
        rw [override, there] at overridden
        obtain ⟨fitted, assigned, result⟩ := ok_of_map overridden
        cases result
      · rw [← Policy.misfit_of_shape shape]
        exact (Policy.coerce_of_assign assigned).1
      · rw [same]

def Reseeds (seed : Seed σ) (mentions : List Mention) (override : RegisterName × Value) : Prop :=
  seed.computed? override.1.text = none ∧ ∃ key mould flags,
    ground? seed mentions override.1.text = some (key, mould, flags) ∧ flags.persistent = true

def Fits (seed : Seed σ) (mentions : List Mention) (override : RegisterName × Value) : Prop :=
  ∀ key mould flags, seed.computed? override.1.text = none →
    ground? seed mentions override.1.text = some (key, mould, flags) →
    Policy.implicit.misfit? mould override.2 = none

theorem reseeds_override {seed : Seed σ} {mentions : List Mention} {entries after : Entries σ}
    (settled : Settled seed mentions entries) {now : Timestamp} {name : RegisterName} {value : Value}
    {changed : Bool} (overridden : override now entries name value = .ok (after, changed))
    (more : List Mention) :
    (changed = true ↔ Reseeds seed (mentions ++ overrideMention (name, value) :: more) (name, value)) ∧
      Fits seed (mentions ++ overrideMention (name, value) :: more) (name, value) := by
  cases plain : seed.computed? name.text with
  | some declared =>
      rw [override, settled.computed plain] at overridden
      cases overridden
      refine ⟨⟨fun changed => (Bool.false_ne_true changed).elim, fun reseeds => ?_⟩, ?_⟩
      · rw [reseeds.1] at plain
        cases plain
      · intro key mould flags computed
        rw [computed] at plain
        cases plain
  | none =>
      obtain ⟨key, mould, flags, ground, fits, same⟩ := ground_override settled overridden plain
      have final := ground_append ground more
      rw [List.append_assoc, List.singleton_append] at final
      refine ⟨⟨fun changed => ⟨plain, key, mould, flags, final, by rw [← same, changed]⟩, ?_⟩, ?_⟩
      · rintro ⟨-, key', mould', flags', ground', persistent⟩
        rw [final] at ground'
        cases ground'
        rw [same, persistent]
      · intro key' mould' flags' _ ground'
        rw [final] at ground'
        cases ground'
        exact fits

structure Overrode (seed : Seed σ) (mentions : List Mention) (overrides : List (RegisterName × Value))
    (entries : Entries σ) (dirty dirty' : Bool) : Prop where
  settled : Settled seed mentions entries
  fits : ∀ one ∈ overrides, Fits seed mentions one
  dirty : dirty' = true ↔ dirty = true ∨ ∃ one ∈ overrides, Reseeds seed mentions one

theorem overrode_overrideAll {seed : Seed σ} {mentions : List Mention} {entries after : Entries σ}
    (settled : Settled seed mentions entries) {now : Timestamp} {overrides : List (RegisterName × Value)}
    {dirty dirty' : Bool} (done : overrideAll now (entries, dirty) overrides = .ok (after, dirty')) :
    Overrode seed (mentions ++ overrides.map overrideMention) overrides after dirty dirty' := by
  induction overrides generalizing mentions entries dirty with
  | nil =>
      cases done
      exact ⟨by simpa using settled, by simp, by simp⟩
  | cons one rest ih =>
      obtain ⟨name, value⟩ := one
      unfold overrideAll at done
      obtain ⟨⟨middle, changed⟩, first, done⟩ := ok_of_bind done
      obtain ⟨reseeds, fits⟩ := reseeds_override settled first (rest.map overrideMention)
      have next := ih (settled_lay settled (override_lay first)) done
      rw [List.append_assoc, List.singleton_append] at next
      refine ⟨next.settled, ?_, ?_⟩
      · intro other member
        rcases List.mem_cons.mp member with rfl | later
        · exact fits
        · exact next.fits other later
      · rw [next.dirty, Bool.or_eq_true, reseeds, or_assoc, List.map_cons]
        simp only [List.mem_cons, exists_eq_or_imp]

theorem overrideAll_append (now : Timestamp) (state : Entries σ × Bool)
    (early late : List (RegisterName × Value)) :
    overrideAll now state (early ++ late) =
      (overrideAll now state early).bind (overrideAll now · late) := by
  induction early generalizing state with
  | nil => rfl
  | cons one rest ih =>
      obtain ⟨entries, dirty⟩ := state
      obtain ⟨name, value⟩ := one
      simp only [List.cons_append, overrideAll]
      cases override now entries name value with
      | error e => rfl
      | ok next => exact ih _

/-- Some override meets, at its turn, a stored register that its value does not fit. -/
def Clash (now : Timestamp) (entries : Entries σ) (overrides : List (RegisterName × Value))
    (error : RegisterError) : Prop :=
  ∃ before name value after met dirty key stored m,
    overrides = before ++ (name, value) :: after ∧
    overrideAll now (entries, false) before = .ok (met, dirty) ∧
    lookup? met name.text = some (key, .stored stored) ∧
    Policy.implicit.misfit? stored.value value = some m ∧
    error = .incompatibleKind value.kind stored.value.kind m.message

theorem overrideAll_error {now : Timestamp} {entries : Entries σ} {dirty : Bool}
    {overrides : List (RegisterName × Value)} {error : RegisterError}
    (failed : overrideAll now (entries, dirty) overrides = .error error) :
    ∃ before name value after met dirty', overrides = before ++ (name, value) :: after ∧
      overrideAll now (entries, dirty) before = .ok (met, dirty') ∧
      override now met name value = .error error := by
  induction overrides generalizing entries dirty with
  | nil => cases failed
  | cons one rest ih =>
      obtain ⟨name, value⟩ := one
      unfold overrideAll at failed
      cases first : override now entries name value with
      | error e =>
          rw [first] at failed
          cases failed
          exact ⟨[], name, value, rest, entries, dirty, rfl, rfl, first⟩
      | ok next =>
          rw [first] at failed
          obtain ⟨before, name', value', after, met, dirty', cut, done, refused⟩ := ih failed
          refine ⟨(name, value) :: before, name', value', after, met, dirty', ?_, ?_, refused⟩
          · rw [cut, List.cons_append]
          · rw [overrideAll, first]
            exact done

theorem overrideAll_error_iff {now : Timestamp} {entries : Entries σ}
    {overrides : List (RegisterName × Value)} {error : RegisterError} :
    overrideAll now (entries, false) overrides = .error error ↔ Clash now entries overrides error := by
  constructor
  · intro failed
    obtain ⟨before, name, value, after, met, dirty, cut, done, refused⟩ := overrideAll_error failed
    obtain ⟨key, stored, m, found, unfit, same⟩ := override_error_iff.mp refused
    exact ⟨before, name, value, after, met, dirty, key, stored, m, cut, done, found, unfit, same⟩
  · rintro ⟨before, name, value, after, met, dirty, key, stored, m, rfl, done, found, unfit, same⟩
    have refused : override now met name value = .error error :=
      override_error_iff.mpr ⟨key, stored, m, found, unfit, same⟩
    rw [overrideAll_append, done, Except.bind, overrideAll, refused]
    rfl

def keptUnder (kept : List Persisted) (name : String) : List Value :=
  (kept.filter (·.name.text == name)).map (·.value)

def overriding (overrides : List (RegisterName × Value)) (name : String) : List Value :=
  (overrides.filter (·.1.text == name)).map (·.2)

theorem overriding_eq (overrides : List (RegisterName × Value)) (name : RegisterName) :
    overriding overrides name.text = (overrides.filter fun named => named.1 = name).map (·.2) := by
  have same : (fun named : RegisterName × Value => named.1.text == name.text) =
      fun named => decide (named.1 = name) := by
    funext named
    apply Bool.eq_iff_iff.mpr
    rw [beq_iff_eq, decide_eq_true_iff]
    exact ⟨RegisterName.eq_of_text, congrArg RegisterName.text⟩
  rw [overriding, same]

theorem ground_layers (seed : Seed σ) (kept : List Persisted) (name : String) :
    ground? seed (kept.map Persisted.mention ++ seed.overrides.map overrideMention) name =
      (seed.default? name).or (((kept.find? (·.name.text == name)).map Persisted.mention).or
        ((seed.overrides.find? (·.1.text == name)).map overrideMention)) := by
  unfold ground?
  rw [List.find?_append, List.find?_map, List.find?_map]
  rfl

theorem offers_layers (kept : List Persisted) (overrides : List (RegisterName × Value)) (name : String) :
    offers (kept.map Persisted.mention ++ overrides.map overrideMention) name =
      keptUnder kept name ++ overriding overrides name := by
  unfold offers keptUnder overriding
  rw [List.filter_append, List.map_append, List.filter_map, List.filter_map, List.map_map, List.map_map]
  rfl

/-- The name stands for a stored register that has the shape of a mould. Its value is that of the last
override that fits the mould, else of the last kept value that does, else the mould. -/
def StoredFrom (seed : Seed σ) (kept : List Persisted) (s : Store σ) (name : String)
    (ground : Mention) : Prop :=
  ∃ stored, s.entry? name = some (ground.1, .stored stored) ∧ stored.flags = ground.2.2 ∧
    stored.value.SameShape ground.2.1 ∧
    (((lastFitting? ground.2.1 (overriding seed.overrides name)).or
      (lastFitting? ground.2.1 (keptUnder kept name))).getD ground.2.1).coerce ground.2.1.kind =
        .ok stored.value

/-- The layers of a store that was built: what each name stands for, and what became of the rest. -/
structure Layered (seed : Seed σ) (kept : List Persisted) (durable : Bool) (s : Store σ) : Prop where
  computed : ∀ {name key c}, seed.computed? name = some (key, c) →
    s.entry? name = some (key, .computed c)
  declared : ∀ {name key value flags}, seed.computed? name = none →
    seed.default? name = some (key, value, flags) → StoredFrom seed kept s name (key, value, flags)
  restored : ∀ {name p}, seed.computed? name = none → seed.default? name = none →
    kept.find? (·.name.text == name) = some p →
    StoredFrom seed kept s name (p.name, p.value, ⟨p.mutable, true⟩)
  defined : ∀ {name key value}, seed.computed? name = none → seed.default? name = none →
    kept.find? (·.name.text == name) = none →
    seed.overrides.find? (·.1.text == name) = some (key, value) →
    StoredFrom seed kept s name (key, value, .config)
  absent : ∀ {name}, seed.computed? name = none → seed.default? name = none →
    kept.find? (·.name.text == name) = none → seed.overrides.find? (·.1.text == name) = none →
    s.entry? name = none
  fitting : ∀ {name value key stored}, (name, value) ∈ seed.overrides →
    s.entry? name.text = some (key, .stored stored) → Policy.implicit.Admits stored.value value
  /-- The store is dirty if an override names a persistent register. -/
  dirty : s.dirty = true ↔ ∃ one ∈ seed.overrides, ∃ key stored,
    s.entry? one.1.text = some (key, .stored stored) ∧ stored.flags.persistent = true
  policy : s.policy = seed.policy
  durable : s.durable = durable
  live : s.live = seed.live

theorem ground_of_stored {seed : Seed σ} {mentions : List Mention} {entries : Entries σ}
    (settled : Settled seed mentions entries) {name : String} {key : RegisterName} {stored : Stored}
    (found : lookup? entries name = some (key, .stored stored)) :
    seed.computed? name = none ∧ ∃ mould flags, ground? seed mentions name = some (key, mould, flags) ∧
      stored.flags = flags ∧ stored.value.SameShape mould := by
  have plain : seed.computed? name = none := by
    cases declared : seed.computed? name with
    | none => rfl
    | some computed =>
        rw [settled.computed declared] at found
        cases found
  refine ⟨plain, ?_⟩
  cases ground : ground? seed mentions name with
  | none =>
      rw [settled.absent plain ground] at found
      cases found
  | some ground' =>
      obtain ⟨key', mould, flags⟩ := ground'
      obtain ⟨stored', there, same, shape, -⟩ := settled.stored plain ground
      rw [there] at found
      cases found
      exact ⟨mould, flags, rfl, same, shape⟩

theorem layered_of_overrode {seed : Seed σ} {kept : List Persisted} {s : Store σ}
    (overrode : Overrode seed (kept.map Persisted.mention ++ seed.overrides.map overrideMention)
      seed.overrides s.entries false s.dirty)
    (policy : s.policy = seed.policy) (live : s.live = seed.live) : Layered seed kept s.durable s := by
  have settled := overrode.settled
  have from' : ∀ {name ground}, seed.computed? name = none →
      ground? seed (kept.map Persisted.mention ++ seed.overrides.map overrideMention) name =
        some ground → StoredFrom seed kept s name ground := by
    intro name ground plain here
    obtain ⟨stored, there, flags, shape, value⟩ := settled.stored plain here
    rw [offers_layers, lastFitting_append] at value
    exact ⟨stored, there, flags, shape, value⟩
  refine ⟨settled.computed, ?_, ?_, ?_, ?_, ?_, ?_, policy, rfl, live⟩
  · intro name key value flags plain declared
    exact from' plain (by rw [ground_layers, declared, Option.some_or])
  · intro name p plain undeclared first
    exact from' plain (by rw [ground_layers, undeclared, first]; rfl)
  · intro name key value plain undeclared unkept first
    exact from' plain (by rw [ground_layers, undeclared, unkept, first]; rfl)
  · intro name plain undeclared unkept unnamed
    exact settled.absent plain (by rw [ground_layers, undeclared, unkept, unnamed]; rfl)
  · intro name value key stored member found
    obtain ⟨plain, mould, flags, ground, -, shape⟩ := ground_of_stored settled found
    have fits := overrode.fits (name, value) member key mould flags plain ground
    rw [← Policy.misfit_of_shape shape] at fits
    exact (Policy.misfit_eq_none_iff ..).mp fits
  · rw [overrode.dirty]
    simp only [Bool.false_eq_true, false_or]
    refine exists_congr fun one => and_congr_right fun _ => ⟨?_, ?_⟩
    · rintro ⟨plain, key, mould, flags, ground, persistent⟩
      obtain ⟨stored, there, same, -⟩ := settled.stored plain ground
      exact ⟨key, stored, there, by rw [same, persistent]⟩
    · rintro ⟨key, stored, found, persistent⟩
      obtain ⟨plain, mould, flags, ground, same, -⟩ := ground_of_stored settled found
      exact ⟨plain, key, mould, flags, ground, by rw [← same, persistent]⟩

theorem restore_unfit {entries : Entries σ} {p : Persisted} {key : RegisterName} {stored : Stored}
    {m : Misfit} (found : lookup? entries p.name.text = some (key, .stored stored))
    (unfit : Policy.implicit.misfit? stored.value p.value = some m) : restore entries p = entries := by
  have refused := Policy.assign_eq_error_iff.mpr ⟨m, unfit, rfl⟩
  simp only [restore, found, refused]

theorem ofSeed_unfit {seed : Seed σ} {now : Timestamp} {before after : List Persisted} {p : Persisted}
    {key : RegisterName} {stored : Stored} {m : Misfit}
    (found : lookup? (before.foldl restore (declare now seed)) p.name.text = some (key, .stored stored))
    (unfit : Policy.implicit.misfit? stored.value p.value = some m) (durable : Bool) :
    ofSeed seed durable (before ++ p :: after) now = ofSeed seed durable (before ++ after) now := by
  unfold ofSeed
  rw [List.foldl_append, List.foldl_append, List.foldl_cons, restore_unfit found unfit]

section

variable {seed : Seed σ} {backing : Backing World} {world : World} {kept : List Persisted}

theorem build_eq_ofSeed (loaded : backing.load world = .ok kept) (now : Timestamp) :
    build seed backing now world = (ofSeed seed backing.durable kept now).mapError .override := by
  unfold build
  rw [loaded]
  rfl

theorem build_eq_overrideAll (loaded : backing.load world = .ok kept) (now : Timestamp) :
    build seed backing now world =
      ((overrideAll now (kept.foldl restore (declare now seed), false) seed.overrides).map
        fun (entries, dirty) => ⟨entries, seed.policy, backing.durable, dirty, seed.live⟩).mapError
          .override := by
  rw [build_eq_ofSeed loaded]
  rfl

theorem build_error_iff (loaded : backing.load world = .ok kept) (now : Timestamp) (e : BuildError) :
    build seed backing now world = .error e ↔ ∃ error, e = .override error ∧
      Clash now (kept.foldl restore (declare now seed)) seed.overrides error := by
  simp only [build_eq_overrideAll loaded, ← overrideAll_error_iff]
  cases overrideAll now (kept.foldl restore (declare now seed), false) seed.overrides with
  | error error => simp [Except.map, Except.mapError, eq_comm]
  | ok both => simp [Except.map, Except.mapError]

theorem layered_build (loaded : backing.load world = .ok kept) {now : Timestamp} {s : Store σ}
    (built : build seed backing now world = .ok s) : Layered seed kept backing.durable s := by
  rw [build_eq_overrideAll loaded] at built
  obtain ⟨⟨entries, dirty⟩, done, same⟩ := ok_of_map (ok_of_mapError built)
  have settled := settled_restoreAll (settled_declare now seed) kept
  cases same
  exact layered_of_overrode (s := ⟨entries, seed.policy, backing.durable, dirty, seed.live⟩)
    (overrode_overrideAll settled done) rfl rfl

/-- Where the backing loads, a build fails on an override that clashes with a stored register, and
otherwise lays what is kept over what is declared, and the overrides over both. What is kept and does
not fit is passed over. -/
theorem seeding_layers (loaded : backing.load world = .ok kept) (now : Timestamp) :
    (∀ e, build seed backing now world = .error e ↔ ∃ error, e = .override error ∧
      Clash now (kept.foldl restore (declare now seed)) seed.overrides error) ∧
    (∀ s, build seed backing now world = .ok s → Layered seed kept backing.durable s) ∧
    ∀ before p after key stored m, kept = before ++ p :: after →
      lookup? (before.foldl restore (declare now seed)) p.name.text = some (key, .stored stored) →
      Policy.implicit.misfit? stored.value p.value = some m →
      build seed backing now world =
        (ofSeed seed backing.durable (before ++ after) now).mapError .override := by
  refine ⟨build_error_iff loaded now, fun s => layered_build loaded, ?_⟩
  rintro before p after key stored m rfl found unfit
  rw [build_eq_ofSeed loaded, ofSeed_unfit found unfit]

end

def stoveSeed : Seed Nat where
  policy := .strict
  defaults := [(⟨"stove.limit", by decide⟩, .string "none", .readOnly),
    (⟨"stove.limit", by decide⟩, .array (.natural .w8) [(80 : BitVec 8)], .volatile)]
  computed := [(⟨"stove.load", by decide⟩,
    ⟨fun live => (.array (.natural .w32) [BitVec.ofNat 32 live], live), none⟩)]
  overrides := [(⟨"stove.load", by decide⟩, .string "high"),
    (⟨"stove.kept", by decide⟩, .array (.natural .w16) [(7 : BitVec 16)])]
  live := 12

def stoveKept : List Persisted :=
  [⟨⟨"stove.limit", by decide⟩, .array (.integer .w64) [(61 : BitVec 64)], false, none⟩,
    ⟨⟨"stove.limit", by decide⟩, .array (.natural .w8) [(1 : BitVec 8), (2 : BitVec 8)], true, none⟩,
    ⟨⟨"stove.kept", by decide⟩, .array (.integer .w8) [(5 : BitVec 8)], false, none⟩,
    ⟨⟨"stove.kept", by decide⟩, .string "lost", true, none⟩]

def stoveBacking : Backing Unit := { Backing.volatile Unit with load := fun _ => .ok stoveKept }

def coldSeed : Seed Nat :=
  { stoveSeed with
    overrides := stoveSeed.overrides ++ [(⟨"stove.limit", by decide⟩, .string "cold")] }

theorem seeding_layers_stove :
    (∃ s, build stoveSeed stoveBacking ⟨0, 0⟩ () = .ok s ∧ Layered stoveSeed stoveKept false s ∧
      (s.get "stove.limit").1 = .ok ⟨⟨"stove.limit", by decide⟩,
        .array (.natural .w8) [(61 : BitVec 8)], true, false, none⟩ ∧
      (s.get "stove.kept").1 = .ok ⟨⟨"stove.kept", by decide⟩,
        .array (.integer .w8) [(7 : BitVec 8)], false, false, none⟩) ∧
      build coldSeed stoveBacking ⟨0, 0⟩ () = .error (.override (.incompatibleKind .string
        (.array (.natural .w8)) Misfit.otherFamily.message)) := by
  have loaded : stoveBacking.load () = .ok stoveKept := rfl
  refine ⟨⟨_, rfl, (seeding_layers loaded ⟨0, 0⟩).2.1 _ rfl, rfl, rfl⟩, ?_⟩
  refine ((seeding_layers loaded ⟨0, 0⟩).1 _).mpr ⟨_, rfl, ?_⟩
  exact ⟨stoveSeed.overrides, _, _, [], _, _, _, _, .otherFamily, rfl, rfl, rfl, rfl, rfl⟩

end Store

end RegisterPlane
