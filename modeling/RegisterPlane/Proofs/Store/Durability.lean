import RegisterPlane.Proofs.Store.Follows

/-! What survives a restart. A store that is not dirty can be rebuilt over its backing with every
persistent register as it stands, and once anything was flushed every other declared register is
back at its default. -/

namespace RegisterPlane

/-- A place that gives back what was last saved there; saving may fail, and then changes nothing
that is loaded. -/
structure Backing.Faithful {World : Type} (backing : Backing World) : Prop where
  saved : ∀ {now registers world world'},
    backing.save now registers world = (.ok (), world') → backing.load world' = .ok registers
  failed : ∀ {now registers world fault world'},
    backing.save now registers world = (.error fault, world') →
      backing.load world' = backing.load world

namespace Store

variable {σ World : Type}

/-- Everything that one store can come to after it was built, with the world that its backing lives
in, and whether anything was flushed so far. -/
inductive Life (seed : Seed σ) (backing : Backing World) : Bool → Store σ → World → Prop where
  | build {now : Timestamp} {world : World} {s : Store σ}
      (built : Store.build seed backing now world = .ok s) : Life seed backing false s world
  | get {flushed : Bool} {s : Store σ} {world : World} (name : String)
      (life : Life seed backing flushed s world) :
      Life seed backing flushed (s.get name).2 world
  | set {flushed : Bool} {s : Store σ} {world : World} (now : Timestamp) (name : String)
      (value : Value) (life : Life seed backing flushed s world) :
      Life seed backing flushed (s.set now name value).2 world
  | access {flushed : Bool} {s : Store σ} {world : World} (now : Timestamp) (name : String)
      (value : Option Value) (life : Life seed backing flushed s world) :
      Life seed backing flushed (s.access now name value).2 world
  | flush {flushed : Bool} {s : Store σ} {world : World} (now : Timestamp)
      (life : Life seed backing flushed s world) :
      Life seed backing (flushed || (s.flush backing now world).1) (s.flush backing now world).2.1
        (s.flush backing now world).2.2
  /-- The live state may change, and the world too as long as the same is loaded from it. -/
  | elapse {flushed : Bool} {s : Store σ} {world : World} (live : σ) (world' : World)
      (same : backing.load world' = backing.load world) (life : Life seed backing flushed s world) :
      Life seed backing flushed { s with live } world'

/-- A store built again, as against the one before it. -/
structure Revives (seed : Seed σ) (flushed : Bool) (s again : Store σ) : Prop where
  persistent : ∀ {name key stored}, s.entry? name = some (key, .stored stored) →
    stored.flags.persistent = true →
    ∃ revived, again.entry? name = some (key, .stored revived) ∧ revived.value = stored.value ∧
      revived.flags = stored.flags
  compiled : flushed = true → ∀ {name key stored value flags},
    s.entry? name = some (key, .stored stored) → seed.default? name = some (key, value, flags) →
    flags.persistent = false →
    ∃ revived, again.entry? name = some (key, .stored revived) ∧ revived.value = value ∧
      revived.flags = flags

def Restarts (seed : Seed σ) (backing : Backing World) (flushed : Bool) (s : Store σ)
    (world : World) : Prop :=
  ∀ now live, ∃ again, Store.build { seed with overrides := [], live } backing now world = .ok again ∧
    Revives seed flushed s again

/-- What was kept brings back every persistent entry. -/
def Brings (seed : Seed σ) (kept : List Persisted) (entries : Entries σ) : Prop :=
  ∀ now name key stored, lookup? entries name = some (key, .stored stored) →
    stored.flags.persistent = true →
    ∃ revived, lookup? (kept.foldl restore (declare now seed)) name = some (key, .stored revived) ∧
      revived.value = stored.value ∧ revived.flags = stored.flags

/-- Nothing was kept of a register that is declared not to be. -/
def Spares (seed : Seed σ) (kept : List Persisted) : Prop :=
  ∀ p ∈ kept, ∀ key value flags, seed.computed? p.name.text = none →
    seed.default? p.name.text = some (key, value, flags) → flags.persistent = true

theorem Brings.mono {seed : Seed σ} {kept : List Persisted} {before after : Entries σ}
    (brings : Brings seed kept before) (keeps : KeepsPersistent before after) :
    Brings seed kept after := by
  intro now name key stored found persistent
  exact brings now name key stored (keeps name key stored found persistent) persistent

/-- Two findings that agree but for their times. -/
inductive SameButTime : Option (RegisterName × Entry σ) → Option (RegisterName × Entry σ) → Prop where
  | same (found : Option (RegisterName × Entry σ)) : SameButTime found found
  | timed {key : RegisterName} {a b : Stored} (value : a.value = b.value) (flags : a.flags = b.flags) :
      SameButTime (some (key, .stored a)) (some (key, .stored b))

theorem restoreAt_sameButTime {a b : Option (RegisterName × Entry σ)} (agree : SameButTime a b)
    (p : Persisted) : SameButTime (restoreAt a p) (restoreAt b p) := by
  cases agree with
  | same => exact .same _
  | @timed key x y value flags =>
      simp only [restoreAt, value]
      cases Policy.implicit.assign y.value p.value with
      | error e => exact .timed value flags
      | ok taken => exact .timed rfl flags

theorem foldl_restoreAt_sameButTime (kept : List Persisted)
    {a b : Option (RegisterName × Entry σ)} (agree : SameButTime a b) :
    SameButTime (kept.foldl restoreAt a) (kept.foldl restoreAt b) := by
  induction kept generalizing a b with
  | nil => exact agree
  | cons p rest ih => exact ih (restoreAt_sameButTime agree p)

theorem declared_sameButTime (now now' : Timestamp) (seed : Seed σ) (name : String) :
    SameButTime (declared? now seed name) (declared? now' seed name) := by
  unfold declared?
  cases seed.computed? name with
  | some found => exact .same _
  | none =>
      cases seed.default? name with
      | none => exact .same _
      | some found => exact .timed rfl rfl

theorem brings_restored (seed : Seed σ) (kept : List Persisted) (now : Timestamp) :
    Brings seed kept (kept.foldl restore (declare now seed)) := by
  intro now' name key stored found _
  rw [lookup_foldl_restore, lookup_declare] at found ⊢
  have agree := foldl_restoreAt_sameButTime (kept.filter (·.name.text == name))
    (declared_sameButTime now now' seed name)
  rw [found] at agree
  generalize (kept.filter (·.name.text == name)).foldl restoreAt (declared? now' seed name) =
    revived at agree ⊢
  cases agree with
  | same => exact ⟨stored, rfl, rfl, rfl⟩
  | timed value flags => exact ⟨_, rfl, value.symm, flags.symm⟩

def persistedOf : RegisterName × Entry σ → Option Persisted
  | (name, .stored stored) =>
    if stored.flags.persistent then
      some ⟨name, stored.value, stored.flags.mutable, stored.timestamp⟩
    else none
  | (_, .computed _) => none

theorem persisted_eq (s : Store σ) : s.persisted = s.entries.filterMap persistedOf := rfl

theorem persistedOf_eq_some {one : RegisterName × Entry σ} {p : Persisted}
    (kept : persistedOf one = some p) :
    ∃ stored, one = (p.name, .stored stored) ∧ stored.flags.persistent = true ∧
      p.value = stored.value ∧ p.mutable = stored.flags.mutable := by
  obtain ⟨name, entry⟩ := one
  cases entry with
  | computed c => cases kept
  | stored stored =>
      cases persistent : stored.flags.persistent with
      | false => simp [persistedOf, persistent] at kept
      | true =>
          simp only [persistedOf, persistent, if_true, Option.some.injEq] at kept
          cases kept
          exact ⟨stored, rfl, persistent, rfl, rfl⟩

theorem persisted_at {entries : Entries σ} (ordered : Ascending entries) (name : String) :
    (entries.filterMap persistedOf).filter (·.name.text == name) =
      ((lookup? entries name).bind persistedOf).toList := by
  induction entries with
  | nil => rfl
  | cons head rest ih =>
      obtain ⟨key, entry⟩ := head
      obtain ⟨first, later⟩ := List.pairwise_cons.mp ordered
      have tail := ih later
      rw [lookup_cons]
      by_cases here : key.text = name
      · have absent : lookup? rest name = none := by
          refine List.find?_eq_none.mpr fun one member same => ?_
          have before := first one member
          rw [here, beq_iff_eq.mp same] at before
          exact lt_irrefl _ before
        rw [absent] at tail
        rw [if_pos here, List.filterMap_cons]
        cases kept : persistedOf (key, entry) with
        | none => simpa [kept] using tail
        | some p =>
            obtain ⟨stored, same, -⟩ := persistedOf_eq_some kept
            cases same
            simpa [kept, here] using tail
      · rw [if_neg here, ← tail, List.filterMap_cons]
        cases kept : persistedOf (key, entry) with
        | none => rfl
        | some p =>
            obtain ⟨stored, same, -⟩ := persistedOf_eq_some kept
            cases same
            exact List.filter_cons_of_neg (by simpa using here)

theorem brings_persisted {seed : Seed σ} {s : Store σ} (follows : Follows seed s.entries)
    (ordered : Ascending s.entries) : Brings seed s.persisted s.entries := by
  intro now name key stored found persistent
  have same := key_of_lookup found
  have only : (s.persisted.filter (·.name.text == name)) =
      [⟨key, stored.value, stored.flags.mutable, stored.timestamp⟩] := by
    rw [persisted_eq, persisted_at ordered, found]
    simp [persistedOf, persistent]
  rw [lookup_foldl_restore, lookup_declare, only, List.foldl_cons, List.foldl_nil]
  rcases declaration_cases seed name with ⟨other, c, computed⟩ |
    ⟨plain, other, value, flags, declared⟩ | ⟨plain, absent⟩
  · have there := follows.computed computed
    rw [found] at there
    cases there
  · obtain ⟨held, there, flagged, shape⟩ := follows.stored plain declared
    rw [found] at there
    cases there
    have fits := Policy.assign_of_shape shape .implicit
    refine ⟨⟨stored.value, flags, stored.timestamp.or (some now)⟩, ?_, rfl, flagged.symm⟩
    simp only [declared?, plain, declared, Option.map_some, restoreAt, fits]
  · refine ⟨⟨stored.value, ⟨stored.flags.mutable, true⟩, stored.timestamp⟩, ?_, rfl, ?_⟩
    · simp only [declared?, plain, absent, Option.map_none, restoreAt]
    · rw [← persistent]

theorem spares_persisted {seed : Seed σ} {s : Store σ} (follows : Follows seed s.entries)
    (ordered : Ascending s.entries) : Spares seed s.persisted := by
  intro p member key value flags plain declared
  rw [persisted_eq, List.mem_filterMap] at member
  obtain ⟨one, inside, kept⟩ := member
  obtain ⟨stored, rfl, persistent, -⟩ := persistedOf_eq_some kept
  obtain ⟨held, there, flagged, -⟩ := follows.stored plain declared
  rw [lookup_of_mem ordered inside] at there
  cases there
  rw [← flagged, persistent]

/-- What every moment of a store's life leaves to build on. -/
structure Recoverable (seed : Seed σ) (backing : Backing World) (flushed : Bool) (s : Store σ)
    (world : World) : Prop where
  ascending : Ascending s.entries
  follows : Follows seed s.entries
  kept : ∃ kept, backing.load world = .ok kept ∧
    (s.dirty = false → Brings seed kept s.entries) ∧ (flushed = true → Spares seed kept)

theorem recoverable_build {seed : Seed σ} {backing : Backing World} {now : Timestamp}
    {world : World} {s : Store σ} (built : Store.build seed backing now world = .ok s) :
    Recoverable seed backing false s world := by
  obtain ⟨kept, loaded, overridden⟩ := build_entries built
  have ascending := restoreAll_keeps change_ascending kept (ascending_declare now seed)
  have follows := restoreAll_keeps follows_change kept (follows_declare now seed)
  obtain ⟨ordered, quiet⟩ := overrideAll_keeps change_ascending ascending overridden
  obtain ⟨followed, -⟩ := overrideAll_keeps follows_change follows overridden
  refine ⟨ordered, followed, kept, loaded, fun clean => ?_, fun flushed => by cases flushed⟩
  exact (brings_restored seed kept now).mono (quiet clean).2

theorem recoverable_moves {seed : Seed σ} {backing : Backing World} {flushed : Bool}
    {world : World} {s s' : Store σ} (moves : Moves s s')
    (recoverable : Recoverable seed backing flushed s world) :
    Recoverable seed backing flushed s' world := by
  obtain ⟨kept, loaded, brings, spares⟩ := recoverable.kept
  refine ⟨change_ascending moves.change recoverable.ascending,
    follows_change moves.change recoverable.follows, kept, loaded, fun clean => ?_, spares⟩
  obtain ⟨before, keeps⟩ := moves.dirty clean
  exact (brings before).mono keeps

theorem recoverable_flush {seed : Seed σ} {backing : Backing World} (faithful : backing.Faithful)
    {flushed : Bool} {world : World} {s : Store σ} (now : Timestamp)
    (recoverable : Recoverable seed backing flushed s world) :
    Recoverable seed backing (flushed || (s.flush backing now world).1)
      (s.flush backing now world).2.1 (s.flush backing now world).2.2 := by
  obtain ⟨ascending, follows, kept, loaded, brings, spares⟩ := recoverable
  unfold flush
  cases dirty : s.dirty with
  | false =>
      rw [Bool.not_false, if_pos rfl, Bool.or_false]
      exact ⟨ascending, follows, kept, loaded, brings, spares⟩
  | true =>
      rw [Bool.not_true, if_neg Bool.false_ne_true]
      rcases outcome : backing.save now s.persisted world with ⟨fault | done, world'⟩
      · have same := faithful.failed outcome
        rw [Bool.or_false]
        exact ⟨ascending, follows, kept, same.trans loaded, brings, spares⟩
      · have stored := faithful.saved outcome
        exact ⟨ascending, follows, s.persisted, stored,
          fun _ => brings_persisted follows ascending, fun _ => spares_persisted follows ascending⟩

theorem recoverable_of_life {seed : Seed σ} {backing : Backing World} (faithful : backing.Faithful)
    {flushed : Bool} {s : Store σ} {world : World} (life : Life seed backing flushed s world) :
    Recoverable seed backing flushed s world := by
  -- only a flush changes what is loaded; between flushes a clean store keeps its persistent entries
  induction life with
  | build built => exact recoverable_build built
  | get name _ ih => exact recoverable_moves (get_moves _ name) ih
  | set now name value _ ih => exact recoverable_moves (set_moves _ now name value) ih
  | access now name value _ ih => exact access_keeps recoverable_moves ih now name value
  | flush now _ ih => exact recoverable_flush faithful now ih
  | elapse live world' same _ ih =>
      obtain ⟨ascending, follows, kept, loaded, brings, spares⟩ := ih
      exact ⟨ascending, follows, kept, same.trans loaded, brings, spares⟩

theorem restarts_of_recoverable {seed : Seed σ} {backing : Backing World} {flushed : Bool}
    {s : Store σ} {world : World} (recoverable : Recoverable seed backing flushed s world)
    (clean : s.dirty = false) : Restarts seed backing flushed s world := by
  obtain ⟨-, follows, kept, loaded, brings, spares⟩ := recoverable
  intro now live
  refine ⟨⟨kept.foldl restore (declare now seed), seed.policy, backing.durable, false, live⟩, ?_, ?_⟩
  · unfold Store.build
    rw [loaded]
    rfl
  · constructor
    · intro name key stored found persistent
      exact brings clean now name key stored found persistent
    · intro wrote name key stored value flags found declared volatile
      have plain : seed.computed? name = none := by
        cases computed : seed.computed? name with
        | none => rfl
        | some one =>
            have clash := found.symm.trans (follows.computed computed)
            cases clash
      have absent : kept.filter (·.name.text == name) = [] := by
        refine List.filter_eq_nil_iff.mpr fun p member same => ?_
        have here := beq_iff_eq.mp same
        have persistent := spares wrote p member key value flags (by rw [here, plain])
          (by rw [here, declared])
        rw [volatile] at persistent
        cases persistent
      refine ⟨⟨value, flags, some now⟩, ?_, rfl, rfl⟩
      unfold entry?
      simp only [lookup_foldl_restore, lookup_declare, absent, declared?, plain, declared,
        List.foldl_nil, Option.map_some]

theorem flushed_store {backing : Backing World} {s : Store σ} {now : Timestamp} {world : World}
    (wrote : (s.flush backing now world).1 = true) :
    (s.flush backing now world).2.1.entries = s.entries ∧
      (s.flush backing now world).2.1.dirty = false := by
  revert wrote
  unfold flush
  cases s.dirty with
  | false =>
      intro wrote
      cases wrote
  | true =>
      rw [Bool.not_true, if_neg Bool.false_ne_true]
      rcases backing.save now s.persisted world with ⟨fault | done, world'⟩
      · intro wrote
        cases wrote
      · exact fun _ => ⟨rfl, rfl⟩

/-- Whatever has happened to a store since it was built, a restart revives it at every moment when
it is not dirty, and after a last flush that succeeds. -/
theorem restart_revives {seed : Seed σ} {backing : Backing World} (faithful : backing.Faithful)
    {flushed : Bool} {s : Store σ} {world : World} (life : Life seed backing flushed s world) :
    (s.dirty = false → Restarts seed backing flushed s world) ∧
      ∀ now, (s.flush backing now world).1 = true →
        Restarts seed backing true s (s.flush backing now world).2.2 := by
  refine ⟨restarts_of_recoverable (recoverable_of_life faithful life), fun now wrote => ?_⟩
  have after := recoverable_of_life faithful (.flush now life)
  obtain ⟨entries, clean⟩ := flushed_store wrote
  rw [wrote, Bool.or_true] at after
  have restarts := restarts_of_recoverable after clean
  have found_again : ∀ name, entry? (s.flush backing now world).2.1 name = s.entry? name := by
    intro name
    unfold entry?
    rw [entries]
  intro later live
  obtain ⟨again, built, revives⟩ := restarts later live
  refine ⟨again, built, ?_, ?_⟩
  · intro name key stored found persistent
    exact revives.persistent ((found_again name).trans found) persistent
  · intro _ name key stored value flags found declared volatile
    exact revives.compiled rfl ((found_again name).trans found) declared volatile

end Store

def Backing.failing : Backing (List Persisted × Nat) where
  durable := true
  load := fun world => .ok world.1
  save := fun _ registers world =>
    match world.2 with
    | 0 => (.ok (), (registers, 0))
    | failures + 1 => (.error .unreachable, (world.1, failures))

theorem Backing.failing_faithful : Backing.failing.Faithful where
  saved := by
    rintro now registers ⟨kept, failures⟩ world' saved
    cases failures with
    | zero =>
        cases saved
        rfl
    | succ failures => cases saved
  failed := by
    rintro now registers ⟨kept, failures⟩ fault world' failed
    cases failures with
    | zero => cases failed
    | succ failures =>
        cases failed
        rfl

namespace Store

def thermostatSeed : Seed Unit where
  policy := .implicit
  defaults := [(⟨"node.id", by decide⟩, .array (.natural .w16) [(0 : BitVec 16)], .config),
    (⟨"sys.mode", by decide⟩, .string "auto", .volatile)]
  computed := []
  overrides := [(⟨"x.y", by decide⟩, .array (.real .double) [(.nan : Floating .double)])]
  live := ()

def thermostatWrites (s : Store Unit) : Store Unit :=
  let s := (s.set ⟨1, 0⟩ "node.id" (.array (.integer .w8) [(125 : BitVec 8)])).2
  (s.set ⟨2, 0⟩ "sys.mode" (.string "manual")).2

theorem restart_revives_thermostat :
    ∃ built : Store Unit, Store.build thermostatSeed .failing ⟨0, 0⟩ ([], 1) = .ok built ∧
      let tried := (thermostatWrites built).flush .failing ⟨3, 0⟩ ([], 1)
      let done := tried.2.1.flush .failing ⟨4, 0⟩ tried.2.2
      tried.1 = false ∧ done.1 = true ∧ done.2.1.dirty = false ∧
        Restarts thermostatSeed .failing true done.2.1 done.2.2 := by
  refine ⟨_, rfl, rfl, rfl, rfl, ?_⟩
  refine (restart_revives Backing.failing_faithful ?_).1 rfl
  have start := @Life.build _ _ thermostatSeed Backing.failing ⟨0, 0⟩ ([], 1) _ rfl
  have wrote := Life.set ⟨2, 0⟩ "sys.mode" (.string "manual")
    (Life.set ⟨1, 0⟩ "node.id" (.array (.integer .w8) [(125 : BitVec 8)]) start)
  exact Life.flush ⟨4, 0⟩ (Life.flush ⟨3, 0⟩ wrote)

end Store

end RegisterPlane
