import RegisterPlane.Proofs.Store.Durability
import RegisterPlane.Proofs.Store.Write

namespace RegisterPlane

variable {σ World : Type}

/-- What an entry stays: computed as it is, or stored with its flags and the shape of its value, and
altogether the same where it is read-only. -/
inductive Entry.Keeps : Entry σ → Entry σ → Prop where
  | computed (c : Computed σ) : Keeps (.computed c) (.computed c)
  | stored {before after : Stored} (flags : after.flags = before.flags)
      (shape : after.value.SameShape before.value)
      (fixed : before.flags.mutable = false → after = before) :
      Keeps (.stored before) (.stored after)

theorem Entry.Keeps.refl (entry : Entry σ) : entry.Keeps entry := by
  cases entry with
  | stored stored => exact .stored rfl (.refl _) fun _ => rfl
  | computed c => exact .computed c

theorem Entry.Keeps.trans {first second third : Entry σ} (early : first.Keeps second)
    (late : second.Keeps third) : first.Keeps third := by
  cases early with
  | computed c => exact late
  | stored flags shape fixed =>
      cases late with
      | stored flags' shape' fixed' =>
          refine .stored (flags'.trans flags) (shape'.trans shape) fun readOnly => ?_
          exact (fixed' (by rw [flags, readOnly])).trans (fixed readOnly)

namespace Store

structure KeepsShape (before after : Store σ) : Prop where
  names : after.names = before.names
  durable : after.durable = before.durable
  entries : ∀ {name key entry}, before.entry? name = some (key, entry) →
    ∃ kept, after.entry? name = some (key, kept) ∧ entry.Keeps kept

theorem KeepsShape.trans {first second third : Store σ} (early : KeepsShape first second)
    (late : KeepsShape second third) : KeepsShape first third := by
  refine ⟨late.names.trans early.names, late.durable.trans early.durable, ?_⟩
  intro name key entry found
  obtain ⟨middle, there, kept⟩ := early.entries found
  obtain ⟨last, here, stays⟩ := late.entries there
  exact ⟨last, here, kept.trans stays⟩

theorem keepsShape_of_entries {before after : Store σ} (entries : after.entries = before.entries)
    (durable : after.durable = before.durable) : KeepsShape before after := by
  refine ⟨by rw [names, names, entries], durable, ?_⟩
  intro name key entry found
  refine ⟨entry, ?_, .refl entry⟩
  unfold entry?
  rw [entries]
  exact found

theorem set_keepsShape {s : Store σ} (ordered : Ascending s.entries) (now : Timestamp) (name : String)
    (value : Value) : KeepsShape s (s.set now name value).2 := by
  have outcome := outcome_set s now name value
  generalize s.set now name value = result at outcome ⊢
  cases outcome with
  | unknown | computed | readOnly | misfit => exact keepsShape_of_entries rfl rfl
  | @written key stored new found mutable fits coerced flags timestamp =>
      have same := key_of_lookup found
      rw [← same] at found
      refine ⟨names_insert ordered found _, rfl, ?_⟩
      intro other key' entry there
      by_cases here : key.text = other
      · have taken : lookup? (insertEntry key (.stored new) s.entries) other =
            some (key, .stored new) := by
          rw [lookup_insert, if_pos here]
        rw [← here, found] at there
        cases there
        refine ⟨.stored new, taken, .stored flags (fits.shape coerced) fun readOnly => ?_⟩
        rw [mutable] at readOnly
        cases readOnly
      · have left : lookup? (insertEntry key (.stored new) s.entries) other = some (key', entry) := by
          rw [lookup_insert_of_ne here]
          exact there
        exact ⟨entry, left, .refl entry⟩

theorem get_keepsShape (s : Store σ) (name : String) : KeepsShape s (s.get name).2 := by
  unfold get
  cases s.entry? name with
  | none => exact keepsShape_of_entries rfl rfl
  | some entry =>
      obtain ⟨key, stored | c⟩ := entry
      · exact keepsShape_of_entries rfl rfl
      · exact keepsShape_of_entries rfl rfl

theorem access_keepsShape {s : Store σ} (ordered : Ascending s.entries) (now : Timestamp)
    (name : String) (value : Option Value) : KeepsShape s (s.access now name value).2 := by
  rcases access_store s now name value with read | ⟨written, wrote | refused⟩
  · rw [read]
    exact get_keepsShape s name
  · rw [wrote]
    exact set_keepsShape ordered now name written
  · rw [refused]
    exact (set_keepsShape ordered now name written).trans (get_keepsShape _ name)

theorem perform_keepsShape {s : Store σ} (ordered : Ascending s.entries) (backing : Backing World)
    (world : World) (op : Operation) : KeepsShape s (perform backing s world op).2.1 := by
  cases op with
  | get name => exact get_keepsShape s name
  | lookup | list | nameAt => exact keepsShape_of_entries rfl rfl
  | set now name value => exact set_keepsShape ordered now name value
  | access now name value => exact access_keepsShape ordered now name value
  | flush now =>
      obtain ⟨entries, durable⟩ := flush_entries s backing now world
      exact keepsShape_of_entries entries durable

/-- A register that an answer shows, or that what it found shows when it is read or written. -/
inductive Answer.Shows : Answer σ → Register → Prop where
  | register (r : Register) : Shows (.register (.ok r)) r
  | found (r : Register) : Shows (.found (.ok (.stored r))) r
  | read (name : RegisterName) (c : Computed σ) (policy : Policy) (live : σ) :
      Shows (.found (.ok (.computed name c policy))) (readComputed name c live).1
  | written {name : RegisterName} {c : Computed σ} {policy : Policy} {value : Value} {live : σ}
      {r : Register} (wrote : (writeComputed policy name c value live).1 = .ok r) :
      Shows (.found (.ok (.computed name c policy))) r
  | accessed (r : Register) : Shows (.accessed (.ok r)) r
  | current (error : RegisterError) (r : Register) : Shows (.accessed (.error ⟨error, some r⟩)) r

theorem Answer.Shows.of_register {result : Except RegisterError Register} {r : Register}
    (shown : (Answer.register result : Answer σ).Shows r) : result = .ok r := by
  cases shown
  rfl

/-- What a register may say of itself: that it is persistent only where it is stored, declared so and
kept durably, and a time only where it is persistent. -/
structure Truthful (s : Store σ) (r : Register) : Prop where
  persistent : r.persistent = true → s.durable = true ∧
    ∃ stored, s.entry? r.name.text = some (r.name, .stored stored) ∧ stored.flags.persistent = true
  untimed : r.persistent = false → r.timestamp = none

theorem truthful_view {s : Store σ} {name : String} {key : RegisterName} {stored : Stored}
    (found : s.entry? name = some (key, .stored stored)) {new : Stored}
    (flags : new.flags = stored.flags) : Truthful s (s.view key new) := by
  have same := key_of_lookup found
  constructor
  · intro persistent
    obtain ⟨declared, durable⟩ := Bool.and_eq_true_iff.mp persistent
    refine ⟨durable, stored, ?_, by rw [← flags, declared]⟩
    simpa only [view, same] using found
  · intro volatile
    exact if_neg (by simpa only [view, Bool.not_eq_true] using volatile)

theorem truthful_computed (s : Store σ) (name : RegisterName) (c : Computed σ) (value : Value) :
    Truthful s (computedView name c value) :=
  ⟨fun persistent => Bool.noConfusion persistent, fun _ => rfl⟩

theorem truthful_writeComputed (s : Store σ) {policy : Policy} {name : RegisterName}
    {c : Computed σ} {value : Value} {live : σ} {r : Register}
    (wrote : (writeComputed policy name c value live).1 = .ok r) : Truthful s r := by
  unfold writeComputed at wrote
  cases setter : c.write with
  | none =>
      rw [setter] at wrote
      cases wrote
  | some write =>
      rw [setter] at wrote
      dsimp only at wrote
      cases fitted : policy.assign (c.read live).1 value with
      | error e =>
          rw [fitted] at wrote
          cases wrote
      | ok taken =>
          rw [fitted] at wrote
          cases wrote
          exact truthful_computed s name c _

theorem get_truthful {s : Store σ} {name : String} {r : Register} (read : (s.get name).1 = .ok r) :
    Truthful s r := by
  unfold get at read
  cases found : s.entry? name with
  | none =>
      rw [found] at read
      cases read
  | some entry =>
      obtain ⟨key, stored | c⟩ := entry
      · rw [found] at read
        cases read
        exact truthful_view found rfl
      · rw [found] at read
        cases read
        exact truthful_computed s key c _

theorem set_truthful {s : Store σ} {now : Timestamp} {name : String} {value : Value} {r : Register}
    (wrote : (s.set now name value).1 = .ok r) : Truthful s r := by
  have outcome := outcome_set s now name value
  generalize s.set now name value = result at outcome wrote
  cases outcome with
  | unknown | readOnly | misfit => cases wrote
  | computed found written => exact truthful_writeComputed s (by rw [written]; exact wrote)
  | written found mutable fits coerced flags timestamp =>
      cases wrote
      exact truthful_view found flags

theorem Truthful.before {before after : Store σ} (ordered : Ascending before.entries)
    (ordered' : Ascending after.entries) (keeps : KeepsShape before after) {r : Register}
    (truthful : Truthful after r) : Truthful before r := by
  refine ⟨fun persistent => ?_, truthful.untimed⟩
  obtain ⟨durable, stored, found, declared⟩ := truthful.persistent persistent
  have known := (mem_names ordered').mpr ⟨_, found⟩
  rw [keeps.names] at known
  obtain ⟨entry, earlier⟩ := (mem_names ordered).mp known
  obtain ⟨kept, there, stays⟩ := keeps.entries earlier
  rw [found] at there
  cases there
  cases stays with
  | stored flags shape fixed => exact ⟨keeps.durable ▸ durable, _, earlier, by rw [← flags, declared]⟩

theorem lookup_truthful {s : Store σ} {name : String} {r : Register}
    (shown : (Answer.found (s.lookup name)).Shows r) : Truthful s r := by
  unfold lookup at shown
  cases found : s.entry? name with
  | none =>
      rw [found] at shown
      cases shown
  | some entry =>
      obtain ⟨key, stored | c⟩ := entry
      · rw [found] at shown
        cases shown
        exact truthful_view found rfl
      · rw [found] at shown
        cases shown with
        | read => exact truthful_computed s key c _
        | written wrote => exact truthful_writeComputed s wrote

theorem access_truthful {s : Store σ} (ordered : Ascending s.entries) {now : Timestamp} {name : String}
    {value : Option Value} {r : Register}
    (shown : (Answer.accessed (s.access now name value).1 : Answer σ).Shows r) : Truthful s r := by
  cases value with
  | none =>
      simp only [access, accessRead] at shown
      cases read : (s.get name).1 with
      | error e =>
          rw [read] at shown
          cases shown
      | ok register =>
          rw [read] at shown
          cases shown
          exact get_truthful read
  | some value =>
      simp only [access, accessWrite] at shown
      rcases outcome : s.set now name value with ⟨e | register, s'⟩
      · rw [outcome] at shown
        dsimp only at shown
        have keeps := set_keepsShape ordered now name value
        have ordered' := change_ascending (set_moves s now name value).change ordered
        rw [outcome] at keeps ordered'
        cases read : (s'.get name).1 with
        | error e' =>
            rw [read] at shown
            cases shown
        | ok register =>
            rw [read] at shown
            cases shown
            exact (get_truthful read).before ordered ordered' keeps
      · rw [outcome] at shown
        cases shown
        exact set_truthful (by rw [outcome])

theorem perform_truthful {s : Store σ} (ordered : Ascending s.entries) {backing : Backing World}
    {world : World} {op : Operation} {r : Register}
    (shown : (perform backing s world op).1.Shows r) : Truthful s r := by
  cases op with
  | get name => exact get_truthful shown.of_register
  | lookup name => exact lookup_truthful shown
  | set now name value => exact set_truthful shown.of_register
  | access now name value => exact access_truthful ordered shown
  | list => cases shown
  | nameAt index => cases shown
  | flush now => cases shown

structure Listed (s : Store σ) : Prop where
  ascending : s.names.Pairwise fun a b => a.text < b.text
  distinct : s.names.Nodup
  complete : ∀ name, name ∈ s.names ↔ ∃ entry, s.entry? name.text = some (name, entry)
  indexed : ∀ index, index < s.size →
    ∃ name, s.names[index]? = some name ∧ s.nameAt? index = some name
  beyond : ∀ index, s.size ≤ index → s.nameAt? index = none

theorem listed_of_ascending {s : Store σ} (ordered : Ascending s.entries) : Listed s := by
  have ascending : s.names.Pairwise fun a b => a.text < b.text := List.pairwise_map.mpr ordered
  have size : s.names.length = s.size := List.length_map ..
  refine ⟨ascending, ?_, fun name => mem_names ordered, ?_, ?_⟩
  · refine ascending.imp fun before same => ?_
    rw [same] at before
    exact lt_irrefl _ before
  · intro index below
    rw [← size] at below
    exact ⟨s.names[index], List.getElem?_eq_getElem below, List.getElem?_eq_getElem below⟩
  · intro index beyond
    rw [← size] at beyond
    exact List.getElem?_eq_none beyond

/-- What a row of operations keeps of a store, and what its answers may say. -/
structure Shaped (built : Store σ) (answers : List (Answer σ)) (s : Store σ) : Prop where
  keeps : KeepsShape built s
  listed : Listed s
  names : ∀ names, .names names ∈ answers → names = built.names
  truthful : ∀ answer ∈ answers, ∀ r, answer.Shows r → Truthful built r

theorem shaped_perform {built s : Store σ} {answers : List (Answer σ)}
    (first : Ascending built.entries) (ordered : Ascending s.entries) (shaped : Shaped built answers s)
    (backing : Backing World) (world : World) (op : Operation) :
    Shaped built (answers ++ [(perform backing s world op).1]) (perform backing s world op).2.1 := by
  have step := perform_keepsShape ordered backing world op
  refine ⟨shaped.keeps.trans step, listed_of_ascending (ascending_perform ordered backing world op),
    ?_, ?_⟩
  · intro listed member
    rcases List.mem_append.mp member with earlier | last
    · exact shaped.names listed earlier
    · cases op <;> simp only [perform, List.mem_singleton, reduceCtorEq] at last
      case list =>
        cases last
        exact shaped.keeps.names
  · intro answer member r shown
    rcases List.mem_append.mp member with earlier | last
    · exact shaped.truthful answer earlier r shown
    · rw [List.mem_singleton.mp last] at shown
      exact (perform_truthful ordered shown).before first ordered shaped.keeps

theorem shaped_run {backing : Backing World} {built s : Store σ} {world world' : World}
    {answers : List (Answer σ)} (first : Ascending built.entries)
    (run : Run backing built world answers s world') : Shaped built answers s := by
  induction run with
  | start =>
      refine ⟨keepsShape_of_entries rfl rfl, listed_of_ascending first, ?_, ?_⟩
      · intro names member
        cases member
      · intro answer member
        cases member
  | @perform answers s world op run ih =>
      exact shaped_perform first (ascending_run run first) ih backing world op
  | @elapse answers s world live later run ih =>
      refine ⟨ih.keeps.trans (keepsShape_of_entries rfl rfl), ?_, ih.names, ih.truthful⟩
      exact listed_of_ascending (ascending_run (.elapse live later run) first)

theorem durable_build {seed : Seed σ} {backing : Backing World} {now : Timestamp} {world : World}
    {s : Store σ} (built : Store.build seed backing now world = .ok s) :
    s.durable = backing.durable := by
  obtain ⟨kept, -, seeded⟩ := seed_of_build built
  obtain ⟨⟨entries, dirty⟩, -, same⟩ := ok_of_bind seeded
  cases same
  rfl

/-- Whatever is asked of a store after it was built, it keeps its shape and every read-only register,
lists its names in order, and hands out no register that claims more than it is. -/
theorem shape_never_drifts {seed : Seed σ} {backing : Backing World} {start : Timestamp}
    {world world' : World} {built s : Store σ} {answers : List (Answer σ)}
    (was : Store.build seed backing start world = .ok built)
    (run : Run backing built world answers s world') :
    built.durable = backing.durable ∧ Shaped built answers s :=
  ⟨durable_build was, shaped_run (ascending_build was) run⟩

theorem shape_never_drifts_boiler :
    ∃ (built s : Store Nat) (answers : List (Answer Nat)) (world : List Persisted × Nat),
      Store.build boilerSeed .failing ⟨0, 0⟩ ([], 1) = .ok built ∧
        Run .failing built ([], 1) answers s world ∧ answers.length = 5 ∧ s.dirty = true ∧
        Shaped built answers s := by
  have wrote := fun built : Store Nat =>
    ((Run.start : Run Backing.failing built ([], 1) [] built ([], 1)).perform
      (.set ⟨1, 0⟩ "boiler.limit" (.array (.integer .w8) [(75 : BitVec 8)]))).perform
      (.access ⟨2, 0⟩ "boiler.serial" (some (.string "b8")))
  have asked := fun built : Store Nat =>
    ((((wrote built).elapse 40 ([], 1)).perform (.lookup "boiler.load")).perform .list).perform
      (.flush ⟨3, 0⟩)
  have shaped := fun (built : Store Nat)
      (was : Store.build boilerSeed .failing ⟨0, 0⟩ ([], 1) = .ok built) =>
    (shape_never_drifts was (asked built)).2
  exact ⟨_, _, _, _, rfl, asked _, rfl, rfl, shaped _ rfl⟩

end Store

end RegisterPlane
