import RegisterPlane.Proofs.Outcome
import RegisterPlane.Proofs.Store.Layers
import RegisterPlane.Store.Access

namespace RegisterPlane.Store

variable {σ : Type}

inductive Change : Entries σ → Entries σ → Prop where
  | keep (entries : Entries σ) : Change entries entries
  /-- A stored entry takes a value of its own shape. -/
  | refit {entries : Entries σ} {key : RegisterName} {old new : Stored}
      (found : lookup? entries key.text = some (key, .stored old))
      (flags : new.flags = old.flags) (shape : new.value.SameShape old.value) :
      Change entries (insertEntry key (.stored new) entries)
  /-- A persistent entry appears under a name without one. -/
  | add {entries : Entries σ} {name : RegisterName} {new : Stored}
      (absent : lookup? entries name.text = none) (persistent : new.flags.persistent = true) :
      Change entries (insertEntry name (.stored new) entries)

def KeepsPersistent (before after : Entries σ) : Prop :=
  ∀ name key stored, lookup? after name = some (key, .stored stored) →
    stored.flags.persistent = true → lookup? before name = some (key, .stored stored)

theorem KeepsPersistent.refl (entries : Entries σ) : KeepsPersistent entries entries :=
  fun _ _ _ found _ => found

theorem KeepsPersistent.trans {first second third : Entries σ}
    (early : KeepsPersistent first second) (late : KeepsPersistent second third) :
    KeepsPersistent first third := by
  intro name key stored found persistent
  exact early name key stored (late name key stored found persistent) persistent

theorem keepsPersistent_insert {new : Stored} (volatile : new.flags.persistent = false)
    (key : RegisterName) (entries : Entries σ) :
    KeepsPersistent entries (insertEntry key (.stored new) entries) := by
  intro name other stored found persistent
  rw [lookup_insert] at found
  split at found
  · cases found
    rw [volatile] at persistent
    cases persistent
  · exact found

theorem change_ascending {before after : Entries σ} (change : Change before after)
    (ordered : Ascending before) : Ascending after := by
  cases change with
  | keep => exact ordered
  | refit found flags shape => exact ascending_insert ordered _ _
  | add absent persistent => exact ascending_insert ordered _ _

theorem restore_change (entries : Entries σ) (p : Persisted) : Change entries (restore entries p) := by
  unfold restore
  cases found : lookup? entries p.name.text with
  | none => exact .add found rfl
  | some entry =>
      obtain ⟨key, entry⟩ := entry
      cases entry with
      | computed c => exact .keep entries
      | stored stored =>
          dsimp only
          cases fitted : Policy.implicit.assign stored.value p.value with
          | error e => exact .keep entries
          | ok value =>
              rw [← key_of_lookup found] at found
              exact .refit found rfl (Policy.shape_of_assign fitted)

theorem override_change {now : Timestamp} {entries after : Entries σ} {name : RegisterName}
    {value : Value} {changed : Bool}
    (overridden : override now entries name value = .ok (after, changed)) :
    Change entries after ∧ (changed = false → KeepsPersistent entries after) := by
  unfold override at overridden
  cases found : lookup? entries name.text with
  | none =>
      rw [found] at overridden
      cases overridden
      exact ⟨.add found rfl, fun unchanged => by cases unchanged⟩
  | some entry =>
      obtain ⟨key, entry⟩ := entry
      rw [found] at overridden
      cases entry with
      | computed c =>
          cases overridden
          exact ⟨.keep entries, fun _ => .refl entries⟩
      | stored stored =>
          obtain ⟨taken, fitted, same⟩ := ok_of_map overridden
          cases same
          rw [← key_of_lookup found] at found
          refine ⟨.refit found rfl (Policy.shape_of_assign fitted), ?_⟩
          intro volatile
          apply keepsPersistent_insert
          exact volatile

theorem writeStored_keeps {policy : Policy} {now : Timestamp} {name : String} {value : Value}
    {stored written : Stored} (wrote : writeStored policy now name value stored = .ok written) :
    stored.flags.mutable = true ∧ written.flags = stored.flags ∧
      written.value.SameShape stored.value := by
  unfold writeStored at wrote
  cases mutable : stored.flags.mutable with
  | false => simp [mutable] at wrote
  | true =>
      rw [mutable, Bool.not_true, if_neg Bool.false_ne_true] at wrote
      obtain ⟨taken, fitted, same⟩ := ok_of_map wrote
      cases same
      exact ⟨rfl, rfl, Policy.shape_of_assign fitted⟩

/-- What an operation on a store may do to it: one change of its entries, with the store dirty
afterwards if a persistent one has another content. -/
structure Moves (s s' : Store σ) : Prop where
  change : Change s.entries s'.entries
  policy : s'.policy = s.policy
  durable : s'.durable = s.durable
  dirty : s'.dirty = false → s.dirty = false ∧ KeepsPersistent s.entries s'.entries

theorem moves_live (s : Store σ) (live : σ) : Moves s { s with live } :=
  ⟨.keep _, rfl, rfl, fun clean => ⟨clean, .refl _⟩⟩

theorem get_moves (s : Store σ) (name : String) : Moves s (s.get name).2 := by
  unfold get
  cases s.entry? name with
  | none => exact moves_live s s.live
  | some entry =>
      obtain ⟨key, entry⟩ := entry
      cases entry with
      | stored stored => exact moves_live s s.live
      | computed c => exact moves_live s _

theorem set_moves (s : Store σ) (now : Timestamp) (name : String) (value : Value) :
    Moves s (s.set now name value).2 := by
  unfold set
  cases found : s.entry? name with
  | none => exact moves_live s s.live
  | some entry =>
      obtain ⟨key, entry⟩ := entry
      have same := key_of_lookup found
      cases entry with
      | computed c => exact moves_live s _
      | stored stored =>
          dsimp only
          cases wrote : writeStored s.policy now name value stored with
          | error e => exact moves_live s s.live
          | ok written =>
              obtain ⟨-, flags, shape⟩ := writeStored_keeps wrote
              refine ⟨.refit (by rw [same]; exact found) flags shape, rfl, rfl, fun clean => ?_⟩
              obtain ⟨before, volatile⟩ := Bool.or_eq_false_iff.mp clean
              exact ⟨before, keepsPersistent_insert (by rw [flags]; exact volatile) key _⟩

theorem access_store (s : Store σ) (now : Timestamp) (name : String) (value : Option Value) :
    (s.access now name value).2 = (s.get name).2 ∨
      ∃ written, (s.access now name value).2 = (s.set now name written).2 ∨
        (s.access now name value).2 = ((s.set now name written).2.get name).2 := by
  cases value with
  | none => exact Or.inl rfl
  | some written =>
      refine Or.inr ⟨written, ?_⟩
      simp only [access, accessWrite]
      cases outcome : s.set now name written with
      | mk result s' =>
          cases result with
          | ok register => exact Or.inl rfl
          | error e => exact Or.inr rfl

theorem access_keeps {holds : Store σ → Prop}
    (step : ∀ {s s' : Store σ}, Moves s s' → holds s → holds s') {s : Store σ}
    (start : holds s) (now : Timestamp) (name : String) (value : Option Value) :
    holds (s.access now name value).2 := by
  rcases access_store s now name value with read | ⟨written, wrote | refused⟩
  · rw [read]
    exact step (get_moves s name) start
  · rw [wrote]
    exact step (set_moves s now name written) start
  · rw [refused]
    exact step (get_moves _ name) (step (set_moves s now name written) start)

theorem overrideAll_keeps {holds : Entries σ → Prop}
    (step : ∀ {before after : Entries σ}, Change before after → holds before → holds after)
    {now : Timestamp} {overrides : List (RegisterName × Value)} {entries after : Entries σ}
    {dirty dirty' : Bool} (start : holds entries)
    (overridden : overrideAll now (entries, dirty) overrides = .ok (after, dirty')) :
    holds after ∧ (dirty' = false → dirty = false ∧ KeepsPersistent entries after) := by
  induction overrides generalizing entries dirty with
  | nil =>
      cases overridden
      exact ⟨start, fun clean => ⟨clean, .refl _⟩⟩
  | cons one rest ih =>
      obtain ⟨name, value⟩ := one
      unfold overrideAll at overridden
      obtain ⟨⟨middle, changed⟩, first, overridden⟩ := ok_of_bind overridden
      obtain ⟨change, quiet⟩ := override_change first
      obtain ⟨final, later⟩ := ih (step change start) overridden
      refine ⟨final, fun clean => ?_⟩
      obtain ⟨quietly, keeps⟩ := later clean
      obtain ⟨before, unchanged⟩ := Bool.or_eq_false_iff.mp quietly
      exact ⟨before, (quiet unchanged).trans keeps⟩

end RegisterPlane.Store
