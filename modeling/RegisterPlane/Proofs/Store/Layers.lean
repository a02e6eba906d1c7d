import RegisterPlane.Proofs.Store.Entries
import RegisterPlane.Proofs.Value.Fitting
import RegisterPlane.Store.Seed

namespace RegisterPlane

namespace Seed

variable {σ : Type}

/-- The last computed register declared under a name. -/
def computed? (seed : Seed σ) (name : String) : Option (RegisterName × Computed σ) :=
  seed.computed.reverse.find? (·.1.text == name)

def default? (seed : Seed σ) (name : String) : Option (RegisterName × Value × Flags) :=
  seed.defaults.reverse.find? (·.1.text == name)

end Seed

namespace Store

variable {σ : Type}

theorem lookup_foldl_insert {β : Type} (entryOf : β → Entry σ) (items : List (RegisterName × β))
    (entries : Entries σ) (name : String) :
    lookup? (items.foldl (fun es item => insertEntry item.1 (entryOf item.2) es) entries) name =
      ((items.reverse.find? (·.1.text == name)).map fun item => (item.1, entryOf item.2)).or
        (lookup? entries name) := by
  induction items generalizing entries with
  | nil => rfl
  | cons item rest ih =>
      rw [List.foldl_cons, ih, lookup_insert, List.reverse_cons, List.find?_append]
      cases rest.reverse.find? (·.1.text == name) with
      | some later => rfl
      | none =>
          by_cases here : item.1.text = name
          · simp [here]
          · simp [here]

theorem ascending_foldl_insert {β : Type} (entryOf : β → Entry σ)
    (items : List (RegisterName × β)) {entries : Entries σ} (ordered : Ascending entries) :
    Ascending (items.foldl (fun es item => insertEntry item.1 (entryOf item.2) es) entries) := by
  induction items generalizing entries with
  | nil => exact ordered
  | cons item rest ih => exact ih (ascending_insert ordered _ _)

/-- What the declarations put at a name: a computed register hides every default. -/
def declared? (now : Timestamp) (seed : Seed σ) (name : String) :
    Option (RegisterName × Entry σ) :=
  match seed.computed? name with
  | some (key, c) => some (key, .computed c)
  | none =>
    (seed.default? name).map fun item => (item.1, .stored ⟨item.2.1, item.2.2, some now⟩)

theorem lookup_declare (now : Timestamp) (seed : Seed σ) (name : String) :
    lookup? (declare now seed) name = declared? now seed name := by
  have stored := lookup_foldl_insert (fun item : Value × Flags => Entry.stored (σ := σ)
    ⟨item.1, item.2, some now⟩) seed.defaults [] name
  have computed := lookup_foldl_insert (fun c : Computed σ => Entry.computed c) seed.computed
    (seed.defaults.foldl (fun es item =>
      insertEntry item.1 (.stored ⟨item.2.1, item.2.2, some now⟩) es) []) name
  refine computed.trans ?_
  rw [stored]
  unfold declared? Seed.computed? Seed.default?
  cases seed.computed.reverse.find? (·.1.text == name) with
  | some last => rfl
  | none => simp

theorem ascending_declare (now : Timestamp) (seed : Seed σ) : Ascending (declare now seed) :=
  ascending_foldl_insert _ _ (ascending_foldl_insert
    (fun item : Value × Flags => Entry.stored ⟨item.1, item.2, some now⟩) _ ascending_nil)

def restoreAt (found : Option (RegisterName × Entry σ)) (p : Persisted) :
    Option (RegisterName × Entry σ) :=
  match found with
  | none => some (p.name, .stored ⟨p.value, ⟨p.mutable, true⟩, p.timestamp⟩)
  | some (key, .computed c) => some (key, .computed c)
  | some (key, .stored stored) =>
    match Policy.implicit.assign stored.value p.value with
    | .error _ => some (key, .stored stored)
    | .ok value => some (key, .stored ⟨value, stored.flags, p.timestamp.or stored.timestamp⟩)

theorem lookup_restore (entries : Entries σ) (p : Persisted) (name : String) :
    lookup? (restore entries p) name =
      if p.name.text = name then restoreAt (lookup? entries name) p
      else lookup? entries name := by
  unfold restore restoreAt
  cases found : lookup? entries p.name.text with
  | none =>
      rw [lookup_insert]
      by_cases here : p.name.text = name
      · rw [if_pos here, if_pos here, ← here, found]
      · rw [if_neg here, if_neg here]
  | some entry =>
      obtain ⟨key, entry⟩ := entry
      have same := key_of_lookup found
      cases entry with
      | computed c =>
          by_cases here : p.name.text = name
          · rw [if_pos here, ← here, found]
          · rw [if_neg here]
      | stored stored =>
          by_cases here : p.name.text = name
          · rw [if_pos here, ← here, found]
            dsimp only
            cases Policy.implicit.assign stored.value p.value with
            | error e => exact found
            | ok value => rw [← same, lookup_insert_self]
          · rw [if_neg here]
            dsimp only
            cases Policy.implicit.assign stored.value p.value with
            | error e => rfl
            | ok value => exact lookup_insert_of_ne (by rwa [same]) _ _

theorem lookup_foldl_restore (kept : List Persisted) (entries : Entries σ) (name : String) :
    lookup? (kept.foldl restore entries) name =
      (kept.filter (·.name.text == name)).foldl restoreAt (lookup? entries name) := by
  induction kept generalizing entries with
  | nil => rfl
  | cons p rest ih =>
      rw [List.foldl_cons, ih, lookup_restore]
      by_cases here : p.name.text = name
      · simp [here]
      · simp [here]

end Store

end RegisterPlane
