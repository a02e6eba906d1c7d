import RegisterPlane.Proofs.Store.Follows

namespace RegisterPlane.Store

variable {σ : Type}

def overridden (now : Timestamp) (value : Value) : Entry σ := .stored ⟨value, .config, some now⟩

theorem override_fresh (now : Timestamp) {entries : Entries σ} {name : RegisterName} (value : Value)
    (absent : lookup? entries name.text = none) :
    override now entries name value = .ok (insertEntry name (overridden now value) entries, true) := by
  rw [override, absent]
  rfl

theorem overrideAll_fresh {now : Timestamp} {overrides : List (RegisterName × Value)}
    {entries : Entries σ} (dirty : Bool) (distinct : (overrides.map (·.1)).Nodup)
    (absent : ∀ name ∈ overrides.map (·.1), lookup? entries name.text = none) :
    ∃ after dirty', overrideAll now (entries, dirty) overrides = .ok (after, dirty') ∧
      (∀ name value, (name, value) ∈ overrides →
        lookup? after name.text = some (name, overridden now value)) ∧
      ∀ text, (∀ name ∈ overrides.map (·.1), name.text ≠ text) →
        lookup? after text = lookup? entries text := by
  induction overrides generalizing entries dirty with
  | nil =>
      refine ⟨entries, dirty, rfl, ?_, fun _ _ => rfl⟩
      intro name value member
      cases member
  | cons one rest ih =>
      obtain ⟨name, value⟩ := one
      rw [List.map_cons, List.nodup_cons] at distinct
      obtain ⟨apart, distinct⟩ := distinct
      have here := override_fresh now value (absent name List.mem_cons_self)
      have other : ∀ name' ∈ rest.map (·.1), name.text ≠ name'.text := by
        intro name' member same
        rw [RegisterName.eq_of_text same] at apart
        exact apart member
      have later : ∀ name' ∈ rest.map (·.1),
          lookup? (insertEntry name (overridden now value) entries) name'.text = none := by
        intro name' member
        rw [lookup_insert_of_ne (other name' member)]
        exact absent name' (List.mem_cons_of_mem name member)
      obtain ⟨after, dirty', done, found, kept⟩ := ih (dirty || true) distinct later
      refine ⟨after, dirty', ?_, ?_, ?_⟩
      · rw [overrideAll, here]
        exact done
      · intro name' value' member
        rcases List.mem_cons.mp member with first | behind
        · cases first
          rw [kept name.text fun name' member => (other name' member).symm, lookup_insert_self]
        · exact found name' value' behind
      · intro text none
        rw [kept text fun name' member => none name' (List.mem_cons_of_mem name member),
          lookup_insert_of_ne (none name List.mem_cons_self)]

end RegisterPlane.Store
