import Mathlib.Data.String.Basic
import Mathlib.Tactic
import RegisterPlane.Proofs.Register.Name
import RegisterPlane.Store.Basic

namespace RegisterPlane.Store

variable {σ : Type}

abbrev Entries (σ : Type) := List (RegisterName × Entry σ)

def Ascending (entries : Entries σ) : Prop := entries.Pairwise fun a b => a.1.text < b.1.text

@[simp] theorem lookup_nil (name : String) : lookup? ([] : Entries σ) name = none := rfl

theorem lookup_cons (key : RegisterName) (entry : Entry σ) (rest : Entries σ) (name : String) :
    lookup? ((key, entry) :: rest) name =
      if key.text = name then some (key, entry) else lookup? rest name := by
  by_cases same : key.text = name
  · simp [lookup?, same]
  · simp [lookup?, same]

theorem key_of_lookup {entries : Entries σ} {name : String} {key : RegisterName} {entry : Entry σ}
    (found : lookup? entries name = some (key, entry)) : key.text = name := by
  have holds := List.find?_some found
  simpa using holds

theorem mem_of_lookup {entries : Entries σ} {name : String} {key : RegisterName} {entry : Entry σ}
    (found : lookup? entries name = some (key, entry)) : (key, entry) ∈ entries :=
  List.mem_of_find?_eq_some found

theorem lookup_insert (key : RegisterName) (entry : Entry σ) (entries : Entries σ) (name : String) :
    lookup? (insertEntry key entry entries) name =
      if key.text = name then some (key, entry) else lookup? entries name := by
  induction entries with
  | nil => simp [insertEntry, lookup_cons]
  | cons head rest ih =>
      obtain ⟨other, kept⟩ := head
      by_cases before : key.text < other.text
      · simp [insertEntry, before, lookup_cons]
      · by_cases after : other.text < key.text
        · simp only [insertEntry, if_neg before, if_pos after, lookup_cons, ih]
          by_cases here : key.text = name
          · have skipped : other.text ≠ name := by
              rintro rfl
              exact absurd here (ne_of_gt after)
            simp [here, skipped]
          · simp [here]
        · have same : other.text = key.text :=
            le_antisymm (not_lt.mp before) (not_lt.mp after)
          simp only [insertEntry, if_neg before, if_neg after]
          rw [lookup_cons, lookup_cons, same]
          by_cases here : key.text = name
          · rw [if_pos here, if_pos here]
          · rw [if_neg here, if_neg here, if_neg here]

theorem lookup_insert_self (key : RegisterName) (entry : Entry σ) (entries : Entries σ) :
    lookup? (insertEntry key entry entries) key.text = some (key, entry) := by
  rw [lookup_insert, if_pos rfl]

theorem lookup_insert_of_ne {key : RegisterName} {name : String} (other : key.text ≠ name)
    (entry : Entry σ) (entries : Entries σ) :
    lookup? (insertEntry key entry entries) name = lookup? entries name := by
  rw [lookup_insert, if_neg other]

theorem mem_insert {key : RegisterName} {entry : Entry σ} {entries : Entries σ}
    {one : RegisterName × Entry σ} (member : one ∈ insertEntry key entry entries) :
    one = (key, entry) ∨ one ∈ entries := by
  induction entries with
  | nil => simpa [insertEntry] using member
  | cons head rest ih =>
      obtain ⟨other, kept⟩ := head
      by_cases before : key.text < other.text
      · simpa [insertEntry, before] using member
      · by_cases after : other.text < key.text
        · simp only [insertEntry, if_neg before, if_pos after, List.mem_cons] at member
          rcases member with rfl | member
          · exact Or.inr (by simp)
          · rcases ih member with here | there
            · exact Or.inl here
            · exact Or.inr (List.mem_cons_of_mem _ there)
        · simp only [insertEntry, if_neg before, if_neg after, List.mem_cons] at member
          rcases member with rfl | member
          · exact Or.inl rfl
          · exact Or.inr (List.mem_cons_of_mem _ member)

theorem ascending_nil : Ascending ([] : Entries σ) := List.Pairwise.nil

theorem ascending_insert {entries : Entries σ} (ordered : Ascending entries)
    (key : RegisterName) (entry : Entry σ) : Ascending (insertEntry key entry entries) := by
  induction entries with
  | nil => exact List.pairwise_singleton _ _
  | cons head rest ih =>
      obtain ⟨other, kept⟩ := head
      obtain ⟨first, later⟩ := List.pairwise_cons.mp ordered
      by_cases before : key.text < other.text
      · simp only [insertEntry, if_pos before]
        refine List.pairwise_cons.mpr ⟨?_, ordered⟩
        intro one member
        rcases List.mem_cons.mp member with rfl | member
        · exact before
        · exact before.trans (first one member)
      · by_cases after : other.text < key.text
        · simp only [insertEntry, if_neg before, if_pos after]
          refine List.pairwise_cons.mpr ⟨?_, ih later⟩
          intro one member
          rcases mem_insert member with rfl | member
          · exact after
          · exact first one member
        · have same : key.text = other.text :=
            le_antisymm (not_lt.mp after) (not_lt.mp before)
          simp only [insertEntry, if_neg before, if_neg after]
          refine List.pairwise_cons.mpr ⟨?_, later⟩
          intro one member
          simpa [same] using first one member

theorem lookup_of_mem {entries : Entries σ} (ordered : Ascending entries) {key : RegisterName}
    {entry : Entry σ} (member : (key, entry) ∈ entries) :
    lookup? entries key.text = some (key, entry) := by
  induction entries with
  | nil => cases member
  | cons head rest ih =>
      obtain ⟨other, kept⟩ := head
      obtain ⟨first, later⟩ := List.pairwise_cons.mp ordered
      rw [lookup_cons]
      rcases List.mem_cons.mp member with here | there
      · cases here
        simp
      · have before := first _ there
        rw [if_neg (ne_of_lt before)]
        exact ih later there

theorem mem_names {s : Store σ} (ordered : Ascending s.entries) {name : RegisterName} :
    name ∈ s.names ↔ ∃ entry, lookup? s.entries name.text = some (name, entry) := by
  unfold names
  rw [List.mem_map]
  constructor
  · rintro ⟨⟨key, entry⟩, member, rfl⟩
    exact ⟨entry, lookup_of_mem ordered member⟩
  · rintro ⟨entry, here⟩
    exact ⟨(name, entry), mem_of_lookup here, rfl⟩

end RegisterPlane.Store
