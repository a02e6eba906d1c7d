import RegisterPlane.Proofs.Assignment.RoundTrip

namespace RegisterPlane.Assignment

theorem readAll_perm {α β ε : Type} {read : α → Except ε β} {as others : List α}
    (same : as.Perm others) {bs : List β} (done : readAll read as = .ok bs) :
    ∃ bs', readAll read others = .ok bs' ∧ bs'.Perm bs := by
  induction same generalizing bs with
  | nil => exact ⟨bs, done, List.Perm.refl bs⟩
  | cons a _ ih =>
      obtain ⟨b, tail, first, later, rfl⟩ := of_readAll_cons done
      obtain ⟨tail', found, perm⟩ := ih later
      refine ⟨b :: tail', ?_, perm.cons b⟩
      rw [readAll, first, found]
      rfl
  | swap a a' rest =>
      obtain ⟨b', tail', second, later', rfl⟩ := of_readAll_cons done
      obtain ⟨b, tail, first, later, rfl⟩ := of_readAll_cons later'
      refine ⟨b :: b' :: tail, ?_, List.Perm.swap b' b tail⟩
      rw [readAll, readAll, first, second, later]
      rfl
  | trans _ _ early late =>
      obtain ⟨middle, found, perm⟩ := early done
      obtain ⟨last, found', perm'⟩ := late found
      exact ⟨last, found', perm'.trans perm⟩

theorem ofEnvironment_encoded {bindings : List (String × String)}
    {registers : List (RegisterName × Value)}
    (assignments : (bindings.filter fun binding => looksLikeAssignment binding.1).Perm
      (registers.map fun entry => encode entry.1 entry.2))
    (solid : ∀ name value, (name, value) ∈ registers → ¬IsHollow value) :
    ∃ found, ofEnvironment bindings = .ok found ∧ found.Perm registers := by
  have read : readAll (fun binding : String × String => parse binding.1 binding.2)
      (registers.map fun entry => encode entry.1 entry.2) = .ok registers :=
    readAll_map fun entry member => parse_encode entry.1 (solid entry.1 entry.2 member)
  obtain ⟨found, here, perm⟩ := readAll_perm assignments.symm read
  refine ⟨found.mergeSort fun a b => a.1.le b.1, ?_, (List.mergeSort_perm _ _).trans perm⟩
  change (readAll (fun binding : String × String => parse binding.1 binding.2)
    (bindings.filter fun binding => looksLikeAssignment binding.1) >>= _) = _
  rw [here]
  rfl

end RegisterPlane.Assignment
