import RegisterPlane.Proofs.Assignment.Inference

namespace RegisterPlane.Assignment

theorem solid_of_array {k : ArrayKind} {elements : List k.Element} (filled : elements ≠ []) :
    ¬IsHollow (.array k elements) := by
  rintro ⟨other, same⟩
  cases same
  exact filled rfl

theorem solid_of_narrowestInteger {is : List Int} {value : Value} (filled : is ≠ [])
    (inferred : narrowestInteger is = .ok value) : ¬IsHollow value := by
  have kept : ∀ w : Width, is.map (BitVec.ofInt w.bits) ≠ [] := fun w => by simpa using filled
  unfold narrowestInteger at inferred
  split at inferred
  · split at inferred
    · rename_i w _
      cases inferred
      exact @solid_of_array (.natural w) _ (kept w)
    · cases inferred
  · split at inferred
    · rename_i w _
      cases inferred
      exact @solid_of_array (.integer w) _ (kept w)
    · cases inferred

theorem solid_narrowestReal {xs : List (Floating .double)} (filled : xs ≠ []) :
    ¬IsHollow (narrowestReal xs) := by
  have kept : ∀ p, xs.map (Floating.convert p) ≠ [] := fun p => by simpa using filled
  unfold narrowestReal
  split
  · exact @solid_of_array (.real .half) _ (kept .half)
  · split
    · exact @solid_of_array (.real .single) _ (kept .single)
    · exact @solid_of_array (.real .double) _ filled

theorem solid_of_inferScalars {items : List Scalar} {value : Value} (filled : items ≠ [])
    (inferred : inferScalars items = .ok value) : ¬IsHollow value := by
  rcases inferScalars_cases inferred with ⟨bs, rfl, rfl⟩ | ⟨is, rfl, narrowest⟩ | ⟨xs, doubles, -, narrowest⟩
  · apply @solid_of_array .bit
    exact fun none => filled (List.map_eq_nil_iff.mpr none)
  · apply solid_of_narrowestInteger _ ((narrowestInteger_eq_ok_iff is value).mpr narrowest)
    simpa using filled
  · rw [← (narrowestReal_eq_iff xs value).mpr narrowest]
    apply solid_narrowestReal
    rintro rfl
    exact filled (List.forall₂_nil_right_iff.mp doubles)

theorem solid_of_typedLiteral {kind : Kind} {literal : Yaml} {value : Value}
    (inferred : typedLiteral kind literal = .ok value) : ¬IsHollow value := by
  have decoded : ∀ {k text}, (decodeText k text).mapError LiteralFault.text = .ok value →
      ¬IsHollow value := by
    intro k text done
    exact solid_of_decodeText (ok_of_mapError done)
  unfold typedLiteral at inferred
  split at inferred
  · cases inferred
    rintro ⟨k, same⟩
    cases same
  · exact decoded inferred
  · cases inferred
  · cases inferred
  · rename_i k
    have taken : ∀ {words : Except LiteralFault (List (List Char))},
        (words >>= fun words =>
          (decodeText (.array k) (String.ofList (joinWords words))).mapError LiteralFault.text) =
          .ok value → ¬IsHollow value := by
      intro words done
      obtain ⟨spelled, -, done⟩ := ok_of_bind done
      exact decoded done
    exact taken inferred

theorem solid_of_ofLiteral {literal : Yaml} {value : Value}
    (inferred : ofLiteral literal = .ok value) : ¬IsHollow value := by
  have scalars : ∀ {items : List Yaml}, items ≠ [] →
      (readAll classify items >>= inferScalars) = .ok value → ¬IsHollow value := by
    intro items filled done
    obtain ⟨scalars, read, done⟩ := ok_of_bind done
    apply solid_of_inferScalars _ done
    rintro rfl
    exact filled (List.length_eq_zero_iff.mp (length_readAll read).symm)
  unfold ofLiteral at inferred
  split at inferred
  · cases inferred
    rintro ⟨k, same⟩
    cases same
  · split at inferred
    · exact solid_of_typedLiteral inferred
    · cases inferred
  · cases inferred
  · cases inferred
  · rename_i items some_item
    exact scalars some_item inferred
  · obtain ⟨scalar, -, inferred⟩ := ok_of_bind inferred
    exact solid_of_inferScalars (List.cons_ne_nil scalar []) inferred

theorem solid_of_infer {subject : String} {literal : Yaml} {value : Value}
    (inferred : infer subject literal = .ok value) : ¬IsHollow value :=
  solid_of_ofLiteral (ok_of_mapError inferred)

end RegisterPlane.Assignment
