import RegisterPlane.Assignment.Key
import RegisterPlane.Proofs.Register.Name
import RegisterPlane.Proofs.Text.Character
import RegisterPlane.Proofs.Text.Cutting

namespace RegisterPlane.Assignment

open RegisterName

theorem splitLast_cons {c : Char} {cs head last : List Char}
    (found : splitLast? cs = some (head, last)) : splitLast? (c :: cs) = some (c :: head, last) := by
  rw [splitLast?.eq_def]
  split
  · rename_i rest same
    obtain ⟨rfl, rfl⟩ := List.cons.inj same
    rw [found]
  · rename_i d ds _ same
    obtain ⟨rfl, rfl⟩ := List.cons.inj same
    rw [found]
    rfl
  · rename_i same
    cases same

theorem splitLast_bare {cs : List Char} (bare : '_' ∉ cs) : splitLast? cs = none := by
  induction cs with
  | nil => rfl
  | cons c rest ih =>
      have later := ih fun member => bare (List.mem_cons_of_mem c member)
      rw [splitLast?.eq_def]
      split
      · rename_i same
        exact absurd (same ▸ List.mem_cons_self) bare
      · rename_i d ds _ same
        obtain ⟨rfl, rfl⟩ := List.cons.inj same
        rw [later]
        rfl
      · rfl

theorem splitLast_underscore {cs : List Char} (bare : '_' ∉ cs) : splitLast? ('_' :: cs) = none := by
  rw [splitLast?.eq_def]
  split
  · rename_i rest same
    have pair := (List.cons.inj same).2
    exact absurd (pair ▸ List.mem_cons_self) bare
  · rename_i d ds _ same
    obtain ⟨rfl, rfl⟩ := List.cons.inj same
    rw [splitLast_bare bare]
    rfl
  · rfl

theorem splitLast_append (head : List Char) {last : List Char} (bare : '_' ∉ last) :
    splitLast? (head ++ '_' :: '_' :: last) = some (head, last) := by
  induction head with
  | nil => rw [List.nil_append, splitLast?, splitLast_underscore bare]
  | cons c rest ih => exact splitLast_cons ih

theorem splitPairs_cons {c : Char} {cs piece : List Char} {pieces : List (List Char)}
    (apart : ∀ rest, ¬(c = '_' ∧ cs = '_' :: rest)) (cut : splitPairs cs = piece :: pieces) :
    splitPairs (c :: cs) = (c :: piece) :: pieces := by
  rw [splitPairs.eq_def]
  split
  · rename_i rest same
    obtain ⟨rfl, rfl⟩ := List.cons.inj same
    exact absurd ⟨rfl, rfl⟩ (apart rest)
  · rename_i d ds _ same
    obtain ⟨rfl, rfl⟩ := List.cons.inj same
    rw [cut]
  · rename_i same
    cases same

theorem splitPairs_single {piece : List Char} (single : hasDoubleUnderscore piece = false) :
    splitPairs piece = [piece] := by
  induction piece with
  | nil => rfl
  | cons c rest ih =>
      apply splitPairs_cons _ (ih (hasDoubleUnderscore_tail single))
      rintro others ⟨first, second⟩
      rw [second] at single
      exact not_pair single ⟨first, rfl⟩

theorem splitPairs_append {piece : List Char} (single : hasDoubleUnderscore piece = false)
    (last : piece.getLast? ≠ some '_') (rest : List Char) :
    splitPairs (piece ++ '_' :: '_' :: rest) = piece :: splitPairs rest := by
  induction piece with
  | nil => rw [List.nil_append, splitPairs]
  | cons c others ih =>
      cases others with
      | nil =>
          apply splitPairs_cons
          · rintro next ⟨first, -⟩
            exact last (by rw [first]; rfl)
          · change splitPairs ('_' :: '_' :: rest) = [] :: splitPairs rest
            rw [splitPairs]
      | cons d ds =>
          apply splitPairs_cons
          · rintro next ⟨first, second⟩
            exact not_pair single ⟨first, (List.cons.inj second).1⟩
          · apply ih (hasDoubleUnderscore_tail single)
            rwa [List.getLast?_cons_cons] at last

theorem splitPairs_intercalate {pieces : List (List Char)} (some_piece : pieces ≠ [])
    (single : ∀ piece ∈ pieces, hasDoubleUnderscore piece = false)
    (last : ∀ piece ∈ pieces, piece.getLast? ≠ some '_') :
    splitPairs (['_', '_'].intercalate pieces) = pieces := by
  induction pieces with
  | nil => exact absurd rfl some_piece
  | cons piece rest ih =>
      have first := single piece List.mem_cons_self
      cases rest with
      | nil => rw [List.intercalate_singleton, splitPairs_single first]
      | cons next others =>
          have later := ih (List.cons_ne_nil _ _) (fun p member => single p (List.mem_cons_of_mem _ member))
            (fun p member => last p (List.mem_cons_of_mem _ member))
          rw [List.intercalate_cons_cons, List.append_assoc]
          change splitPairs (piece ++ '_' :: '_' :: ['_', '_'].intercalate (next :: others)) = _
          rw [splitPairs_append first (last piece List.mem_cons_self), later]

def upper (cs : List Char) : List Char := cs.map Char.toUpper

theorem upper_allowed {c : Char} (allowed : isAllowed c = true) :
    c.toUpper.toLower = c ∧ (c.toUpper = '_' ↔ c = '_') := by
  have table : ∀ n : Fin 128, isAllowed (Char.ofNat n.val) = true →
      (Char.ofNat n.val).toUpper.toLower = Char.ofNat n.val ∧
        ((Char.ofNat n.val).toUpper = '_' ↔ Char.ofNat n.val = '_') := by decide
  have ascii : c.toNat < 128 := by
    unfold isAllowed at allowed
    rcases Bool.or_eq_true_iff.mp allowed with other | underscore
    · rcases Bool.or_eq_true_iff.mp other with letter | decimal
      · have most : c ≤ 'z' := of_decide_eq_true (Bool.and_eq_true_iff.mp letter).2
        have code : c.toNat ≤ 122 := most
        omega
      · have most := ((Text.isDigit_iff c).mp decimal).2
        omega
    · rw [beq_iff_eq.mp underscore]
      decide
  have here := table ⟨c.toNat, ascii⟩
  rw [Char.ofNat_toNat] at here
  exact here allowed

variable {segment : List Char}

theorem lower_upper (allowed : ∀ c ∈ segment, isAllowed c = true) :
    (upper segment).map Char.toLower = segment := by
  unfold upper
  rw [List.map_map]
  calc
    segment.map (Char.toLower ∘ Char.toUpper) = segment.map id :=
      List.map_congr_left fun c member => (upper_allowed (allowed c member)).1
    _ = segment := List.map_id segment

theorem hasDoubleUnderscore_upper (allowed : ∀ c ∈ segment, isAllowed c = true)
    (single : hasDoubleUnderscore segment = false) : hasDoubleUnderscore (upper segment) = false := by
  induction segment with
  | nil => rfl
  | cons c rest ih =>
      have later := ih (fun x member => allowed x (List.mem_cons_of_mem c member))
        (hasDoubleUnderscore_tail single)
      cases rest with
      | nil => simp [upper, hasDoubleUnderscore]
      | cons d ds =>
          change hasDoubleUnderscore (c.toUpper :: d.toUpper :: upper ds) = false
          rw [hasDoubleUnderscore]
          · exact later
          · rintro others first second
            apply not_pair single
            exact ⟨(upper_allowed (allowed c (by simp))).2.mp first,
              (upper_allowed (allowed d (by simp))).2.mp (List.cons.inj second).1⟩

theorem getLast_upper (allowed : ∀ c ∈ segment, isAllowed c = true)
    (last : segment.getLast? ≠ some '_') : (upper segment).getLast? ≠ some '_' := by
  unfold upper
  rw [List.getLast?_map]
  intro underscore
  obtain ⟨c, found, raised⟩ := Option.map_eq_some_iff.mp underscore
  have member := List.mem_of_getLast? found
  rw [(upper_allowed (allowed c member)).2.mp raised] at found
  exact last found

def keyHead (name : RegisterName) : List Char :=
  ['_', '_'].intercalate ((Text.splitAt (· == '.') name.text.toList).map upper)

def keyToken (kind : Kind) : List Char := upper kind.token.toList

theorem encodeKey_toList (name : RegisterName) (kind : Kind) :
    (encodeKey name kind).toList = keyHead name ++ '_' :: '_' :: keyToken kind := by
  have filled : (Text.splitAt (· == '.') name.text.toList).map upper ≠ [] := by
    simpa using Text.splitAt_ne_nil name.text.toList
  have joined : (encodeKey name kind).toList =
      ['_', '_'].intercalate ((Text.splitAt (· == '.') name.text.toList).map upper ++ [keyToken kind]) := by
    unfold encodeKey segments keyToken upper
    rw [String.toList_intercalate]
    simp [Function.comp_def]
  rw [joined]
  unfold keyHead
  generalize (Text.splitAt (· == '.') name.text.toList).map upper = pieces at filled
  induction pieces with
  | nil => exact absurd rfl filled
  | cons piece rest ih =>
      cases rest with
      | nil => simp
      | cons next others =>
          have later := ih (List.cons_ne_nil _ _)
          rw [List.cons_append] at later
          rw [List.cons_append, List.cons_append, List.intercalate_cons_cons, later,
            List.intercalate_cons_cons, List.append_assoc, List.append_assoc, List.append_assoc]

theorem mem_all (kind : Kind) : kind ∈ Kind.all := by
  rcases kind with (_ | w | w | p) | _ | _
  · decide
  · cases w <;> decide
  · cases w <;> decide
  · cases p <;> decide
  · decide
  · decide

theorem keyToken_bare (kind : Kind) : '_' ∉ keyToken kind := by
  have table : ∀ k ∈ Kind.all, '_' ∉ keyToken k := by decide
  exact table kind (mem_all kind)

theorem ofToken_keyToken (kind : Kind) : Kind.ofToken? (String.ofList (keyToken kind)) = some kind := by
  have table : ∀ k ∈ Kind.all, Kind.ofToken? (String.ofList (keyToken k)) = some k := by decide
  exact table kind (mem_all kind)

theorem splitLast_encodeKey (name : RegisterName) (kind : Kind) :
    splitLast? (encodeKey name kind).toList = some (keyHead name, keyToken kind) := by
  rw [encodeKey_toList, splitLast_append _ (keyToken_bare kind)]

theorem dottedName_keyHead (name : RegisterName) : dottedName (keyHead name) = name.text := by
  have sound : ∀ segment ∈ Text.splitAt (· == '.') name.text.toList, Sound segment :=
    fun segment member => name.sound_of_mem member
  have cut : splitPairs (keyHead name) = (Text.splitAt (· == '.') name.text.toList).map upper := by
    apply splitPairs_intercalate
    · simpa using Text.splitAt_ne_nil name.text.toList
    · intro piece member
      obtain ⟨segment, here, rfl⟩ := List.mem_map.mp member
      exact hasDoubleUnderscore_upper (sound segment here).allowed (sound segment here).single
    · intro piece member
      obtain ⟨segment, here, rfl⟩ := List.mem_map.mp member
      exact getLast_upper (sound segment here).allowed (sound segment here).last
  have restored : ((Text.splitAt (· == '.') name.text.toList).map upper).map
      (fun piece => piece.map Char.toLower) = Text.splitAt (· == '.') name.text.toList := by
    rw [List.map_map]
    calc
      _ = (Text.splitAt (· == '.') name.text.toList).map id :=
        List.map_congr_left fun segment member => lower_upper (sound segment member).allowed
      _ = _ := List.map_id _
  unfold dottedName
  rw [cut, restored, Text.intercalate_splitAt, String.ofList_toList]

theorem splitKey_encodeKey (name : RegisterName) (kind : Kind) :
    splitKey (encodeKey name kind) = .ok (name, kind) := by
  unfold splitKey
  rw [splitLast_encodeKey]
  dsimp only
  rw [ofToken_keyToken]
  dsimp only
  rw [dottedName_keyHead, parse_text]

theorem encodeKey_injective {name other : RegisterName} {kind kind' : Kind}
    (same : encodeKey name kind = encodeKey other kind') : name = other ∧ kind = kind' := by
  have first := splitKey_encodeKey name kind
  rw [same, splitKey_encodeKey] at first
  cases first
  exact ⟨rfl, rfl⟩

theorem distinct_keys {registers : List (RegisterName × Value)} (distinct : (registers.map (·.1)).Nodup) :
    ((registers.map fun entry => encode entry.1 entry.2).map (·.1)).Nodup := by
  rw [List.map_map]
  apply List.pairwise_map.mpr
  apply (List.pairwise_map.mp distinct).imp
  intro first second apart same
  exact apart (encodeKey_injective same).1

theorem keyHead_ne_nil (name : RegisterName) : keyHead name ≠ [] := by
  intro empty
  have text := dottedName_keyHead name
  rw [empty] at text
  have faultless := name.faultless
  rw [← text] at faultless
  exact absurd faultless (by decide)

theorem looksLikeAssignment_encodeKey (name : RegisterName) (kind : Kind) :
    looksLikeAssignment (encodeKey name kind) = true := by
  unfold looksLikeAssignment
  rw [splitLast_encodeKey]
  dsimp only
  rw [ofToken_keyToken]
  simpa using keyHead_ne_nil name

end RegisterPlane.Assignment
