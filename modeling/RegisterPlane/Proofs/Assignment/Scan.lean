import RegisterPlane.Proofs.Assignment.Environment
import RegisterPlane.Proofs.Assignment.Grammar

namespace RegisterPlane.Assignment

/-- Assignments in the order of their names, those of one name as they came. -/
structure SortedByName (found sorted : List (RegisterName × Value)) : Prop where
  ascending : sorted.Pairwise fun a b => a.1.text ≤ b.1.text
  steady : ∀ name, (sorted.filter fun entry => entry.1 = name) = found.filter fun entry => entry.1 = name

theorem before_trans (a b c : RegisterName × Value) (first : a.1.le b.1 = true)
    (second : b.1.le c.1 = true) : a.1.le c.1 = true :=
  decide_eq_true (String.le_trans (of_decide_eq_true first) (of_decide_eq_true second))

theorem before_total (a b : RegisterName × Value) : (a.1.le b.1 || b.1.le a.1) = true := by
  rcases String.le_total a.1.text b.1.text with first | second
  · rw [RegisterName.le, decide_eq_true first, Bool.true_or]
  · rw [Bool.or_comm, RegisterName.le, decide_eq_true second, Bool.true_or]

theorem sortedByName_mergeSort (found : List (RegisterName × Value)) :
    SortedByName found (found.mergeSort fun a b => a.1.le b.1) where
  ascending := by
    have sorted := List.pairwise_mergeSort before_trans before_total found
    exact sorted.imp fun before => of_decide_eq_true before
  steady name := by
    have level : (found.filter fun entry => entry.1 = name).Pairwise fun a b => a.1.le b.1 = true := by
      apply List.pairwise_of_forall_mem_list
      intro a first b second
      have names : a.1 = b.1 :=
        (of_decide_eq_true (List.mem_filter.mp first).2).trans
          (of_decide_eq_true (List.mem_filter.mp second).2).symm
      exact decide_eq_true (names ▸ String.le_refl _)
    have kept := List.sublist_mergeSort before_trans before_total level
      List.filter_sublist
    have whole := kept.filter fun entry => entry.1 = name
    rw [List.filter_filter] at whole
    simp only [Bool.and_self] at whole
    exact (whole.eq_of_length ((List.mergeSort_perm found _).filter _).length_eq.symm).symm

theorem SortedByName.perm {found sorted : List (RegisterName × Value)} (done : SortedByName found sorted) :
    sorted.Perm found := by
  rw [List.perm_iff_count]
  intro entry
  have own := congrArg (List.count entry) (done.steady entry.1)
  rwa [List.count_filter (by simp), List.count_filter (by simp)] at own

theorem SortedByName.strictly {found sorted : List (RegisterName × Value)} (done : SortedByName found sorted)
    (distinct : (sorted.map (·.1)).Nodup) : sorted.Pairwise fun a b => a.1.text < b.1.text := by
  apply (done.ascending.and (List.pairwise_map.mp distinct)).imp
  rintro a b ⟨before, apart⟩
  exact Std.lt_of_le_of_ne before fun same => apart (RegisterName.eq_of_text same)

theorem mem_of_filters {as bs : List (RegisterName × Value)}
    (same : ∀ name, (as.filter fun entry => entry.1 = name) = bs.filter fun entry => entry.1 = name)
    {entry : RegisterName × Value} (member : entry ∈ as) : entry ∈ bs := by
  have own : entry ∈ bs.filter fun other => other.1 = entry.1 := by
    rw [← same]
    exact List.mem_filter.mpr ⟨member, decide_eq_true rfl⟩
  exact (List.mem_filter.mp own).1

theorem eq_of_ascending {as bs : List (RegisterName × Value)}
    (rising : as.Pairwise fun a b => a.1.text ≤ b.1.text)
    (rising' : bs.Pairwise fun a b => a.1.text ≤ b.1.text)
    (same : ∀ name, (as.filter fun entry => entry.1 = name) = bs.filter fun entry => entry.1 = name) :
    as = bs := by
  induction as generalizing bs with
  | nil =>
      symm
      apply List.eq_nil_iff_forall_not_mem.mpr
      intro entry member
      exact List.not_mem_nil (mem_of_filters (fun name => (same name).symm) member)
  | cons a as ih =>
      cases bs with
      | nil => exact absurd (mem_of_filters same List.mem_cons_self) List.not_mem_nil
      | cons b bs =>
          obtain ⟨least, later⟩ := List.pairwise_cons.mp rising
          obtain ⟨least', later'⟩ := List.pairwise_cons.mp rising'
          -- each head is somewhere in the other list, so that neither name comes before the other
          have below : a.1.text ≤ b.1.text := by
            rcases List.mem_cons.mp (mem_of_filters (fun name => (same name).symm) List.mem_cons_self)
              with rfl | behind
            · exact String.le_refl _
            · exact least b behind
          have above : b.1.text ≤ a.1.text := by
            rcases List.mem_cons.mp (mem_of_filters same List.mem_cons_self) with rfl | behind
            · exact String.le_refl _
            · exact least' a behind
          have names : b.1 = a.1 := RegisterName.eq_of_text (String.le_antisymm above below)
          have heads := same a.1
          rw [List.filter_cons_of_pos (by simp), List.filter_cons_of_pos (by simp [names])] at heads
          obtain ⟨rfl, -⟩ := List.cons.inj heads
          congr 1
          apply ih later later'
          intro name
          have both := same name
          by_cases here : a.1 = name
          · rw [List.filter_cons_of_pos (by simpa using here),
              List.filter_cons_of_pos (by simpa using here)] at both
            exact (List.cons.inj both).2
          · rwa [List.filter_cons_of_neg (by simpa using here),
              List.filter_cons_of_neg (by simpa using here)] at both

theorem SortedByName.unique {found sorted other : List (RegisterName × Value)}
    (first : SortedByName found sorted) (second : SortedByName found other) : sorted = other :=
  eq_of_ascending first.ascending second.ascending fun name =>
    (first.steady name).trans (second.steady name).symm

theorem SortedByName.eq_of_perm {found other sorted sorted' : List (RegisterName × Value)}
    (first : SortedByName found sorted) (second : SortedByName other sorted')
    (distinct : (found.map Prod.fst).Nodup) (same : found.Perm other) : sorted = sorted' := by
  apply List.Perm.eq_of_pairwise _ first.ascending second.ascending
    (first.perm.trans (same.trans second.perm.symm))
  intro a b member member' below above
  have here : a ∈ found := first.perm.mem_iff.mp member
  have there : b ∈ found := same.mem_iff.mpr (second.perm.mem_iff.mp member')
  exact List.inj_on_of_nodup_map distinct here there
    (RegisterName.eq_of_text (String.le_antisymm below above))

/-- The variables that are meant as assignments. -/
def meant (bindings : List (String × String)) : List (String × String) :=
  bindings.filter fun binding => looksLikeAssignment binding.1

theorem mem_meant {bindings : List (String × String)} {binding : String × String} :
    binding ∈ meant bindings ↔ binding ∈ bindings ∧ looksLikeAssignment binding.1 = true :=
  List.mem_filter

theorem ofEnvironment_eq (bindings : List (String × String)) :
    ofEnvironment bindings =
      (readAll (fun binding : String × String => parse binding.1 binding.2) (meant bindings)).map
        fun found => found.mergeSort fun a b => a.1.le b.1 := by
  change (readAll (fun binding : String × String => parse binding.1 binding.2) (meant bindings) >>=
    fun found => pure (found.mergeSort fun a b => a.1.le b.1)) = _
  cases readAll (fun binding : String × String => parse binding.1 binding.2) (meant bindings) <;> rfl

theorem ofEnvironment_eq_ok_iff {bindings : List (String × String)} {found : List (RegisterName × Value)} :
    ofEnvironment bindings = .ok found ↔
      ∃ decoded, List.Forall₂ (fun binding named => parse binding.1 binding.2 = .ok named)
        (meant bindings) decoded ∧ SortedByName decoded found := by
  rw [ofEnvironment_eq]
  constructor
  · intro done
    obtain ⟨decoded, read, rfl⟩ := ok_of_map done
    exact ⟨decoded, readAll_eq_ok_iff.mp read, sortedByName_mergeSort decoded⟩
  · rintro ⟨decoded, each, sorted⟩
    rw [readAll_eq_ok_iff.mpr each, ← (sortedByName_mergeSort decoded).unique sorted]
    rfl

theorem ofEnvironment_ascending {bindings : List (String × String)} {decoded : List (RegisterName × Value)}
    (read : readAll (fun binding : String × String => parse binding.1 binding.2) (meant bindings) = .ok decoded)
    (ascending : decoded.Pairwise fun a b => a.1.le b.1 = true) :
    ofEnvironment bindings = .ok decoded := by
  rw [ofEnvironment_eq, read, Except.map, List.mergeSort_of_pairwise ascending]

theorem exists_ofEnvironment_iff {bindings : List (String × String)} :
    (∃ found, ofEnvironment bindings = .ok found) ↔
      ∀ binding ∈ bindings, looksLikeAssignment binding.1 = true →
        ∃ named, parse binding.1 binding.2 = .ok named := by
  have read : (∃ decoded, readAll (fun binding : String × String => parse binding.1 binding.2)
      (meant bindings) = .ok decoded) ↔ _ := exists_readAll_iff
  simp only [mem_meant, and_imp] at read
  rw [← read, ofEnvironment_eq]
  constructor
  · rintro ⟨found, done⟩
    obtain ⟨decoded, here, -⟩ := ok_of_map done
    exact ⟨decoded, here⟩
  · rintro ⟨decoded, here⟩
    exact ⟨_, by rw [here]; rfl⟩

theorem ofEnvironment_eq_error_iff {bindings : List (String × String)} {error : RegisterError} :
    ofEnvironment bindings = .error error ↔
      ∃ front binding back, bindings = front ++ binding :: back ∧
        (∀ other ∈ front, looksLikeAssignment other.1 = true → ∃ named, parse other.1 other.2 = .ok named) ∧
        looksLikeAssignment binding.1 = true ∧ parse binding.1 binding.2 = .error error := by
  have passed : ofEnvironment bindings = .error error ↔
      readAll (fun binding : String × String => parse binding.1 binding.2) (meant bindings) =
        .error error := by
    rw [ofEnvironment_eq]
    cases readAll (fun binding : String × String => parse binding.1 binding.2) (meant bindings) with
    | error e => exact Iff.rfl
    | ok found => simp [Except.map]
  rw [passed, readAll_eq_error_iff]
  constructor
  · rintro ⟨front', binding, back', cut, fine, refused⟩
    obtain ⟨front, rest, rfl, kept, first⟩ := List.filter_eq_append_iff.mp cut
    obtain ⟨idle, back, rfl, unmeant, looks, -⟩ := List.filter_eq_cons_iff.mp first
    refine ⟨front ++ idle, binding, back, (List.append_assoc ..).symm, ?_, looks, refused⟩
    intro other member looks'
    rcases List.mem_append.mp member with early | late
    · apply fine
      rw [← kept]
      exact List.mem_filter.mpr ⟨early, looks'⟩
    · exact absurd looks' (unmeant other late)
  · rintro ⟨front, binding, back, rfl, fine, looks, refused⟩
    refine ⟨meant front, binding, meant back, ?_, ?_, refused⟩
    · unfold meant
      rw [List.filter_append, List.filter_cons_of_pos (by exact looks)]
    · intro other member
      obtain ⟨here, looks'⟩ := mem_meant.mp member
      exact fine other here looks'

theorem looksLikeAssignment_of_parse {key text : String} {named : RegisterName × Value}
    (parsed : parse key text = .ok named) : looksLikeAssignment key = true := by
  obtain ⟨name, value⟩ := named
  obtain ⟨⟨name', kind⟩, split, -⟩ := ok_of_bind parsed
  obtain ⟨segments, spelled, -⟩ := spelled_of_splitKey (ok_of_mapError split)
  exact looksLikeAssignment_of_spelled spelled

def textsFor (name : RegisterName) (bindings : List (String × String)) : List String :=
  (bindings.filter fun binding => splitKey binding.1 = .ok (name, .string)).map (·.2)

theorem parse_string_iff {key text written : String} {name : RegisterName} :
    parse key text = .ok (name, .string written) ↔
      splitKey key = .ok (name, .string) ∧ text = written := by
  constructor
  · intro parsed
    obtain ⟨⟨name', kind⟩, split, parsed⟩ := ok_of_bind parsed
    obtain ⟨value, decoded, same⟩ := ok_of_bind parsed
    cases same
    have denotes := ok_of_mapError decoded
    cases kind_of_decodeText denotes
    cases denotes
    exact ⟨ok_of_mapError split, rfl⟩
  · rintro ⟨split, rfl⟩
    rw [parse, split]
    rfl

theorem textsFor_meant (name : RegisterName) (bindings : List (String × String)) :
    textsFor name (meant bindings) = textsFor name bindings := by
  unfold textsFor meant
  rw [List.filter_filter]
  congr 2
  funext binding
  by_cases assigns : splitKey binding.1 = .ok (name, .string)
  · have parsed : parse binding.1 binding.2 = .ok (name, .string binding.2) :=
      parse_string_iff.mpr ⟨assigns, rfl⟩
    rw [looksLikeAssignment_of_parse parsed, Bool.and_true]
  · rw [decide_eq_false assigns, Bool.false_and]

theorem filter_decoded {name : RegisterName} {bindings : List (String × String)}
    {decoded : List (RegisterName × Value)}
    (each : List.Forall₂ (fun binding named => parse binding.1 binding.2 = .ok named) bindings decoded)
    (texts : ∀ value, (name, value) ∈ decoded → ∃ text, value = .string text) :
    (decoded.filter fun named => named.1 = name) =
      (textsFor name bindings).map fun text => (name, .string text) := by
  unfold textsFor
  induction each with
  | nil => rfl
  | @cons binding named bindings decoded first _ ih =>
      have later := ih fun value member => texts value (List.mem_cons_of_mem _ member)
      obtain ⟨name', value⟩ := named
      by_cases here : name' = name
      · subst here
        obtain ⟨text, rfl⟩ := texts value List.mem_cons_self
        obtain ⟨assigns, rfl⟩ := parse_string_iff.mp first
        rw [List.filter_cons_of_pos (by simp), List.filter_cons_of_pos (by simpa using assigns), later]
        rfl
      · have other : ¬splitKey binding.1 = .ok (name, .string) := by
          intro assigns
          rw [parse_string_iff.mpr ⟨assigns, rfl⟩] at first
          cases first
          exact here rfl
        rw [List.filter_cons_of_neg (by simpa using here), List.filter_cons_of_neg (by simpa using other),
          later]

theorem filter_ofEnvironment {name : RegisterName} {bindings : List (String × String)}
    {found : List (RegisterName × Value)} (scanned : ofEnvironment bindings = .ok found)
    (texts : ∀ value, (name, value) ∈ found → ∃ text, value = .string text) :
    (found.filter fun named => named.1 = name) =
      (textsFor name bindings).map fun text => (name, .string text) := by
  obtain ⟨decoded, each, sorted⟩ := ofEnvironment_eq_ok_iff.mp scanned
  rw [sorted.steady, ← textsFor_meant]
  exact filter_decoded each fun value member => texts value (sorted.perm.mem_iff.mpr member)

/-- The variables whose names are told apart, as far as they are decoded. -/
def Distinct (bindings : List (String × String)) : Prop :=
  bindings.Pairwise fun first second => ∀ named named',
    parse first.1 first.2 = .ok named → parse second.1 second.2 = .ok named' → named.1 ≠ named'.1

theorem Distinct.nodup {bindings : List (String × String)} (distinct : Distinct (meant bindings))
    {decoded : List (RegisterName × Value)}
    (each : List.Forall₂ (fun binding named => parse binding.1 binding.2 = .ok named)
      (meant bindings) decoded) : (decoded.map Prod.fst).Nodup := by
  generalize meant bindings = found at distinct each
  induction each with
  | nil => exact List.nodup_nil
  | @cons binding named found decoded first later ih =>
      obtain ⟨other, others⟩ := List.pairwise_cons.mp distinct
      refine List.nodup_cons.mpr ⟨?_, ih others⟩
      intro member
      obtain ⟨named', inside, same⟩ := List.mem_map.mp member
      obtain ⟨binding', here, parsed⟩ := forall₂_mem_right later inside
      exact other binding' here named named' first parsed same.symm

theorem ofEnvironment_perm {bindings others : List (String × String)} (same : bindings.Perm others)
    (distinct : Distinct (meant bindings)) {found : List (RegisterName × Value)}
    (scanned : ofEnvironment bindings = .ok found) : ofEnvironment others = .ok found := by
  obtain ⟨decoded, each, sorted⟩ := ofEnvironment_eq_ok_iff.mp scanned
  have kept : (meant bindings).Perm (meant others) := same.filter _
  obtain ⟨decoded', read', perm⟩ := readAll_perm kept (readAll_eq_ok_iff.mpr each)
  have level := sorted.eq_of_perm (sortedByName_mergeSort decoded') (distinct.nodup each) perm.symm
  exact ofEnvironment_eq_ok_iff.mpr
    ⟨decoded', readAll_eq_ok_iff.mp read', level ▸ sortedByName_mergeSort decoded'⟩

theorem ofEnvironment_perm_error {bindings others : List (String × String)} (same : bindings.Perm others)
    {error : RegisterError} (refused : ofEnvironment bindings = .error error)
    (alone : ∀ binding ∈ bindings, looksLikeAssignment binding.1 = true → ∀ other,
      parse binding.1 binding.2 = .error other → other = error) :
    ofEnvironment others = .error error := by
  cases scanned : ofEnvironment others with
  | ok found =>
      have fine := exists_ofEnvironment_iff.mp ⟨found, scanned⟩
      obtain ⟨found', scanned'⟩ := exists_ofEnvironment_iff.mpr fun binding member =>
        fine binding (same.mem_iff.mp member)
      rw [scanned'] at refused
      cases refused
  | error other =>
      obtain ⟨front, binding, back, cut, -, looks, failed⟩ := ofEnvironment_eq_error_iff.mp scanned
      have member : binding ∈ bindings := by
        rw [same.mem_iff, cut]
        exact List.mem_append_right _ List.mem_cons_self
      rw [alone binding member looks other failed]

/-- A scan succeeds exactly if every variable that is meant as an assignment is decoded. It finds what they
are decoded to, in the order of names and for one name in the order of the variables; or it reports the first
that is not decoded. Nothing that could be decoded is passed over, variables that are not meant make no
difference, and neither does the order of the variables where their names differ. -/
theorem environment_scanned (bindings : List (String × String)) :
    ((∃ found, ofEnvironment bindings = .ok found) ↔
      ∀ binding ∈ bindings, looksLikeAssignment binding.1 = true →
        ∃ named, parse binding.1 binding.2 = .ok named) ∧
    (∀ found, ofEnvironment bindings = .ok found ↔
      ∃ decoded, List.Forall₂ (fun binding named => parse binding.1 binding.2 = .ok named)
        (meant bindings) decoded ∧ SortedByName decoded found) ∧
    (∀ error, ofEnvironment bindings = .error error ↔
      ∃ front binding back, bindings = front ++ binding :: back ∧
        (∀ other ∈ front, looksLikeAssignment other.1 = true → ∃ named, parse other.1 other.2 = .ok named) ∧
        looksLikeAssignment binding.1 = true ∧ parse binding.1 binding.2 = .error error) ∧
    (∀ binding named, parse binding.1 binding.2 = .ok named → looksLikeAssignment binding.1 = true ∧
      (binding ∈ bindings → ∀ found, ofEnvironment bindings = .ok found → named ∈ found)) ∧
    (∀ front idle back, bindings = front ++ idle ++ back →
      (∀ binding ∈ idle, looksLikeAssignment binding.1 = false) →
        ofEnvironment bindings = ofEnvironment (front ++ back)) ∧
    ∀ others, bindings.Perm others →
      (∀ found, Distinct (meant bindings) → ofEnvironment bindings = .ok found →
        ofEnvironment others = .ok found) ∧
      ∀ error, (∀ binding ∈ bindings, looksLikeAssignment binding.1 = true → ∀ other,
          parse binding.1 binding.2 = .error other → other = error) →
        ofEnvironment bindings = .error error → ofEnvironment others = .error error := by
  refine ⟨exists_ofEnvironment_iff, fun found => ofEnvironment_eq_ok_iff,
    fun error => ofEnvironment_eq_error_iff, ?_, ?_, ?_⟩
  · intro binding named parsed
    have looks := looksLikeAssignment_of_parse parsed
    refine ⟨looks, fun member found scanned => ?_⟩
    obtain ⟨decoded, each, sorted⟩ := ofEnvironment_eq_ok_iff.mp scanned
    obtain ⟨named', here, parsed'⟩ := forall₂_mem_left each (mem_meant.mpr ⟨member, looks⟩)
    rw [parsed] at parsed'
    cases parsed'
    exact sorted.perm.mem_iff.mpr here
  · rintro front idle back rfl unmeant
    have none : meant idle = [] := by
      apply List.filter_eq_nil_iff.mpr
      intro binding member
      rw [unmeant binding member]
      decide
    have rest : meant (front ++ idle ++ back) = meant (front ++ back) := by
      unfold meant at none ⊢
      rw [List.filter_append, List.filter_append, none, List.append_nil, ← List.filter_append]
    rw [ofEnvironment_eq, ofEnvironment_eq, rest]
  · exact fun others same => ⟨fun found distinct scanned => ofEnvironment_perm same distinct scanned,
      fun error alone refused => ofEnvironment_perm_error same refused alone⟩

example : ofEnvironment [("PATH", "/bin"), ("PUMP__LEVEL__BIT", "yes"), ("PUMP__ALARM__BIT", "no")] =
    .error (.invalidAssignment "PUMP__LEVEL__BIT" "'yes' is not a bit") := by
  decide +kernel

end RegisterPlane.Assignment
