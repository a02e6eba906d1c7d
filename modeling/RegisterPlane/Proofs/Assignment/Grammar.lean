import RegisterPlane.Proofs.Assignment.Key
import RegisterPlane.Proofs.Outcome
import RegisterPlane.Proofs.Register.Grammar

namespace RegisterPlane.Assignment

open RegisterName

def lower (cs : List Char) : List Char := cs.map Char.toLower

inductive IsToken : Kind → List Char → Prop
  | own {kind : Kind} {token : List Char} (same : lower token = kind.token.toList) : IsToken kind token
  | boolean {token : List Char} (same : lower token = "boolean".toList) : IsToken (.array .bit) token

/-- Segments in a row, with a dot or a double underscore between one and the next. -/
inductive Separated : List Char → List (List Char) → Prop
  | last {segment : List Char} (grammatical : IsSegment segment) : Separated segment [segment]
  | dot {segment rest : List Char} {segments : List (List Char)} (grammatical : IsSegment segment)
      (later : Separated rest segments) : Separated (segment ++ '.' :: rest) (segment :: segments)
  | pair {segment rest : List Char} {segments : List (List Char)} (grammatical : IsSegment segment)
      (later : Separated rest segments) :
      Separated (segment ++ '_' :: '_' :: rest) (segment :: segments)

def IsSpelled (key : String) (segments : List (List Char)) (kind : Kind) : Prop :=
  ∃ head token, key.toList = head ++ '_' :: '_' :: token ∧ Separated (lower head) segments ∧
    IsToken kind token

theorem toLower_eq_underscore {c : Char} : c.toLower = '_' ↔ c = '_' := by
  have table : ∀ n : Fin 128, (Char.ofNat n.val).toLower = '_' ↔ Char.ofNat n.val = '_' := by decide
  by_cases ascii : c.toNat < 128
  · have here := table ⟨c.toNat, ascii⟩
    rwa [Char.ofNat_toNat] at here
  · have still : c.toLower = c := by
      unfold Char.toLower
      rw [dif_neg]
      rintro ⟨-, most⟩
      have most' : c.toNat ≤ 90 := most
      omega
    rw [still]

theorem ofExactToken_iff (kind : Kind) (token : String) :
    Kind.ofExactToken? token = some kind ↔ token = kind.token := by
  constructor
  · intro found
    have holds := List.find?_some (show Kind.all.find? (·.token == token) = some kind from found)
    exact (beq_iff_eq.mp holds).symm
  · rintro rfl
    have table : ∀ k ∈ Kind.all, Kind.ofExactToken? k.token = some k := by decide
    exact table kind (mem_all kind)

theorem ofToken_iff (kind : Kind) (token : List Char) :
    Kind.ofToken? (String.ofList token) = some kind ↔ IsToken kind token := by
  have other : ∀ k ∈ Kind.all, k.token ≠ "boolean" := by decide
  unfold Kind.ofToken?
  rw [String.toList_ofList]
  change (if String.ofList (lower token) = "boolean" then _ else
    Kind.ofExactToken? (String.ofList (lower token))) = _ ↔ _
  by_cases second : String.ofList (lower token) = "boolean"
  · rw [if_pos second]
    have spelled : lower token = "boolean".toList := by rw [← second, String.toList_ofList]
    constructor
    · intro same
      cases same
      exact .boolean spelled
    · intro isToken
      cases isToken with
      | own same =>
          rw [same, String.ofList_toList] at second
          exact absurd second (other kind (mem_all kind))
      | boolean => rfl
  · rw [if_neg second, ofExactToken_iff]
    constructor
    · intro same
      exact .own (by rw [← same, String.toList_ofList])
    · intro isToken
      cases isToken with
      | own same => rw [same, String.ofList_toList]
      | boolean same => exact absurd (by rw [same, String.ofList_toList]) second

theorem bare_of_isToken {kind : Kind} {token : List Char} (isToken : IsToken kind token) :
    '_' ∉ token := by
  have table : ∀ k ∈ Kind.all, '_' ∉ k.token.toList := by decide
  intro member
  have lowered : '_' ∈ lower token := List.mem_map.mpr ⟨'_', member, rfl⟩
  cases isToken with
  | own same =>
      rw [same] at lowered
      exact table kind (mem_all kind) lowered
  | boolean same =>
      rw [same] at lowered
      exact absurd lowered (by decide)

theorem splitLast_parts {cs head last : List Char} (found : splitLast? cs = some (head, last)) :
    cs = head ++ '_' :: '_' :: last := by
  induction cs generalizing head with
  | nil => cases found
  | cons c rest ih =>
      rw [splitLast?.eq_def] at found
      split at found
      · rename_i others same
        obtain ⟨rfl, rfl⟩ := List.cons.inj same
        split at found
        · rename_i head' last' deeper
          cases found
          rw [ih deeper]
          rfl
        · cases found
          rfl
      · rename_i d ds _ same
        obtain ⟨rfl, rfl⟩ := List.cons.inj same
        obtain ⟨⟨head', last'⟩, deeper, same⟩ := Option.map_eq_some_iff.mp found
        cases same
        rw [ih deeper]
        rfl
      · rename_i same
        cases same

def dotted (cs : List Char) : List Char := ['.'].intercalate (splitPairs cs)

theorem splitPairs_ne_nil (cs : List Char) : splitPairs cs ≠ [] := by
  rw [splitPairs.eq_def]
  split
  · exact List.cons_ne_nil _ _
  · split <;> exact List.cons_ne_nil _ _
  · exact List.cons_ne_nil _ _

theorem splitPairs_lower (cs : List Char) : splitPairs (lower cs) = (splitPairs cs).map lower := by
  fun_induction splitPairs cs with
  | case1 cs ih =>
      change splitPairs ('_' :: '_' :: lower cs) = _
      rw [splitPairs, ih]
      rfl
  | case2 c cs apart none ih => exact absurd none (splitPairs_ne_nil cs)
  | case3 c cs apart piece pieces cut ih =>
      apply splitPairs_cons
      · rintro rest ⟨first, second⟩
        obtain ⟨d, ds, rfl, second', -⟩ := List.map_eq_cons_iff.mp second
        rw [toLower_eq_underscore] at first second'
        exact apart ds first (by rw [second'])
      · rw [← lower, ih, cut]
        rfl
  | case4 => rfl

theorem dottedName_eq (head : List Char) : dottedName head = String.ofList (dotted (lower head)) := by
  unfold dottedName dotted
  rw [splitPairs_lower]
  rfl

theorem intercalate_splitPairs (cs : List Char) : ['_', '_'].intercalate (splitPairs cs) = cs := by
  fun_induction splitPairs cs with
  | case1 cs ih =>
      cases cut : splitPairs cs with
      | nil => exact absurd cut (splitPairs_ne_nil cs)
      | cons piece pieces =>
          rw [cut] at ih
          rw [List.intercalate_cons_cons, ih]
          rfl
  | case2 c cs apart none ih => exact absurd none (splitPairs_ne_nil cs)
  | case3 c cs apart piece pieces cut ih =>
      rw [cut] at ih
      rw [List.intercalate_cons_cons_left, ih]
  | case4 => rfl

theorem dotted_segment {segment : List Char} (grammatical : IsSegment segment) :
    dotted segment = segment := by
  unfold dotted
  rw [splitPairs_single (sound_of_isSegment grammatical).single, List.intercalate_singleton]

theorem dotted_pair {segment : List Char} (grammatical : IsSegment segment) (rest : List Char) :
    dotted (segment ++ '_' :: '_' :: rest) = segment ++ '.' :: dotted rest := by
  have sound := sound_of_isSegment grammatical
  unfold dotted
  rw [splitPairs_append sound.single sound.last]
  cases cut : splitPairs rest with
  | nil => exact absurd cut (splitPairs_ne_nil rest)
  | cons piece pieces => rw [List.intercalate_cons_cons, List.append_assoc, List.singleton_append]

theorem splitPairs_dot {front : List Char} (single : hasDoubleUnderscore front = false)
    {rest piece : List Char} {pieces : List (List Char)} (cut : splitPairs rest = piece :: pieces) :
    splitPairs (front ++ '.' :: rest) = (front ++ '.' :: piece) :: pieces := by
  induction front with
  | nil =>
      apply splitPairs_cons _ cut
      rintro others ⟨first, -⟩
      exact absurd first (by decide)
  | cons c cs ih =>
      apply splitPairs_cons _ (ih (hasDoubleUnderscore_tail single))
      rintro others ⟨first, second⟩
      cases cs with
      | nil => exact absurd (List.cons.inj second).1 (by decide)
      | cons d ds => exact not_pair single ⟨first, (List.cons.inj second).1⟩

theorem dotted_dot {segment : List Char} (grammatical : IsSegment segment) (rest : List Char) :
    dotted (segment ++ '.' :: rest) = segment ++ '.' :: dotted rest := by
  unfold dotted
  cases cut : splitPairs rest with
  | nil => exact absurd cut (splitPairs_ne_nil rest)
  | cons piece pieces =>
      rw [splitPairs_dot (sound_of_isSegment grammatical).single cut]
      cases pieces with
      | nil => rw [List.intercalate_singleton, List.intercalate_singleton]
      | cons next others =>
          rw [List.intercalate_cons_cons, List.intercalate_cons_cons, List.append_assoc, List.append_assoc,
            List.append_assoc, List.cons_append]

variable {cs : List Char} {segments : List (List Char)}

theorem Separated.ne_nil (separated : Separated cs segments) : segments ≠ [] := by
  cases separated <;> exact List.cons_ne_nil _ _

theorem Separated.filled (separated : Separated cs segments) : cs ≠ [] := by
  cases separated with
  | last grammatical => exact (sound_of_isSegment grammatical).filled
  | dot grammatical later => simp
  | pair grammatical later => simp

theorem Separated.grammatical (separated : Separated cs segments) :
    ∀ segment ∈ segments, IsSegment segment := by
  induction separated with
  | last grammatical => simpa using grammatical
  | dot grammatical later ih => exact List.forall_mem_cons.mpr ⟨grammatical, ih⟩
  | pair grammatical later ih => exact List.forall_mem_cons.mpr ⟨grammatical, ih⟩

theorem intercalate_cons {segment : List Char} (filled : segments ≠ []) :
    ['.'].intercalate (segment :: segments) = segment ++ '.' :: ['.'].intercalate segments := by
  cases segments with
  | nil => exact absurd rfl filled
  | cons next others => rw [List.intercalate_cons_cons, List.append_assoc, List.singleton_append]

theorem dotted_of_separated (separated : Separated cs segments) :
    dotted cs = ['.'].intercalate segments := by
  induction separated with
  | last grammatical => rw [dotted_segment grammatical, List.intercalate_singleton]
  | dot grammatical later ih => rw [dotted_dot grammatical, ih, intercalate_cons later.ne_nil]
  | pair grammatical later ih => rw [dotted_pair grammatical, ih, intercalate_cons later.ne_nil]

theorem Separated.append {rest : List Char} {others : List (List Char)} (first : Separated cs segments)
    (second : Separated rest others) : Separated (cs ++ '_' :: '_' :: rest) (segments ++ others) := by
  induction first with
  | last grammatical => exact .pair grammatical second
  | dot grammatical later ih =>
      rw [List.append_assoc]
      exact .dot grammatical ih
  | pair grammatical later ih =>
      rw [List.append_assoc]
      exact .pair grammatical ih

theorem separated_dots (filled : segments ≠ []) (grammatical : ∀ segment ∈ segments, IsSegment segment) :
    Separated (['.'].intercalate segments) segments := by
  induction segments with
  | nil => exact absurd rfl filled
  | cons segment rest ih =>
      obtain ⟨first, later⟩ := List.forall_mem_cons.mp grammatical
      cases rest with
      | nil =>
          rw [List.intercalate_singleton]
          exact .last first
      | cons next others =>
          rw [intercalate_cons (List.cons_ne_nil _ _)]
          exact .dot first (ih (List.cons_ne_nil _ _) later)

theorem splitAt_intercalate_pieces {pieces : List (List Char)} (filled : pieces ≠ []) :
    Text.splitAt (· == '.') (['.'].intercalate pieces) = pieces.flatMap (Text.splitAt (· == '.')) := by
  induction pieces with
  | nil => exact absurd rfl filled
  | cons piece rest ih =>
      cases rest with
      | nil => simp
      | cons next others =>
          rw [List.flatMap_cons, intercalate_cons (List.cons_ne_nil _ _), Text.splitAt_joined (by rfl),
            ih (List.cons_ne_nil _ _)]

theorem separated_pairs {pieces : List (List Char)} (filled : pieces ≠ [])
    (each : ∀ piece ∈ pieces, Separated piece (Text.splitAt (· == '.') piece)) :
    Separated (['_', '_'].intercalate pieces) (pieces.flatMap (Text.splitAt (· == '.'))) := by
  induction pieces with
  | nil => exact absurd rfl filled
  | cons piece rest ih =>
      obtain ⟨first, later⟩ := List.forall_mem_cons.mp each
      cases rest with
      | nil => simpa using first
      | cons next others =>
          rw [List.intercalate_cons_cons, List.append_assoc, List.flatMap_cons]
          exact first.append (ih (List.cons_ne_nil _ _) later)

theorem separated_of_grammatical
    (grammatical : ∀ segment ∈ Text.splitAt (· == '.') (dotted cs), IsSegment segment) :
    Separated cs (Text.splitAt (· == '.') (dotted cs)) := by
  have filled := splitPairs_ne_nil cs
  have cut : Text.splitAt (· == '.') (dotted cs) = (splitPairs cs).flatMap (Text.splitAt (· == '.')) :=
    splitAt_intercalate_pieces filled
  rw [cut] at grammatical ⊢
  -- between two double underscores only dots separate
  have each : ∀ piece ∈ splitPairs cs, Separated piece (Text.splitAt (· == '.') piece) := by
    intro piece member
    have separated := separated_dots (Text.splitAt_ne_nil piece) fun segment inside =>
      grammatical segment (List.mem_flatMap.mpr ⟨piece, member, inside⟩)
    rwa [Text.intercalate_splitAt] at separated
  have separated := separated_pairs filled each
  rwa [intercalate_splitPairs] at separated

theorem text_of_parse? {raw : String} {name : RegisterName} (parsed : parse? raw = some name) :
    name.text = raw := by
  unfold parse? at parsed
  split at parsed
  · cases parsed
    rfl
  · cases parsed

theorem splitKey_of_spelled {key : String} {kind : Kind} (spelled : IsSpelled key segments kind) :
    ∃ name : RegisterName, name.text.toList = ['.'].intercalate segments ∧
      splitKey key = .ok (name, kind) := by
  obtain ⟨head, token, parts, separated, isToken⟩ := spelled
  have faultless : fault? (String.ofList (['.'].intercalate segments)) = none :=
    (fault_eq_none_iff _).mpr ⟨segments, separated.ne_nil, separated.grammatical, String.toList_ofList⟩
  refine ⟨⟨_, faultless⟩, String.toList_ofList, ?_⟩
  have named : dottedName head = String.ofList (['.'].intercalate segments) := by
    rw [dottedName_eq, dotted_of_separated separated]
  unfold splitKey
  rw [parts, splitLast_append head (bare_of_isToken isToken)]
  dsimp only
  rw [(ofToken_iff kind token).mpr isToken]
  dsimp only
  rw [named, parse?, dif_pos faultless]

theorem spelled_of_splitKey {key : String} {name : RegisterName} {kind : Kind}
    (split : splitKey key = .ok (name, kind)) :
    ∃ segments, IsSpelled key segments kind ∧ name.text.toList = ['.'].intercalate segments := by
  unfold splitKey at split
  split at split
  · cases split
  · rename_i head token parts
    split at split
    · cases split
    · rename_i kind' found
      split at split
      · cases split
      · rename_i name' parsed
        cases split
        have text := text_of_parse? parsed
        rw [dottedName_eq] at text
        have spelled : name.text.toList = dotted (lower head) := by rw [text, String.toList_ofList]
        have grammatical : ∀ segment ∈ Text.splitAt (· == '.') name.text.toList, IsSegment segment :=
          fun segment member => isSegment_of_sound (name.sound_of_mem member)
        rw [spelled] at grammatical
        refine ⟨_, ⟨head, token, splitLast_parts parts, separated_of_grammatical grammatical,
          (ofToken_iff kind token).mp found⟩, ?_⟩
        rw [spelled, Text.intercalate_splitAt]

theorem splitKey_iff (key : String) (name : RegisterName) (kind : Kind) :
    splitKey key = .ok (name, kind) ↔
      ∃ segments, IsSpelled key segments kind ∧ name.text.toList = ['.'].intercalate segments := by
  constructor
  · exact spelled_of_splitKey
  · rintro ⟨segments, spelled, text⟩
    obtain ⟨other, text', split⟩ := splitKey_of_spelled spelled
    have same : other = name := eq_of_text (String.toList_inj.mp (text'.trans text.symm))
    rwa [same] at split

theorem looksLikeAssignment_of_spelled {key : String} {kind : Kind} (spelled : IsSpelled key segments kind) :
    looksLikeAssignment key = true := by
  obtain ⟨head, token, parts, separated, isToken⟩ := spelled
  have filled : head ≠ [] := by
    rintro rfl
    exact separated.filled rfl
  unfold looksLikeAssignment
  rw [parts, splitLast_append head (bare_of_isToken isToken)]
  dsimp only
  rw [(ofToken_iff kind token).mpr isToken]
  simpa using filled

theorem parse_cases (key text : String) :
    (∃ fault, splitKey key = .error fault ∧ parse key text = .error (.invalidAssignment key fault.message)) ∨
      ∃ name kind, splitKey key = .ok (name, kind) ∧
        parse key text = (match decodeText kind text with
          | .ok value => .ok (name, value)
          | .error fault => .error (.invalidAssignment key fault.message)) := by
  unfold parse valueOfText
  cases split : splitKey key with
  | error fault => exact Or.inl ⟨fault, rfl, rfl⟩
  | ok named =>
      obtain ⟨name, kind⟩ := named
      refine Or.inr ⟨name, kind, rfl, ?_⟩
      change ((decodeText kind text).mapError
        (fun fault => RegisterError.invalidAssignment key fault.message) >>=
          fun value => pure (name, value)) = _
      cases decodeText kind text <;> rfl

/-- A key is taken exactly if it is spelled as segments and the token of a kind. Then it is meant as an
assignment, its name is the segments with dots between them, and an assignment to it is taken exactly if
the text is a value of the kind. Every other assignment is refused as invalid. -/
theorem key_grammar (key : String) :
    (∀ kind, (∃ name, splitKey key = .ok (name, kind)) ↔ ∃ segments, IsSpelled key segments kind) ∧
    (∀ name kind, splitKey key = .ok (name, kind) ↔
      ∃ segments, IsSpelled key segments kind ∧ name.text.toList = ['.'].intercalate segments) ∧
    (∀ segments kind, IsSpelled key segments kind → looksLikeAssignment key = true) ∧
    ∀ text,
      (∀ name value, parse key text = .ok (name, value) ↔
        ∃ kind, splitKey key = .ok (name, kind) ∧ decodeText kind text = .ok value) ∧
      ((∃ named, parse key text = .ok named) ∨
        ∃ reason, parse key text = .error (.invalidAssignment key reason)) := by
  refine ⟨fun kind => ⟨?_, ?_⟩, splitKey_iff key, fun segments kind => looksLikeAssignment_of_spelled,
    fun text => ?_⟩
  · rintro ⟨name, split⟩
    obtain ⟨segments, spelled, -⟩ := spelled_of_splitKey split
    exact ⟨segments, spelled⟩
  · rintro ⟨segments, spelled⟩
    obtain ⟨name, -, split⟩ := splitKey_of_spelled spelled
    exact ⟨name, split⟩
  · rcases parse_cases key text with ⟨fault, split, refused⟩ | ⟨name, kind, split, outcome⟩
    · rw [refused, split]
      exact ⟨by simp, Or.inr ⟨_, rfl⟩⟩
    · rw [outcome, split]
      cases decoded : decodeText kind text with
      | ok value => exact ⟨by simp [decoded, eq_comm], Or.inl ⟨_, rfl⟩⟩
      | error fault => exact ⟨by simp [decoded], Or.inr ⟨_, rfl⟩⟩

example : (splitKey "Sump.Level__alarm_2__Boolean").toOption.map (fun (name, kind) => (name.text, kind)) =
      some ("sump.level.alarm_2", .array .bit) ∧
    splitKey "SUMP___LEVEL__BIT" = .error (.badName "sump._level") := by
  decide

end RegisterPlane.Assignment
