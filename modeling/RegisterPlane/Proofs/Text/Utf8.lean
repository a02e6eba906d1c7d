import Mathlib.Tactic
import RegisterPlane.Proofs.Text.Character
import RegisterPlane.Text.Utf8

/-! Octets read as text, whether they are UTF-8 or not. Decoding is set against the octets of characters:
where those of a character stand it is read, and where none stands the longest beginning of one is
replaced. -/

namespace RegisterPlane.Text.Utf8

open String (utf8EncodeChar)

/-! The octets of one character. -/

inductive Octets (n : Nat) : List UInt8 → Prop
  | one {a : UInt8} (most : n < 0x80) (first : a.toNat = n) : Octets n [a]
  | two {a b : UInt8} (least : 0x80 ≤ n) (most : n < 0x800) (first : a.toNat = 0xC0 + n / 64)
      (second : b.toNat = 0x80 + n % 64) : Octets n [a, b]
  | three {a b c : UInt8} (least : 0x800 ≤ n) (most : n < 0x10000) (first : a.toNat = 0xE0 + n / 4096)
      (second : b.toNat = 0x80 + n / 64 % 64) (third : c.toNat = 0x80 + n % 64) : Octets n [a, b, c]
  | four {a b c d : UInt8} (least : 0x10000 ≤ n) (first : a.toNat = 0xF0 + n / 262144)
      (second : b.toNat = 0x80 + n / 4096 % 64) (third : c.toNat = 0x80 + n / 64 % 64)
      (fourth : d.toNat = 0x80 + n % 64) : Octets n [a, b, c, d]

theorem code_bounds (c : Char) : c.toNat < 0xD800 ∨ 0xDFFF < c.toNat ∧ c.toNat < 0x110000 := c.valid

theorem octets_encodeChar (c : Char) : Octets c.toNat (utf8EncodeChar c) := by
  have bounds := code_bounds c
  have code : c.val.toNat = c.toNat := rfl
  unfold utf8EncodeChar
  rw [code]
  dsimp only
  split
  · apply Octets.one (by omega)
    rw [UInt8.toNat_ofNat']
    omega
  · split
    · apply Octets.two (by omega) (by omega) <;> rw [UInt8.toNat_ofNat'] <;> omega
    · split
      · apply Octets.three (by omega) (by omega) <;> rw [UInt8.toNat_ofNat'] <;> omega
      · apply Octets.four (by omega) <;> rw [UInt8.toNat_ofNat'] <;> omega

theorem Octets.unique {n : Nat} {octets octets' : List UInt8} (spelled : Octets n octets)
    (spelled' : Octets n octets') : octets = octets' := by
  cases spelled <;> cases spelled' <;>
    first
    | omega
    | simp only [List.cons.injEq, ← UInt8.toNat_inj, *, and_self]

theorem encodeChar_iff (c : Char) (octets : List UInt8) :
    utf8EncodeChar c = octets ↔ Octets c.toNat octets := by
  constructor
  · rintro rfl
    exact octets_encodeChar c
  · exact (octets_encodeChar c).unique

theorem encodeChar_append {c c' : Char} {rest rest' : List UInt8}
    (same : utf8EncodeChar c ++ rest = utf8EncodeChar c' ++ rest') : c = c' ∧ rest = rest' := by
  have first : ∀ (d : Char) (more : List UInt8),
      (utf8EncodeChar d ++ more).toByteArray.utf8DecodeChar? 0 = some d := by
    intro d more
    rw [List.toByteArray_append]
    exact ByteArray.utf8DecodeChar?_utf8EncodeChar_append
  have read := first c rest
  rw [same, first c' rest'] at read
  cases read
  exact ⟨rfl, List.append_cancel_left same⟩

theorem encodeChar_ascii {b : UInt8} (small : b.toNat < 0x80) :
    utf8EncodeChar (Char.ofNat b.toNat) = [b] := by
  rw [encodeChar_iff, toNat_ofNat_of_lt (by omega)]
  exact .one small rfl

theorem encodeChar_of_mem_ascii {c : Char} {b : UInt8} (member : b ∈ utf8EncodeChar c)
    (small : b.toNat < 0x80) : utf8EncodeChar c = [b] := by
  have octets := octets_encodeChar c
  generalize utf8EncodeChar c = spelled at member octets
  cases octets <;> simp only [List.mem_cons, List.not_mem_nil, or_false] at member
  · rw [member]
  all_goals
    rcases member with rfl | rfl | rfl | rfl <;> omega

/-! The reading of octets. -/

/-- At the front of some octets stands no character. The part is the longest beginning of a character that
stands there, or else a single octet. -/
structure IsBroken (part rest : List UInt8) : Prop where
  filled : part ≠ []
  unreadable : ∀ c, ¬utf8EncodeChar c <+: part ++ rest
  begun : part.length = 1 ∨ ∃ c, part <+: utf8EncodeChar c
  longest : ∀ longer, longer <+: part ++ rest → (∃ c, longer <+: utf8EncodeChar c) →
    longer.length ≤ part.length

/-- Octets and the text that they are read as. -/
inductive Lossy : List UInt8 → List Char → Prop
  | nothing : Lossy [] []
  | char (c : Char) {rest : List UInt8} {cs : List Char} (later : Lossy rest cs) :
      Lossy (utf8EncodeChar c ++ rest) (c :: cs)
  | broken {part rest : List UInt8} {cs : List Char} (broken : IsBroken part rest)
      (later : Lossy rest cs) : Lossy (part ++ rest) (replacement :: cs)

theorem IsBroken.length_le {part rest part' rest' : List UInt8} (broken : IsBroken part rest)
    (broken' : IsBroken part' rest') (same : part ++ rest = part' ++ rest') :
    part'.length ≤ part.length := by
  rcases broken'.begun with single | begun
  · have filled := List.length_pos_of_ne_nil broken.filled
    omega
  · apply broken.longest part' _ begun
    rw [same]
    exact List.prefix_append part' rest'

theorem IsBroken.unique {part rest part' rest' : List UInt8} (broken : IsBroken part rest)
    (broken' : IsBroken part' rest') (same : part ++ rest = part' ++ rest') :
    part = part' ∧ rest = rest' :=
  List.append_inj same (Nat.le_antisymm (broken'.length_le broken same.symm)
    (broken.length_le broken' same))

theorem Lossy.eq_nil {bs : List UInt8} (lossy : Lossy bs []) : bs = [] := by
  cases lossy
  rfl

theorem Lossy.unique {bs : List UInt8} {cs cs' : List Char} (lossy : Lossy bs cs)
    (lossy' : Lossy bs cs') : cs = cs' := by
  induction lossy generalizing cs' with
  | nothing =>
      generalize spelled : ([] : List UInt8) = bs at lossy'
      cases lossy' with
      | nothing => rfl
      | char c later => simp at spelled
      | broken broken later => simp [broken.filled] at spelled
  | @char c rest cs later ih =>
      generalize spelled : utf8EncodeChar c ++ rest = bs at lossy'
      cases lossy' with
      | nothing => simp at spelled
      | char c' later' =>
          obtain ⟨rfl, rfl⟩ := encodeChar_append spelled
          rw [ih later']
      | broken broken later' =>
          exact absurd (spelled ▸ List.prefix_append _ rest) (broken.unreadable c)
  | @broken part rest cs broken later ih =>
      generalize spelled : part ++ rest = bs at lossy'
      cases lossy' with
      | nothing => simp [broken.filled] at spelled
      | char c later' =>
          exact absurd (spelled ▸ List.prefix_append _ _) (broken.unreadable c)
      | broken broken' later' =>
          obtain ⟨rfl, rfl⟩ := broken.unique broken' spelled
          rw [ih later']

theorem isBroken_of_stuck {part rest : List UInt8} (filled : part ≠ [])
    (begun : part.length = 1 ∨ ∃ c, part <+: utf8EncodeChar c)
    (unfinished : ∀ c, ¬utf8EncodeChar c <+: part)
    (stuck : ∀ b ∈ rest.head?, ∀ c, ¬part ++ [b] <+: utf8EncodeChar c) : IsBroken part rest := by
  -- what is longer than the part holds the octet that follows it
  have beyond : ∀ {longer : List UInt8}, longer <+: part ++ rest → part.length < longer.length →
      ∀ c, ¬longer <+: utf8EncodeChar c := by
    intro longer here more c begins
    cases rest with
    | nil =>
        have most := here.length_le
        rw [List.append_nil] at most
        omega
    | cons b rest =>
        have next : part ++ [b] <+: longer := by
          apply List.prefix_of_prefix_length_le _ here
          · rw [List.length_append, List.length_singleton]
            omega
          · exact ⟨rest, (List.append_cons part b rest).symm⟩
        exact stuck b rfl c (next.trans begins)
  refine ⟨filled, ?_, begun, ?_⟩
  · intro c here
    rcases Nat.lt_or_ge part.length (utf8EncodeChar c).length with more | most
    · exact beyond here more c (List.prefix_refl _)
    · exact unfinished c (List.prefix_of_prefix_length_le here (List.prefix_append part rest) most)
  · intro longer here begins
    obtain ⟨c, begins⟩ := begins
    by_contra more
    exact beyond here (by omega) c begins

/-! The states of the decoder. -/

/-- What an octet begins. -/
inductive Begins (b : UInt8) : List Char → State → Prop
  | one (most : b.toNat < 0x80) : Begins b [Char.ofNat b.toNat] .start
  | two (least : 0xC2 ≤ b.toNat) (most : b.toNat ≤ 0xDF) :
      Begins b [] (.owed 1 0x80 0xBF (b.toNat - 0xC0))
  | three {low high : UInt8} (least : 0xE0 ≤ b.toNat) (most : b.toNat ≤ 0xEF)
      (bottom : low.toNat = if b.toNat = 0xE0 then 0xA0 else 0x80)
      (top : high.toNat = if b.toNat = 0xED then 0x9F else 0xBF) :
      Begins b [] (.owed 2 low high (b.toNat - 0xE0))
  | four {low high : UInt8} (least : 0xF0 ≤ b.toNat) (most : b.toNat ≤ 0xF4)
      (bottom : low.toNat = if b.toNat = 0xF0 then 0x90 else 0x80)
      (top : high.toNat = if b.toNat = 0xF4 then 0x8F else 0xBF) :
      Begins b [] (.owed 3 low high (b.toNat - 0xF0))
  | stray (other : 0x80 ≤ b.toNat ∧ b.toNat ≤ 0xC1 ∨ 0xF5 ≤ b.toNat) : Begins b [replacement] .start

theorem begins_begin (b : UInt8) : Begins b (begin' b).1 (begin' b).2 := by
  unfold begin'
  simp only [UInt8.lt_iff_toNat_lt, UInt8.le_iff_toNat_le, Bool.and_eq_true, decide_eq_true_eq,
    beq_iff_eq, ← UInt8.toNat_inj, UInt8.reduceToNat]
  split_ifs with one two e0 ed three f0 f4 four
  · exact .one one
  · exact .two two.1 two.2
  · rw [show 0 = b.toNat - 0xE0 by omega]
    exact .three (by omega) (by omega) (by simp [e0]) (by simp [e0])
  · rw [show 0xD = b.toNat - 0xE0 by omega]
    exact .three (by omega) (by omega) (by simp [ed]) (by simp [ed])
  · exact .three (by omega) three.2 (by simp [e0]) (by simp [ed])
  · rw [show 0 = b.toNat - 0xF0 by omega]
    exact .four (by omega) (by omega) (by simp [f0]) (by simp [f0])
  · rw [show 4 = b.toNat - 0xF0 by omega]
    exact .four (by omega) (by omega) (by simp [f4]) (by simp [f4])
  · exact .four (by omega) (by omega) (by simp [f0]) (by simp [f4])
  · exact .stray (by omega)

inductive Completes : Nat → UInt8 → UInt8 → Nat → List UInt8 → Nat → Prop
  | done {low high : UInt8} {code n : Nat} (same : code = n) : Completes 0 low high code [] n
  | next {count : Nat} {low high b : UInt8} {code n : Nat} {tail : List UInt8}
      (bottom : low.toNat ≤ b.toNat) (top : b.toNat ≤ high.toNat)
      (later : Completes count 0x80 0xBF (code * 64 + (b.toNat - 0x80)) tail n) :
      Completes (count + 1) low high code (b :: tail) n

/-- Some octets have begun a character, and what completes it are the octets that are owed. -/
structure Awaits (part : List UInt8) (count : Nat) (low high : UInt8) (code : Nat) : Prop where
  filled : part ≠ []
  between : low.toNat ≤ high.toNat
  completed : ∀ tail n, Completes (count + 1) low high code tail n →
    n.isValidChar ∧ Octets n (part ++ tail)
  owed : ∀ (c : Char) (tail : List UInt8), Octets c.toNat (part ++ tail) →
    Completes (count + 1) low high code tail c.toNat

theorem awaits_two {b : UInt8} (least : 0xC2 ≤ b.toNat) (most : b.toNat ≤ 0xDF) :
    Awaits [b] 0 0x80 0xBF (b.toNat - 0xC0) where
  filled := List.cons_ne_nil b []
  between := by decide
  completed := by
    intro tail n completes
    cases completes with
    | next bottom₂ top₂ later =>
        cases later with
        | done same =>
            simp only [UInt8.reduceToNat] at bottom₂ top₂
            refine ⟨Or.inl (by omega), .two ?_ ?_ ?_ ?_⟩ <;> omega
  owed := by
    intro c tail octets
    cases octets with
    | one => omega
    | two => exact .next (show 0x80 ≤ _ by omega) (show _ ≤ 0xBF by omega) (.done (by omega))
    | three => omega
    | four => omega

theorem awaits_three {b low high : UInt8} (least : 0xE0 ≤ b.toNat) (most : b.toNat ≤ 0xEF)
    (bottom : low.toNat = if b.toNat = 0xE0 then 0xA0 else 0x80)
    (top : high.toNat = if b.toNat = 0xED then 0x9F else 0xBF) :
    Awaits [b] 1 low high (b.toNat - 0xE0) where
  filled := List.cons_ne_nil b []
  between := by
    rw [bottom, top]
    split <;> split <;> omega
  completed := by
    intro tail n completes
    cases completes with
    | next bottom₂ top₂ later =>
        cases later with
        | next bottom₃ top₃ later =>
            cases later with
            | done same =>
                simp only [UInt8.reduceToNat] at bottom₃ top₃
                simp only [Nat.isValidChar]
                refine ⟨?_, .three ?_ ?_ ?_ ?_ ?_⟩ <;> split at bottom <;> split at top <;> omega
  owed := by
    intro c tail octets
    have bounds := code_bounds c
    cases octets with
    | one => omega
    | two => omega
    | three =>
        refine .next ?_ ?_ (.next (show 0x80 ≤ _ by omega) (show _ ≤ 0xBF by omega) (.done (by omega)))
        · rw [bottom]
          split <;> omega
        · rw [top]
          split <;> omega
    | four => omega

theorem awaits_four {b low high : UInt8} (least : 0xF0 ≤ b.toNat) (most : b.toNat ≤ 0xF4)
    (bottom : low.toNat = if b.toNat = 0xF0 then 0x90 else 0x80)
    (top : high.toNat = if b.toNat = 0xF4 then 0x8F else 0xBF) :
    Awaits [b] 2 low high (b.toNat - 0xF0) where
  filled := List.cons_ne_nil b []
  between := by
    rw [bottom, top]
    split <;> split <;> omega
  completed := by
    intro tail n completes
    cases completes with
    | next bottom₂ top₂ later =>
        cases later with
        | next bottom₃ top₃ later =>
            cases later with
            | next bottom₄ top₄ later =>
                cases later with
                | done same =>
                    simp only [UInt8.reduceToNat] at bottom₃ top₃ bottom₄ top₄
                    simp only [Nat.isValidChar]
                    refine ⟨?_, .four ?_ ?_ ?_ ?_ ?_⟩ <;> split at bottom <;> split at top <;> omega
  owed := by
    intro c tail octets
    have bounds := code_bounds c
    cases octets with
    | one => omega
    | two => omega
    | three => omega
    | four =>
        refine .next ?_ ?_ (.next (show 0x80 ≤ _ by omega) (show _ ≤ 0xBF by omega)
          (.next (show 0x80 ≤ _ by omega) (show _ ≤ 0xBF by omega) (.done (by omega))))
        · rw [bottom]
          split <;> omega
        · rw [top]
          split <;> omega

variable {part : List UInt8} {count : Nat} {low high b : UInt8} {code : Nat}

theorem Awaits.exists_completes (awaits : Awaits part count low high code) :
    ∃ tail n, Completes (count + 1) low high code tail n := by
  have others : ∀ (count code : Nat), ∃ tail n, Completes count 0x80 0xBF code tail n := by
    intro count
    induction count with
    | zero => exact fun code => ⟨[], code, .done rfl⟩
    | succ count ih =>
        intro code
        obtain ⟨tail, n, completes⟩ := ih (code * 64 + ((0x80 : UInt8).toNat - 0x80))
        exact ⟨0x80 :: tail, n, .next (by decide) (by decide) completes⟩
  obtain ⟨tail, n, completes⟩ := others count (code * 64 + (low.toNat - 0x80))
  exact ⟨low :: tail, n, .next (Nat.le_refl _) awaits.between completes⟩

theorem Awaits.spelled (awaits : Awaits part count low high code) {tail : List UInt8} {n : Nat}
    (completes : Completes (count + 1) low high code tail n) :
    utf8EncodeChar (Char.ofNat n) = part ++ tail := by
  obtain ⟨valid, octets⟩ := awaits.completed tail n completes
  rw [encodeChar_iff, toNat_ofNat valid]
  exact octets

theorem Awaits.begun (awaits : Awaits part count low high code) : ∃ c, part <+: utf8EncodeChar c := by
  obtain ⟨tail, n, completes⟩ := awaits.exists_completes
  exact ⟨_, tail, (awaits.spelled completes).symm⟩

theorem Awaits.unfinished (awaits : Awaits part count low high code) (c : Char) :
    ¬utf8EncodeChar c <+: part := by
  rintro ⟨more, here⟩
  obtain ⟨tail, n, completes⟩ := awaits.exists_completes
  have spelled := awaits.spelled completes
  rw [← here, List.append_assoc] at spelled
  have longer := (encodeChar_append ((List.append_nil _).trans spelled)).2
  rw [(List.append_eq_nil_iff.mp longer.symm).2] at completes
  cases completes

theorem Awaits.stuck (awaits : Awaits part count low high code)
    (other : ¬(low.toNat ≤ b.toNat ∧ b.toNat ≤ high.toNat)) (c : Char) :
    ¬part ++ [b] <+: utf8EncodeChar c := by
  rintro ⟨tail, here⟩
  rw [List.append_assoc] at here
  cases awaits.owed c _ ((encodeChar_iff c _).mp here.symm) with
  | next bottom top later => exact other ⟨bottom, top⟩

theorem Awaits.isBroken (awaits : Awaits part count low high code) {rest : List UInt8}
    (other : ∀ b ∈ rest.head?, ¬(low.toNat ≤ b.toNat ∧ b.toNat ≤ high.toNat)) : IsBroken part rest :=
  isBroken_of_stuck awaits.filled (Or.inr awaits.begun) awaits.unfinished
    fun b first => awaits.stuck (other b first)

theorem Awaits.next (awaits : Awaits part (count + 1) low high code) (bottom : low.toNat ≤ b.toNat)
    (top : b.toNat ≤ high.toNat) :
    Awaits (part ++ [b]) count 0x80 0xBF (code * 64 + (b.toNat - 0x80)) where
  filled := by simp
  between := by decide
  completed := by
    intro tail n completes
    rw [List.append_assoc]
    exact awaits.completed (b :: tail) n (.next bottom top completes)
  owed := by
    intro c tail octets
    rw [List.append_assoc] at octets
    cases awaits.owed c _ octets with
    | next bottom top later => exact later

theorem Awaits.last (awaits : Awaits part 0 low high code) (bottom : low.toNat ≤ b.toNat)
    (top : b.toNat ≤ high.toNat) :
    utf8EncodeChar (Char.ofNat (code * 64 + (b.toNat - 0x80))) = part ++ [b] :=
  awaits.spelled (.next bottom top (.done rfl))

theorem isBroken_stray (other : 0x80 ≤ b.toNat ∧ b.toNat ≤ 0xC1 ∨ 0xF5 ≤ b.toNat) (rest : List UInt8) :
    IsBroken [b] rest := by
  have strange : ∀ c tail, utf8EncodeChar c ≠ b :: tail := by
    intro c tail spelled
    have bounds := code_bounds c
    rw [encodeChar_iff] at spelled
    cases spelled <;> omega
  apply isBroken_of_stuck (List.cons_ne_nil b []) (Or.inl rfl)
  · rintro c ⟨tail, here⟩
    cases spelled : utf8EncodeChar c with
    | nil => exact String.utf8EncodeChar_ne_nil spelled
    | cons x xs =>
        rw [spelled, List.cons_append] at here
        exact strange c xs (by rw [spelled, (List.cons.inj here).1])
  · rintro x first c ⟨tail, here⟩
    exact strange c _ here.symm

/-- Decoding reads octets from the start, and from within a character it reads what has begun it with them. -/
theorem lossy_decodeFrom (bs : List UInt8) :
    Lossy bs (decode bs) ∧
      ∀ part count low high code, Awaits part count low high code →
        Lossy (part ++ bs) (decodeFrom (.owed (count + 1) low high code) bs) := by
  induction bs with
  | nil =>
      refine ⟨.nothing, ?_⟩
      intro part count low high code awaits
      refine .broken (awaits.isBroken ?_) .nothing
      intro b first
      cases first
  | cons b bs ih =>
      -- an octet that does not go on with a character is read again as the first of what is left
      have start : Lossy (b :: bs) (decode (b :: bs)) := by
        have spelled : decode (b :: bs) = (begin' b).1 ++ decodeFrom (begin' b).2 bs := rfl
        rw [spelled]
        have begins := begins_begin b
        generalize (begin' b).1 = chars at begins
        generalize (begin' b).2 = state at begins
        cases begins with
        | one most =>
            have read := Lossy.char (Char.ofNat b.toNat) ih.1
            rwa [encodeChar_ascii most] at read
        | two least most => exact ih.2 [b] _ _ _ _ (awaits_two least most)
        | three least most bottom top => exact ih.2 [b] _ _ _ _ (awaits_three least most bottom top)
        | four least most bottom top => exact ih.2 [b] _ _ _ _ (awaits_four least most bottom top)
        | stray other => exact .broken (isBroken_stray other bs) ih.1
      refine ⟨start, ?_⟩
      intro part count low high code awaits
      by_cases inside : low.toNat ≤ b.toNat ∧ b.toNat ≤ high.toNat
      · have bounds : (low ≤ b && b ≤ high) = true := by
          simpa [UInt8.le_iff_toNat_le] using inside
        rw [decodeFrom, step, if_pos bounds]
        cases count with
        | zero =>
            have read := Lossy.char (Char.ofNat (code * 64 + (b.toNat - 0x80))) ih.1
            rw [awaits.last inside.1 inside.2, List.append_assoc] at read
            exact read
        | succ count =>
            have read := ih.2 _ _ _ _ _ (awaits.next inside.1 inside.2)
            rw [List.append_assoc] at read
            exact read
      · have bounds : ¬(low ≤ b && b ≤ high) = true := by
          simpa [UInt8.le_iff_toNat_le] using inside
        rw [decodeFrom, step, if_neg bounds]
        refine .broken (awaits.isBroken ?_) start
        rintro x ⟨⟩
        exact inside

theorem lossy_iff {bs : List UInt8} {cs : List Char} : Lossy bs cs ↔ decode bs = cs := by
  constructor
  · exact (lossy_decodeFrom bs).1.unique
  · rintro rfl
    exact (lossy_decodeFrom bs).1

/-! Octets of ASCII among others. -/

theorem not_inside_ascii (filled : part ≠ []) (small : b.toNat < 0x80) (c : Char) :
    ¬part ++ [b] <+: utf8EncodeChar c := by
  intro begins
  have alone := encodeChar_of_mem_ascii (begins.subset (List.mem_append_right _ List.mem_cons_self)) small
  have short := begins.length_le
  rw [alone, List.length_append] at short
  exact filled (List.eq_nil_of_length_eq_zero (Nat.le_zero.mp (Nat.le_of_add_le_add_right short)))

theorem IsBroken.before_ascii {rest : List UInt8} (broken : IsBroken part rest) (small : b.toNat < 0x80)
    (more : List UInt8) : IsBroken part (rest ++ b :: more) := by
  apply isBroken_of_stuck broken.filled broken.begun
  · intro c here
    exact broken.unreadable c (here.trans (List.prefix_append part rest))
  · intro x first c begins
    cases rest with
    | nil =>
        cases first
        exact not_inside_ascii broken.filled small c begins
    | cons y rest =>
        cases first
        have most := broken.longest _ ⟨rest, (List.append_cons part x rest).symm⟩ ⟨c, begins⟩
        rw [List.length_append, List.length_singleton] at most
        omega

theorem Lossy.append_ascii {front back : List UInt8} {cs ds : List Char} (lossy : Lossy front cs)
    (small : b.toNat < 0x80) (lossy' : Lossy back ds) :
    Lossy (front ++ b :: back) (cs ++ Char.ofNat b.toNat :: ds) := by
  induction lossy with
  | nothing =>
      have read := Lossy.char (Char.ofNat b.toNat) lossy'
      rwa [encodeChar_ascii small] at read
  | char c later ih =>
      rw [List.append_assoc]
      exact .char c ih
  | broken broken later ih =>
      rw [List.append_assoc]
      exact .broken (broken.before_ascii small back) ih

theorem decode_append_ascii (front back : List UInt8) (small : b.toNat < 0x80) :
    decode (front ++ b :: back) = decode front ++ Char.ofNat b.toNat :: decode back := by
  rw [← lossy_iff]
  exact (lossy_iff.mpr rfl).append_ascii small (lossy_iff.mpr rfl)

theorem Lossy.mem {bs : List UInt8} {cs : List Char} (lossy : Lossy bs cs) {c : Char} (member : c ∈ cs)
    (proper : c ≠ replacement) : utf8EncodeChar c ⊆ bs := by
  induction lossy with
  | nothing => cases member
  | char d later ih =>
      rcases List.mem_cons.mp member with rfl | within
      · exact List.subset_append_left _ _
      · exact List.subset_append_of_subset_right _ (ih within)
  | broken broken later ih =>
      rcases List.mem_cons.mp member with here | within
      · exact absurd here proper
      · exact List.subset_append_of_subset_right _ (ih within)

theorem Lossy.last {bs : List UInt8} {front : List Char} {c : Char} (lossy : Lossy bs (front ++ [c]))
    (proper : c ≠ replacement) : utf8EncodeChar c <:+ bs := by
  induction front generalizing bs with
  | nil =>
      cases lossy with
      | char c later =>
          rw [later.eq_nil, List.append_nil]
      | broken broken later => exact absurd rfl proper
  | cons d front ih =>
      cases lossy with
      | char d later => exact (ih later).trans (List.suffix_append _ _)
      | broken broken later => exact (ih later).trans (List.suffix_append _ _)

end RegisterPlane.Text.Utf8
