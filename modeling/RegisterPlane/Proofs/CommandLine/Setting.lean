import RegisterPlane.CommandLine.Registers
import RegisterPlane.Proofs.Assignment.Inference
import RegisterPlane.Proofs.Node.Remote
import RegisterPlane.Proofs.Store.Refusal
import RegisterPlane.Store.Source

/-! Registers set from the command line. One request is sent if what was typed stands for a value, and a second
one, with the text itself, only if the node refuses the first and shows that the register holds text. -/

namespace RegisterPlane

open Wire

variable {σ World : Type}

structure Tick (σ : Type) where
  since : σ → σ
  now : Timestamp

def Tick.found (tick : Tick σ) (s : Store σ) : Store σ := { s with live := tick.since s.live }

/-- The exchange with a node that has one client. The requests are noted as they are sent; a clock gives each of
them its time. -/
def Exchange.withClient (isServed : String → Bool) (clock : Nat → Tick σ) : Exchange (Store σ × List Request) :=
  fun socket request world =>
    let tick := clock world.2.length
    let (reply, s) := Exchange.withStore isServed tick.now socket request (tick.found world.1)
    (reply, s, world.2 ++ [request])

theorem Exchange.access_withClient {isServed : String → Bool} {socket : String}
    (served : isServed socket = true) (clock : Nat → Tick σ) (s : Store σ) (sent : List Request) (name : String)
    {value : Value} (asked : Carried value) :
    ∃ heard, (Exchange.withClient isServed clock).access socket name (some value) (s, sent) =
        (heard, (((clock sent.length).found s).access (clock sent.length).now name (some value)).2,
          sent ++ [.access name (some value)]) ∧
      Heard (((clock sent.length).found s).access (clock sent.length).now name (some value)).1 heard ∧
      (IsShown ((clock sent.length).found s) (clock sent.length).now name value →
        heard = (((clock sent.length).found s).access (clock sent.length).now name (some value)).1.mapError
          NodeError.ofRefusal) := by
  obtain ⟨heard, exchanged, what⟩ :=
    Exchange.access_withStore served (clock sent.length).now ((clock sent.length).found s) name asked
  refine ⟨heard, ?_, what⟩
  have alone : (Exchange.withClient isServed clock).access socket name (some value) (s, sent) =
      (((Exchange.withStore isServed (clock sent.length).now).access socket name (some value)
          ((clock sent.length).found s)).1,
        ((Exchange.withStore isServed (clock sent.length).now).access socket name (some value)
          ((clock sent.length).found s)).2,
        sent ++ [.access name (some value)]) := rfl
  rw [alone, exchanged]

namespace CommandLine

/-! What the command does with the answers it gets. -/

section

variable {exchange : Exchange World} {socket name text : String} {literal : Yaml} {value : Value}
  {world world' : World}

theorem setRegister_unread {failure : Failure} (unread : readLiteral name text = .error failure) :
    setRegister exchange socket name text world = (.error failure, world) := by
  unfold setRegister
  rw [unread]

theorem setRegister_taken (reads : readLiteral name text = .ok (literal, value)) {r : Register}
    (taken : exchange.access socket name (some value) world = (.ok r, world')) :
    setRegister exchange socket name text world = (.ok r, world') := by
  unfold setRegister
  rw [reads]
  dsimp only
  rw [taken]

theorem setRegister_denied (reads : readLiteral name text = .ok (literal, value)) {error : NodeError}
    (denied : exchange.access socket name (some value) world = (.error error, world'))
    (otherwise : wantsText literal error = false) :
    setRegister exchange socket name text world = (.error (.ofAccess .write name error), world') := by
  unfold setRegister
  rw [reads]
  dsimp only
  rw [denied]
  dsimp only
  rw [otherwise]
  rfl

theorem setRegister_again (reads : readLiteral name text = .ok (literal, value)) {error : NodeError}
    (denied : exchange.access socket name (some value) world = (.error error, world'))
    (wants : wantsText literal error = true) :
    setRegister exchange socket name text world =
      ((exchange.access socket name (some (.string text)) world').1.mapError (.ofAccess .write name),
        (exchange.access socket name (some (.string text)) world').2) := by
  unfold setRegister
  rw [reads]
  dsimp only
  rw [denied]
  dsimp only
  rw [if_pos wants]

end

theorem readLiteral_eq {name text : String} {literal : Yaml} {value : Value}
    (read : Yaml.read? text = some literal) (inferred : Assignment.infer name literal = .ok value) :
    readLiteral name text = .ok (literal, value) := by
  unfold readLiteral
  rw [read]
  dsimp only
  rw [inferred]

theorem readLiteral_error {name text : String} (worthless : ∀ literal, Yaml.read? text = some literal →
      ∀ value, Assignment.infer name literal ≠ .ok value) :
    ∃ failure, readLiteral name text = .error failure := by
  unfold readLiteral
  cases read : Yaml.read? text with
  | none => exact ⟨_, rfl⟩
  | some literal =>
      dsimp only
      cases inferred : Assignment.infer name literal with
      | error e => exact ⟨_, rfl⟩
      | ok value => exact absurd inferred (worthless literal read value)

theorem literal_of_bare {literal : Yaml} (bare : isBare literal = true) : ∃ s : Scalar, literal = s.literal := by
  cases literal with
  | bool b => exact ⟨.bool b, rfl⟩
  | integer i => exact ⟨.int i, rfl⟩
  | real x => exact ⟨.real x, rfl⟩
  | null | string | sequence | mapping | tagged => cases bare

theorem kind_of_bare {name : String} {literal : Yaml} {value : Value} (bare : isBare literal = true)
    (inferred : Assignment.infer name literal = .ok value) : value.kind ≠ .string := by
  obtain ⟨s, rfl⟩ := literal_of_bare bare
  rw [Assignment.infer_eq_ok_iff, Assignment.ofLiteral_literal] at inferred
  rcases Assignment.inferScalars_cases inferred with ⟨bs, -, rfl⟩ | ⟨is, -, narrowest⟩ | ⟨xs, -, -, narrowest⟩
  · exact nofun
  · cases narrowest <;> exact nofun
  · cases narrowest <;> exact nofun

theorem wantsText_iff {s : Store σ} {name : String} {value : Value} {refusal : Refusal}
    (denies : s.Denies name value refusal) (literal : Yaml) :
    wantsText literal (.ofRefusal refusal) = true ↔ isBare literal = true ∧ s.HoldsText name := by
  -- a refusal for another reason than a misfit is of a register that is not there or not mutable
  have never : ∀ {e : RegisterError} {current : Option Register}, refusal = ⟨e, current⟩ →
      (∀ source target reason, e ≠ .incompatibleKind source target reason) → ¬s.HoldsText name →
      (wantsText literal (.ofRefusal refusal) = true ↔ isBare literal = true ∧ s.HoldsText name) := by
    rintro e current rfl other textless
    refine iff_of_false ?_ fun both => textless both.2
    cases e with
    | incompatibleKind source target reason => exact absurd rfl (other source target reason)
    | notFound | immutable | invalidAssignment => exact Bool.false_ne_true
  cases denies with
  | unknown absent =>
      apply never rfl (fun _ _ _ => nofun)
      rintro (⟨found, -, -⟩ | ⟨found, -, -⟩) <;> rw [absent] at found <;> cases found
  | readOnly there fixed =>
      apply never rfl (fun _ _ _ => nofun)
      rintro (⟨found, mutable, -⟩ | ⟨found, -, -⟩) <;> rw [there] at found <;> cases found
      rw [fixed] at mutable
      cases mutable
  | unsettable there fixed =>
      apply never rfl (fun _ _ _ => nofun)
      rintro (⟨found, -, -⟩ | ⟨found, settable, -⟩) <;> rw [there] at found <;> cases found
      rw [fixed] at settable
      cases settable
  | misfit there mutable unfit =>
      change (_ == Kind.string && isBare literal) = true ↔ _
      rw [Bool.and_eq_true, beq_iff_eq, and_comm]
      refine and_congr_right fun _ => ⟨fun text => .stored there mutable text, ?_⟩
      rintro (⟨found, -, text⟩ | ⟨found, -, -⟩) <;> rw [there] at found <;> cases found
      exact text
  | computedMisfit there settable unfit =>
      change (_ == Kind.string && isBare literal) = true ↔ _
      rw [Bool.and_eq_true, beq_iff_eq, and_comm]
      refine and_congr_right fun _ => ⟨fun text => .computed there settable text, ?_⟩
      rintro (⟨found, -, -⟩ | ⟨found, -, text⟩) <;> rw [there] at found <;> cases found
      exact text

theorem wantsText_of_kind {e : RegisterError} {current current' : Option Register}
    (kind : current'.map (fun shown => shown.value.kind) = current.map fun shown => shown.value.kind)
    (literal : Yaml) : wantsText literal (.rejected e current') = wantsText literal (.rejected e current) := by
  cases current with
  | none =>
      rw [Option.map_eq_none_iff.mp kind]
  | some shown =>
      obtain ⟨shown', rfl, same⟩ := Option.map_eq_some_iff.mp kind
      cases e with
      | incompatibleKind => simp only [wantsText, same]
      | notFound | immutable | invalidAssignment => rfl

/-! The conversation. -/

def write (name : String) (value : Value) : Request := .access name (some value)

def firstAnswer (clock : Nat → Tick σ) (s : Store σ) (name : String) (value : Value) :
    Except Refusal Register × Store σ :=
  ((clock 0).found s).access (clock 0).now name (some value)

/-- The node as a second request finds it. -/
def atSecond (clock : Nat → Tick σ) (s : Store σ) (name : String) (value : Value) : Store σ :=
  (clock 1).found (firstAnswer clock s name value).2

/-- What a command that sets a register comes to. The text is sent only after a refusal that is shown, and what
is printed of an answer is the answer itself only where that is shown. -/
structure TypedOrNothing (clock : Nat → Tick σ) (s : Store σ) (name text : String) (literal : Yaml) (value : Value)
    (outcome : Except Failure Register × Store σ × List Request) : Prop where
  /-- A value that is accepted is written, and nothing else is sent. -/
  accepted : ∀ r s', ((clock 0).found s).set (clock 0).now name value = (.ok r, s') →
    ∃ answer, outcome = (answer, s', [write name value]) ∧
      (IsShown ((clock 0).found s) (clock 0).now name value → answer = .ok r)
  /-- A number or a boolean that is meant for a stored text is written as it was typed. -/
  stored : isBare literal = true → ∀ key held, s.entry? name = some (key, .stored held) →
    held.flags.mutable = true → held.value.kind = .string →
    IsShown ((clock 0).found s) (clock 0).now name value →
    ∃ answer r s', outcome = (answer, s', [write name value, write name (.string text)]) ∧
      s.TextSet name text r s' ∧
      (IsShown (atSecond clock s name value) (clock 1).now name (.string text) → answer = .ok r)
  /-- So it is where the text is computed and kept. -/
  kept : isBare literal = true → ∀ key c set states, s.entry? name = some (key, .computed c) →
    Store.TextCell c set states → states s.live → (∀ n live, states live → states ((clock n).since live)) →
    IsShown ((clock 0).found s) (clock 0).now name value →
    ∃ answer r s', outcome = (answer, s', [write name value, write name (.string text)]) ∧
      s.TextSet name text r s' ∧
      (IsShown (atSecond clock s name value) (clock 1).now name (.string text) → answer = .ok r)
  /-- Any other register that is shown as a mutable text gets the typed text, and makes of it what it will. -/
  again : isBare literal = true → (∀ r, (((clock 0).found s).set (clock 0).now name value).1 ≠ .ok r) →
    ((clock 0).found s).HoldsText name → IsShown ((clock 0).found s) (clock 0).now name value →
    ∃ answer, outcome =
        (answer, ((atSecond clock s name value).access (clock 1).now name (some (.string text))).2,
          [write name value, write name (.string text)]) ∧
      (IsShown (atSecond clock s name value) (clock 1).now name (.string text) →
        answer = ((atSecond clock s name value).access (clock 1).now name (some (.string text))).1.mapError
          fun refusal => .refused .write name refusal.error refusal.current)
  /-- In every other case the command fails, and no stored register has changed. -/
  refused : (∀ r, (((clock 0).found s).set (clock 0).now name value).1 ≠ .ok r) →
    ¬(isBare literal = true ∧ ((clock 0).found s).HoldsText name) →
    ∃ failure live, outcome = (.error failure, { s with live }, [write name value]) ∧
      (IsShown ((clock 0).found s) (clock 0).now name value →
        ∃ error current, failure = .refused .write name error current)

section

variable {isServed : String → Bool} {socket : String} {clock : Nat → Tick σ} {s : Store σ} {name text : String}
  {literal : Yaml} {value : Value}

theorem mapError_ofRefusal (answer : Except Refusal Register) :
    (answer.mapError NodeError.ofRefusal).mapError (Failure.ofAccess .write name) =
      answer.mapError fun refusal => Failure.refused .write name refusal.error refusal.current := by
  cases answer <;> rfl

theorem atSecond_of_refused {e : RegisterError}
    (refused : (((clock 0).found s).set (clock 0).now name value).1 = .error e) :
    ∃ live, atSecond clock s name value = { s with live } := by
  obtain ⟨refusal, live, answered, -⟩ := Store.access_of_refused refused
  exact ⟨(clock 1).since live, by rw [atSecond, firstAnswer, answered]; rfl⟩

variable (served : isServed socket = true) (reads : readLiteral name text = .ok (literal, value))
  (asked : Carried value)

include served reads asked

theorem set_accepted {r : Register} {s' : Store σ}
    (taken : ((clock 0).found s).set (clock 0).now name value = (.ok r, s')) :
    ∃ answer, setRegister (Exchange.withClient isServed clock) socket name text (s, []) =
        (answer, s', [write name value]) ∧
      (IsShown ((clock 0).found s) (clock 0).now name value → answer = .ok r) := by
  obtain ⟨heard, exchanged, what, itself⟩ := Exchange.access_withClient served clock s [] name asked
  simp only [List.length_nil, Store.access_of_taken taken] at exchanged what itself
  cases what with
  | taken r r' =>
      refine ⟨.ok r', setRegister_taken reads exchanged, fun shown => ?_⟩
      cases itself shown
      rfl
  | lost =>
      refine ⟨_, setRegister_denied reads exchanged rfl, fun shown => ?_⟩
      cases itself shown

theorem set_again {e : RegisterError}
    (refused : (((clock 0).found s).set (clock 0).now name value).1 = .error e)
    (bare : isBare literal = true) (holds : ((clock 0).found s).HoldsText name)
    (shown : IsShown ((clock 0).found s) (clock 0).now name value) :
    ∃ answer, setRegister (Exchange.withClient isServed clock) socket name text (s, []) =
        (answer, ((atSecond clock s name value).access (clock 1).now name (some (.string text))).2,
          [write name value, write name (.string text)]) ∧
      (IsShown (atSecond clock s name value) (clock 1).now name (.string text) →
        answer = ((atSecond clock s name value).access (clock 1).now name (some (.string text))).1.mapError
          fun refusal => .refused .write name refusal.error refusal.current) := by
  obtain ⟨refusal, live, answered, denies⟩ := Store.access_of_refused refused
  have first : (firstAnswer clock s name value).1 = .error refusal := congrArg Prod.fst answered
  obtain ⟨heard, exchanged, -, itself⟩ := Exchange.access_withClient served clock s [] name asked
  obtain rfl := (itself shown).trans (congrArg (Except.mapError NodeError.ofRefusal) first)
  obtain ⟨heard', exchanged', -, itself'⟩ := Exchange.access_withClient served clock
    (firstAnswer clock s name value).2 [write name value] name (show Carried (.string text) from trivial)
  refine ⟨heard'.mapError (.ofAccess .write name), ?_, fun shown' => ?_⟩
  · rw [setRegister_again reads exchanged ((wantsText_iff denies literal).mpr ⟨bare, holds⟩)]
    exact congrArg (fun result => (result.1.mapError (Failure.ofAccess .write name), result.2)) exchanged'
  · rw [itself' shown', mapError_ofRefusal]
    rfl

theorem set_again_taken {e : RegisterError}
    (refused : (((clock 0).found s).set (clock 0).now name value).1 = .error e)
    (bare : isBare literal = true) (holds : ((clock 0).found s).HoldsText name)
    (shown : IsShown ((clock 0).found s) (clock 0).now name value) {r : Register} {s' : Store σ}
    (taken : (atSecond clock s name value).set (clock 1).now name (.string text) = (.ok r, s')) :
    ∃ answer, setRegister (Exchange.withClient isServed clock) socket name text (s, []) =
        (answer, s', [write name value, write name (.string text)]) ∧
      (IsShown (atSecond clock s name value) (clock 1).now name (.string text) → answer = .ok r) := by
  obtain ⟨answer, outcome, itself⟩ := set_again served reads asked refused bare holds shown
  rw [Store.access_of_taken taken] at outcome itself
  exact ⟨answer, outcome, itself⟩

theorem set_refused {e : RegisterError}
    (refused : (((clock 0).found s).set (clock 0).now name value).1 = .error e)
    (otherwise : ¬(isBare literal = true ∧ ((clock 0).found s).HoldsText name)) :
    ∃ failure live, setRegister (Exchange.withClient isServed clock) socket name text (s, []) =
        (.error failure, { s with live }, [write name value]) ∧
      (IsShown ((clock 0).found s) (clock 0).now name value →
        ∃ error current, failure = .refused .write name error current) := by
  obtain ⟨refusal, live, answered, denies⟩ := Store.access_of_refused refused
  have unwanted : wantsText literal (.ofRefusal refusal) = false := by
    rw [← Bool.not_eq_true, wantsText_iff denies literal]
    exact otherwise
  obtain ⟨heard, exchanged, what, itself⟩ := Exchange.access_withClient served clock s [] name asked
  simp only [List.length_nil, answered] at exchanged what itself
  cases what with
  | refused e kind =>
      have unwanted' := (wantsText_of_kind kind literal).trans unwanted
      exact ⟨_, live, setRegister_denied reads exchanged unwanted', fun _ => ⟨e, _, rfl⟩⟩
  | lost =>
      refine ⟨_, live, setRegister_denied reads exchanged rfl, fun shown => ?_⟩
      cases itself shown

theorem set_stored (bare : isBare literal = true) (other : value.kind ≠ .string) {key : RegisterName}
    {held : Stored} (found : s.entry? name = some (key, .stored held)) (mutable : held.flags.mutable = true)
    (held_text : held.value.kind = .string) (shown : IsShown ((clock 0).found s) (clock 0).now name value) :
    ∃ answer r s', setRegister (Exchange.withClient isServed clock) socket name text (s, []) =
        (answer, s', [write name value, write name (.string text)]) ∧ s.TextSet name text r s' ∧
      (IsShown (atSecond clock s name value) (clock 1).now name (.string text) → answer = .ok r) := by
  have found' : Store.entry? ((clock 0).found s) name = some (key, .stored held) := found
  obtain ⟨e, refused⟩ := Store.refused_of_text (clock 0).now found' held_text other
  obtain ⟨live, second⟩ := atSecond_of_refused refused
  have there : Store.entry? { s with live } name = some (key, .stored held) := found
  obtain ⟨r, s', taken, written⟩ := Store.set_text there mutable held_text (clock 1).now text
  obtain ⟨answer, outcome, itself⟩ :=
    set_again_taken served reads asked refused bare (.stored found' mutable held_text) shown
      (by rw [second]; exact taken)
  exact ⟨answer, r, s', outcome, ⟨written.shown, written.kept, written.others⟩, itself⟩

theorem set_kept (bare : isBare literal = true) (other : value.kind ≠ .string) {key : RegisterName}
    {c : Computed σ} {set : Value → σ → σ} {states : σ → Prop}
    (found : s.entry? name = some (key, .computed c)) (cell : Store.TextCell c set states)
    (inside : states s.live) (along : ∀ n live, states live → states ((clock n).since live))
    (shown : IsShown ((clock 0).found s) (clock 0).now name value) :
    ∃ answer r s', setRegister (Exchange.withClient isServed clock) socket name text (s, []) =
        (answer, s', [write name value, write name (.string text)]) ∧ s.TextSet name text r s' ∧
      (IsShown (atSecond clock s name value) (clock 1).now name (.string text) → answer = .ok r) := by
  have found' : Store.entry? ((clock 0).found s) name = some (key, .computed c) := found
  have inside' : states ((clock 0).found s).live := along 0 s.live inside
  obtain ⟨⟨e, refused⟩, live, left, inside''⟩ :=
    Store.access_of_cell (clock 0).now cell found' inside' other
  have second : atSecond clock s name value = { s with live := (clock 1).since live } := by
    rw [atSecond, firstAnswer, left]
    rfl
  have text_read := cell.text _ (cell.read _ inside')
  have there : Store.entry? { s with live := (clock 1).since live } name = some (key, .computed c) := found
  obtain ⟨r, live', taken, written⟩ := Store.set_cell cell there (along 1 live inside'') (clock 1).now text
  obtain ⟨answer, outcome, itself⟩ :=
    set_again_taken served reads asked refused bare (.computed found' cell.settable text_read) shown
      (by rw [second]; exact taken)
  exact ⟨answer, r, _, outcome, ⟨written.shown, written.kept, written.others⟩, itself⟩

end

/-- A text that stands for no value is not sent at all. One that does is sent as its value, and what the command
comes to is settled by the node's answer. -/
theorem set_typed_or_nothing {isServed : String → Bool} {socket : String} (served : isServed socket = true)
    (clock : Nat → Tick σ) (s : Store σ) (name text : String) :
    ((∀ literal, Yaml.read? text = some literal → ∀ value, Assignment.infer name literal ≠ .ok value) →
      ∃ failure, setRegister (Exchange.withClient isServed clock) socket name text (s, []) =
        (.error failure, s, [])) ∧
    ∀ literal value, Yaml.read? text = some literal → Assignment.infer name literal = .ok value → Carried value →
      TypedOrNothing clock s name text literal value
        (setRegister (Exchange.withClient isServed clock) socket name text (s, [])) := by
  constructor
  · intro worthless
    obtain ⟨failure, unread⟩ := readLiteral_error worthless
    exact ⟨failure, setRegister_unread unread⟩
  · intro literal value read inferred asked
    have reads := readLiteral_eq read inferred
    have failed : ∀ {answer : Except RegisterError Register}, (∀ r, answer ≠ .ok r) → ∃ e, answer = .error e := by
      intro answer denied
      cases answer with
      | error e => exact ⟨e, rfl⟩
      | ok r => exact absurd rfl (denied r)
    exact {
      accepted := fun r s' taken => set_accepted served reads asked taken
      stored := fun bare key held found mutable held_text shown =>
        set_stored served reads asked bare (kind_of_bare bare inferred) found mutable held_text shown
      kept := fun bare key c set states found cell inside along shown =>
        set_kept served reads asked bare (kind_of_bare bare inferred) found cell inside along shown
      again := fun bare denied holds shown => by
        obtain ⟨e, refused⟩ := failed denied
        exact set_again served reads asked refused bare holds shown
      refused := fun denied otherwise => by
        obtain ⟨e, refused⟩ := failed denied
        exact set_refused served reads asked refused otherwise }

def noteText (value : Value) (live : String) : String :=
  match value with
  | .string text => text
  | _ => live

def kettleStore : Store String where
  entries := [(⟨"kettle.label", by decide⟩, .stored ⟨.string "k1", .config, none⟩),
    (⟨"kettle.note", by decide⟩, .computed ⟨fun live => (.string live, live), some noteText⟩),
    (⟨"kettle.sign", by decide⟩, .computed (.fixed (.string "hot")))]
  policy := .strict
  durable := false
  dirty := false
  live := "empty"

def isKettleSocket (socket : String) : Bool := socket == "kettle.sock"

def kettleClock (n : Nat) : Tick String := ⟨id, ⟨1700000000 + n, 0⟩⟩

def fortyTwo : Value := .array (.natural .w8) [(42 : BitVec 8)]

theorem read_fortyTwo : Yaml.read? "42" = some (.integer 42) := by
  have whole : (Yaml.read? "42").map Assignment.classify = some (.ok (.int 42)) := by decide +kernel
  obtain ⟨literal, read, classified⟩ := Option.map_eq_some_iff.mp whole
  rw [read, (Assignment.classify_eq_ok_iff literal _).mp classified]
  rfl

theorem noteText_cell :
    Store.TextCell ⟨fun live => (.string live, live), some noteText⟩ noteText fun _ => True where
  settable := rfl
  text := fun _ _ => rfl
  read := fun _ _ => trivial
  written := fun _ _ _ => trivial
  kept := fun _ _ _ => rfl
  steady := fun _ _ => rfl

theorem set_typed_or_nothing_kettle :
    (∃ r s', setRegister (Exchange.withClient isKettleSocket kettleClock) "kettle.sock" "kettle.label" "42"
        (kettleStore, []) =
      (.ok r, s', [write "kettle.label" fortyTwo, write "kettle.label" (.string "42")]) ∧
        kettleStore.TextSet "kettle.label" "42" r s') ∧
    (∃ r s', setRegister (Exchange.withClient isKettleSocket kettleClock) "kettle.sock" "kettle.note" "42"
        (kettleStore, []) =
      (.ok r, s', [write "kettle.note" fortyTwo, write "kettle.note" (.string "42")]) ∧
        kettleStore.TextSet "kettle.note" "42" r s') ∧
    ∃ error current live, setRegister (Exchange.withClient isKettleSocket kettleClock) "kettle.sock" "kettle.lid"
        "42" (kettleStore, []) =
      (.error (.refused .write "kettle.lid" error current), { kettleStore with live },
        [write "kettle.lid" fortyTwo]) := by
  have served : isKettleSocket "kettle.sock" = true := by decide
  have settled := fun name =>
    (set_typed_or_nothing served kettleClock kettleStore name "42").2 (.integer 42) fortyTwo read_fortyTwo
  refine ⟨?_, ?_, ?_⟩
  · obtain ⟨answer, r, s', outcome, written, itself⟩ :=
      (settled "kettle.label" (by decide +kernel) trivial).stored rfl _ _ rfl rfl rfl (by decide +kernel)
    rw [itself (by decide +kernel)] at outcome
    exact ⟨r, s', outcome, written⟩
  · obtain ⟨answer, r, s', outcome, written, itself⟩ :=
      (settled "kettle.note" (by decide +kernel) trivial).kept rfl _ _ _ _ rfl noteText_cell trivial
        (fun _ _ _ => trivial) (by decide +kernel)
    rw [itself (by decide +kernel)] at outcome
    exact ⟨r, s', outcome, written⟩
  · have absent : ¬kettleStore.HoldsText "kettle.lid" := by
      rintro (⟨found, -, -⟩ | ⟨found, -, -⟩) <;> cases found
    obtain ⟨failure, live, outcome, itself⟩ :=
      (settled "kettle.lid" (by decide +kernel) trivial).refused nofun fun both => absent both.2
    obtain ⟨error, current, rfl⟩ := itself (by decide +kernel)
    exact ⟨error, current, live, outcome⟩

/-- A register that keeps nothing of what is written is sent the text all the same, and the command succeeds. -/
theorem set_sign :
    (∃ e, (kettleStore.set ⟨1700000000, 0⟩ "kettle.sign" fortyTwo).1 = .error e) ∧
      setRegister (Exchange.withClient isKettleSocket kettleClock) "kettle.sock" "kettle.sign" "42"
          (kettleStore, []) =
        (.ok ⟨⟨"kettle.sign", by decide⟩, .string "hot", true, false, none⟩, kettleStore,
          [write "kettle.sign" fortyTwo, write "kettle.sign" (.string "42")]) := by
  have reads : readLiteral "kettle.sign" "42" = .ok (.integer 42, fortyTwo) :=
    readLiteral_eq read_fortyTwo (by decide +kernel)
  have served : isKettleSocket "kettle.sock" = true := by decide
  have refused : ∃ e, (((kettleClock 0).found kettleStore).set (kettleClock 0).now "kettle.sign" fortyTwo).1 =
      .error e := ⟨_, rfl⟩
  refine ⟨refused, ?_⟩
  obtain ⟨e, refused⟩ := refused
  obtain ⟨answer, outcome, itself⟩ :=
    set_again served reads trivial refused rfl (.computed rfl rfl rfl) (by decide +kernel)
  rw [itself (by decide +kernel)] at outcome
  exact outcome.trans rfl

end CommandLine

end RegisterPlane
