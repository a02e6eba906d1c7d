import RegisterPlane.Proofs.Store.Steps

/-! Calls that go on at once are answered as if they were made one after another, in the order in which
they are decided. -/

namespace RegisterPlane

/-- One item stands somewhere before another. -/
def Precedes {α : Type} (items : List α) (early late : α) : Prop := [early, late].Sublist items

theorem Precedes.append {α : Type} {items : List α} {early late : α} (before : Precedes items early late)
    (more : List α) : Precedes (items ++ more) early late :=
  before.trans (List.sublist_append_left items more)

theorem precedes_of_mem {α : Type} {items more : List α} {early late : α} (first : early ∈ items)
    (second : late ∈ more) : Precedes (items ++ more) early late :=
  (List.singleton_sublist.mpr first).append (List.singleton_sublist.mpr second)

theorem precedes_concat {α : Type} {items : List α} {early late last : α}
    (before : Precedes (items ++ [last]) early late) :
    Precedes items early late ∨ early ∈ items ∧ late = last := by
  obtain ⟨front, back, cut, first, second⟩ := List.sublist_append_iff.mp before
  rcases List.sublist_singleton.mp second with rfl | rfl
  · rw [List.append_nil] at cut
    exact Or.inl (by rwa [← cut] at first)
  · obtain ⟨rfl, rfl⟩ : front = [early] ∧ late = last := by
      cases front with
      | nil => cases cut
      | cons x xs =>
          cases xs with
          | nil =>
              cases cut
              exact ⟨rfl, rfl⟩
          | cons y ys => simp at cut
    exact Or.inr ⟨List.singleton_sublist.mp first, rfl⟩

namespace Service

open Store

variable {ι σ World : Type} {backing : Backing World}

def performAll (backing : Backing World) (s : Store σ) (world : World) :
    List Call → List Answer × Store σ × World
  | [] => ([], s, world)
  | call :: rest =>
    let (answer, s', world') := call.perform backing s world
    let (answers, after) := performAll backing s' world' rest
    (answer :: answers, after)

theorem performAll_append (s : Store σ) (world : World) (calls more : List Call) :
    performAll backing s world (calls ++ more) =
      ((performAll backing s world calls).1 ++
          (performAll backing (performAll backing s world calls).2.1
            (performAll backing s world calls).2.2 more).1,
        (performAll backing (performAll backing s world calls).2.1
          (performAll backing s world calls).2.2 more).2) := by
  induction calls generalizing s world with
  | nil => rfl
  | cons call rest ih => simp only [List.cons_append, performAll, ih]

theorem Decides.performAll_eq {call : Call} {s s' : Store σ} {world world' : World}
    {before after : Stage σ} {answers : List Answer}
    (decides : Decides backing call s world before after answers s' world') :
    performAll backing s world (answers.map fun _ => call) = (answers, s', world') := by
  cases decides with
  | passes same => rfl
  | counts undecided performed decided => simp only [List.map_cons, List.map_nil, performAll, performed]

variable {service service' : Service ι σ World} {calls : ι → Call} {i : ι}

/-- The calls that are decided, in a row that accounts for the store and for every answer. -/
structure Linearized (backing : Backing World) (calls : ι → Call) (s : Store σ) (world : World)
    (service : Service ι σ World) (row : List (ι × Answer)) : Prop where
  sequential : performAll backing s world (row.map fun one => calls one.1) =
    (row.map (·.2), service.store, service.world)
  decided : ∀ i answer,
    (i, answer) ∈ row ↔ (service.stages i).answer? service.store.live = some answer
  distinct : (row.map (·.1)).Nodup
  fits : ∀ i, (service.stages i).Fits (calls i) service.store
  holds : ∀ i, (service.stages i).Holds → service.writer = some i
  quiet : Quiet service.store
  invoked : ∀ i, .invoked i ∈ service.history ↔ service.stages i ≠ .idle
  returned : ∀ i answer,
    .returned i answer ∈ service.history → service.stages i = .returned answer
  realTime : ∀ i j answer, Precedes service.history (.returned i answer) (.invoked j) →
    j ∈ row.map (·.1) → Precedes (row.map (·.1)) i j

theorem linearized_start {s : Store σ} (quiet : Quiet s) (backing : Backing World)
    (calls : ι → Call) (world : World) :
    Linearized backing calls s world (start s world) [] where
  sequential := rfl
  decided := by simp [start, Stage.answer?]
  distinct := List.nodup_nil
  fits := fun _ => trivial
  holds := fun _ => False.elim
  quiet := quiet
  invoked := by simp [start]
  returned := by simp [start]
  realTime := by simp

namespace Linearized

variable {s : Store σ} {world : World} {row : List (ι × Answer)} {answers : List Answer}
  {moments : List (Moment ι)}

theorem live_of_holds (linearized : Linearized backing calls s world service row)
    (stepped : Stepped backing (calls i) i service service' answers moments) {j : ι} (other : j ≠ i)
    (held : (service.stages j).Holds) : service'.store.live = service.store.live := by
  rcases stepped.live with same | holding
  · exact same
  · have mine := linearized.holds i holding
    rw [linearized.holds j held] at mine
    exact absurd (Option.some.inj mine) other

theorem decided_step (linearized : Linearized backing calls s world service row)
    (stepped : Stepped backing (calls i) i service service' answers moments) (j : ι) (answer : Answer) :
    (j, answer) ∈ row ++ answers.map (i, ·) ↔
      (service'.stages j).answer? service'.store.live = some answer := by
  by_cases same : j = i
  · subst same
    rw [← stepped.decides.answer_iff answer, ← linearized.decided]
    simp
  · rw [stepped.others j same, Stage.answer_frame (linearized.live_of_holds stepped same),
      ← linearized.decided]
    simp [Ne.symm same]

theorem distinct_step (linearized : Linearized backing calls s world service row)
    (stepped : Stepped backing (calls i) i service service' answers moments) :
    ((row ++ answers.map (i, ·)).map (·.1)).Nodup := by
  rcases stepped.decides.answers_cases with rfl | ⟨undecided, answer, rfl⟩
  · simpa using linearized.distinct
  · have fresh : i ∉ row.map (·.1) := by
      intro member
      obtain ⟨⟨j, earlier⟩, here, rfl⟩ := List.mem_map.mp member
      rw [(linearized.decided j earlier).mp here] at undecided
      cases undecided
    rw [List.map_append]
    exact List.nodup_append.mpr ⟨linearized.distinct, List.nodup_singleton i, by
      rintro j member _ last rfl
      rw [List.mem_singleton.mp last] at member
      exact fresh member⟩

theorem sequential_step (linearized : Linearized backing calls s world service row)
    (stepped : Stepped backing (calls i) i service service' answers moments) :
    performAll backing s world ((row ++ answers.map (i, ·)).map fun one => calls one.1) =
      ((row ++ answers.map (i, ·)).map (·.2), service'.store, service'.world) := by
  have next := stepped.decides.performAll_eq
  simp only [List.map_append, List.map_map, Function.comp_def, List.map_id'] at next ⊢
  rw [performAll_append, linearized.sequential, next]

theorem realTime_step (linearized : Linearized backing calls s world service row)
    (stepped : Stepped backing (calls i) i service service' answers moments) {k j : ι} {answer : Answer}
    (before : Precedes service'.history (.returned k answer) (.invoked j))
    (member : j ∈ (row ++ answers.map (i, ·)).map (·.1)) :
    Precedes ((row ++ answers.map (i, ·)).map (·.1)) k j := by
  have earlier : Precedes service.history (.returned k answer) (.invoked j) := by
    rw [stepped.history] at before
    rcases stepped.notes.moments_cases with rfl | ⟨moment, rfl⟩
    · rwa [List.append_nil] at before
    · rcases precedes_concat before with earlier | ⟨-, rfl⟩
      · exact earlier
      · -- A call that is only now invoked is not decided by the same step.
        obtain ⟨rfl, invoked⟩ := stepped.notes.of_invoked (List.mem_singleton_self _)
        obtain ⟨⟨j, decision⟩, here, rfl⟩ := List.mem_map.mp member
        have undecided := (linearized.decided_step stepped j decision).mp here
        rw [invoked] at undecided
        cases undecided
  rw [List.map_append] at member ⊢
  rcases List.mem_append.mp member with there | new
  · exact (linearized.realTime k j answer earlier there).append _
  · refine precedes_of_mem ?_ new
    have left := linearized.returned k answer (earlier.subset List.mem_cons_self)
    exact List.mem_map.mpr ⟨(k, answer), (linearized.decided k answer).mpr (by rw [left]; rfl), rfl⟩

theorem keeps (linearized : Linearized backing calls s world service row)
    (stepped : Stepped backing (calls i) i service service' answers moments) :
    Linearized backing calls s world service' (row ++ answers.map (i, ·)) where
  sequential := linearized.sequential_step stepped
  decided := linearized.decided_step stepped
  distinct := linearized.distinct_step stepped
  fits := by
    intro j
    by_cases same : j = i
    · rw [same]
      exact stepped.fits
    · rw [stepped.others j same]
      exact Stage.fits_frame stepped.computed (linearized.live_of_holds stepped same) (linearized.fits j)
  holds := by
    intro j held
    by_cases same : j = i
    · rw [same] at held ⊢
      exact stepped.holds held
    · rw [stepped.others j same] at held
      exact stepped.writer j same (linearized.holds j held)
  quiet := quiet_of_sameComputed stepped.computed linearized.quiet
  invoked := by
    intro j
    rw [stepped.history, List.mem_append, linearized.invoked]
    by_cases same : j = i
    · subst same
      refine ⟨fun _ => stepped.notes.after_ne_idle, fun _ => ?_⟩
      by_cases idle : service.stages j = .idle
      · exact Or.inr (stepped.notes.invoked_mem idle)
      · exact Or.inl idle
    · rw [stepped.others j same]
      exact ⟨fun noted => noted.resolve_right fun new => same (stepped.notes.of_invoked new).1, Or.inl⟩
  returned := by
    intro j answer noted
    rw [stepped.history] at noted
    rcases List.mem_append.mp noted with earlier | new
    · have left := linearized.returned j answer earlier
      -- a call that has returned takes no further step
      have other : j ≠ i := by
        rintro rfl
        exact stepped.notes.before_ne_returned answer left
      rw [stepped.others j other, left]
    · obtain ⟨rfl, left⟩ := stepped.notes.of_returned new
      exact left
  realTime := fun _ _ _ => linearized.realTime_step stepped

theorem keeps_run [DecidableEq ι] (linearized : Linearized backing calls s world service row)
    {schedule : List ι} (ran : run backing calls service schedule = some service') :
    ∃ row', Linearized backing calls s world service' row' := by
  induction schedule generalizing service row with
  | nil =>
      cases ran
      exact ⟨row, linearized⟩
  | cons i rest ih =>
      obtain ⟨middle, taken, ran⟩ := Option.bind_eq_some_iff.mp ran
      obtain ⟨answers, moments, stepped⟩ :=
        stepped_of_step linearized.quiet (linearized.fits i) (linearized.holds i) taken
      exact ih (linearized.keeps stepped) ran

end Linearized

def storeAfter (backing : Backing World) (calls : ι → Call) (s : Store σ) (world : World)
    (row : List (ι × Answer)) : Store σ :=
  (performAll backing s world (row.map fun one => calls one.1)).2.1

theorem length_performAll (s : Store σ) (world : World) (made : List Call) :
    (performAll backing s world made).1.length = made.length := by
  induction made generalizing s world with
  | nil => rfl
  | cons call rest ih => simp only [performAll, List.length_cons, ih]

theorem sameComputed_perform (s : Store σ) (world : World) (call : Call) :
    SameComputed s (call.perform backing s world).2.1 := by
  cases call with
  | list | nameAt => exact .refl s
  | access now name value => exact sameComputed_access s now name value
  | flush now => exact sameComputed_flush s backing now world

theorem sameComputed_performAll (s : Store σ) (world : World) (made : List Call) :
    SameComputed s (performAll backing s world made).2.1 := by
  induction made generalizing s world with
  | nil => exact .refl s
  | cons call rest ih => exact (sameComputed_perform s world call).trans (ih _ _)

theorem access_of_row {s : Store σ} {world : World} {front back : List (ι × Answer)}
    {result : Except Refusal Register}
    (sequential : (performAll backing s world
        ((front ++ (i, .accessed result) :: back).map fun one => calls one.1)).1 =
      (front ++ (i, Answer.accessed result) :: back).map (·.2))
    {now : Timestamp} {name : String} {value : Option Value} (made : calls i = .access now name value) :
    ((storeAfter backing calls s world front).access now name value).1 = result ∧
      ((storeAfter backing calls s world front).access now name value).2 =
        storeAfter backing calls s world (front ++ [(i, .accessed result)]) := by
  have lengths : (performAll backing s world (front.map fun one => calls one.1)).1.length =
      (front.map (·.2)).length := by
    rw [length_performAll, List.length_map, List.length_map]
  simp only [List.map_append, List.map_cons, performAll_append, performAll, made] at sequential
  have here := (List.append_inj sequential lengths).2
  simp only [List.cons.injEq] at here
  refine ⟨Answer.accessed.inj here.1, ?_⟩
  unfold storeAfter
  rw [List.map_append, performAll_append, List.map_singleton, made]
  rfl

/-- A row of calls that, made one after another, come to the same answers, the same store and the same
world. A call that returned before another was invoked comes before it. -/
structure Linearization (backing : Backing World) (calls : ι → Call) (s : Store σ) (world : World)
    (service : Service ι σ World) (row : List (ι × Answer)) : Prop where
  sequential : performAll backing s world (row.map fun one => calls one.1) =
    (row.map (·.2), service.store, service.world)
  distinct : (row.map (·.1)).Nodup
  invoked : ∀ i ∈ row.map (·.1), .invoked i ∈ service.history
  returned : ∀ i answer, .returned i answer ∈ service.history → (i, answer) ∈ row
  realTime : ∀ i j answer, Precedes service.history (.returned i answer) (.invoked j) →
    j ∈ row.map (·.1) → Precedes (row.map (·.1)) i j
  /-- A write that was taken returned what it left. -/
  taken : ∀ front i register back now name value,
    row = front ++ (i, .accessed (.ok register)) :: back → calls i = .access now name (some value) →
      ((storeAfter backing calls s world (front ++ [(i, .accessed (.ok register))])).get name).1 =
        .ok register
  /-- A write that was refused came with what stood there, and left it. -/
  refused : ∀ front i refusal back now name value,
    row = front ++ (i, .accessed (.error refusal)) :: back → calls i = .access now name (some value) →
      refusal.current = ((storeAfter backing calls s world front).get name).1.toOption ∧
        storeAfter backing calls s world (front ++ [(i, .accessed (.error refusal))]) =
          storeAfter backing calls s world front

/-- However the steps of calls are scheduled, the calls that are decided by then can be put in a row of
their own. -/
theorem linearizable [DecidableEq ι] {s : Store σ} (quiet : Quiet s) {world : World} {schedule : List ι}
    (ran : run backing calls (start s world) schedule = some service) :
    ∃ row, Linearization backing calls s world service row := by
  obtain ⟨row, linearized⟩ := (linearized_start quiet backing calls world).keeps_run ran
  have quietly : ∀ front, Quiet (storeAfter backing calls s world front) := fun front =>
    quiet_of_sameComputed (sameComputed_performAll s world _) quiet
  refine ⟨row, linearized.sequential, linearized.distinct, ?_, ?_, linearized.realTime, ?_, ?_⟩
  · intro i member
    obtain ⟨⟨j, answer⟩, here, rfl⟩ := List.mem_map.mp member
    have decided := (linearized.decided j answer).mp here
    refine (linearized.invoked j).mpr fun idle => ?_
    rw [idle] at decided
    cases decided
  · intro i answer noted
    rw [linearized.decided, linearized.returned i answer noted]
    rfl
  · rintro front i register back now name value rfl made
    obtain ⟨result, after⟩ := access_of_row (congrArg (·.1) linearized.sequential) made
    rw [← after]
    exact access_taken (quietly front) result
  · rintro front i refusal back now name value rfl made
    obtain ⟨result, after⟩ := access_of_row (congrArg (·.1) linearized.sequential) made
    obtain ⟨unchanged, current⟩ := access_refused (quietly front) result
    exact ⟨current, after.symm.trans unchanged⟩

def kettleStore : Store Nat where
  entries := [(⟨"kettle.heat", by decide⟩, .computed
    ⟨fun live => (.array (.natural .w8) [BitVec.ofNat 8 live], live), some fun value _ =>
      match value with
      | .array (.natural .w8) (n :: _) => BitVec.toNat (w := 8) n
      | _ => 0⟩)]
  policy := .implicit
  durable := false
  dirty := false
  live := 20

def kettleCalls : Nat → Call
  | 0 => .access ⟨1, 0⟩ "kettle.heat" (some (.array (.natural .w16) [(90 : BitVec 16)]))
  | 1 => .access ⟨2, 0⟩ "kettle.heat" none
  | _ => .access ⟨3, 0⟩ "kettle.heat" (some (.string "hot"))

/-- The read is begun before the heat is set and ends before it is read back. The other write waits, and
is refused. -/
def kettleSchedule : List Nat :=
  [0, 0, 1, 0, 2, 2, 1, 0, 0, 1, 0, 1, 0, 0, 2, 0, 2, 2, 2, 2, 2]

theorem linearizable_kettle :
    ∃ service row, run (.volatile Unit) kettleCalls (start kettleStore ()) kettleSchedule = some service ∧
      service.history.length = 6 ∧
      Linearization (.volatile Unit) kettleCalls kettleStore () service row := by
  have quiet : Quiet kettleStore := by
    intro name key c found live
    cases List.mem_singleton.mp (mem_of_lookup found)
    rfl
  have ran : run (.volatile Unit) kettleCalls (start kettleStore ()) kettleSchedule = some _ := rfl
  obtain ⟨row, linearization⟩ := linearizable quiet ran
  exact ⟨_, row, ran, rfl, linearization⟩

end Service

end RegisterPlane
