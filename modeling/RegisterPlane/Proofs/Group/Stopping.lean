import RegisterPlane.Proofs.Group.Chronicle

namespace RegisterPlane

/-- Nothing was seen of starts. -/
def OnlyExits (seen : List Sighting) : Prop := ∀ index outcome, .start index outcome ∉ seen

/-- What happens up to some moment as far as stopping goes: at first things are seen, then the group is
drained and everybody alive is asked to stop, and then the grace period is over and everybody alive is
forced to. -/
inductive StopHistory : List Happening → Controller → Prop where
  | busy {seen : List Sighting} {c : Controller} (busy : c.state.isWindingDown = false)
      (waiting : c.forced = false) : StopHistory (asSeen seen) c
  | asked {before after : List Sighting} {asked : List Nat} {c : Controller}
      (drained : c.state.isWindingDown = true) (waiting : c.forced = false) (once : asked.Nodup)
      (exactly : ∀ index, index ∈ asked ↔ Living before index) (ending : OnlyExits after) :
      StopHistory (asSeen before ++ [.drains] ++ tellAll .graceful asked ++ asSeen after) c
  | forced {before between after : List Sighting} {asked forced : List Nat} {c : Controller}
      (drained : c.state.isWindingDown = true) (elapsed : c.forced = true) (once : asked.Nodup)
      (exactly : ∀ index, index ∈ asked ↔ Living before index) (ending : OnlyExits (between ++ after))
      (again : forced.Nodup) (left : ∀ index, index ∈ forced ↔ Living (before ++ between) index) :
      StopHistory (asSeen before ++ [.drains] ++ tellAll .graceful asked ++ asSeen between ++
        [.elapses] ++ tellAll .force forced ++ asSeen after) c

variable {processes : List ResolvedProcess} {seen : List Sighting} {history : List Happening}
  {c : Controller}

theorem onlyExits_nil : OnlyExits [] := fun _ _ => List.not_mem_nil

theorem OnlyExits.append {later : List Sighting} (before : OnlyExits seen) (after : OnlyExits later) :
    OnlyExits (seen ++ later) := by
  intro index outcome member
  exact (List.mem_append.mp member).elim (before index outcome) (after index outcome)

inductive MayDrain (processes : List ResolvedProcess) (seen : List Sighting) (c : Controller) :
    Controller × List StopMessage → Prop where
  | stays {c' : Controller} (busy : c'.state.isWindingDown = false) (forced : c'.forced = c.forced) :
      MayDrain processes seen c (c', [])
  | drains {noted : Controller} (tracked : Tracked processes seen noted)
      (busy : noted.state.isWindingDown = false) (forced : noted.forced = c.forced) :
      MayDrain processes seen c noted.drain

theorem Tracked.drainIfOver (tracked : Tracked processes seen c) (running : c.state = .running) :
    MayDrain processes seen c c.drainIfOver := by
  have busy : c.state.isWindingDown = false := by simp [running, GroupState.isWindingDown]
  unfold Controller.drainIfOver
  split
  · exact .drains tracked busy rfl
  · exact .stays busy rfl

theorem MayDrain.of_forced {c' : Controller} {answer : Controller × List StopMessage}
    (drains : MayDrain processes seen c' answer) (forced : c'.forced = c.forced) :
    MayDrain processes seen c answer := by
  cases drains with
  | stays busy same => exact .stays busy (same.trans forced)
  | drains tracked busy same => exact .drains tracked busy (same.trans forced)

theorem Tracked.proceed (tracked : Tracked processes seen c) (launching : c.state = .launching) :
    MayDrain processes seen c c.proceed := by
  have busy : c.state.isWindingDown = false := by simp [launching, GroupState.isWindingDown]
  unfold Controller.proceed
  split_ifs with failed untried
  · exact .drains tracked busy rfl
  · exact .stays busy rfl
  · have entered : Sound processes (seen ++ []) (c.enter .running) :=
      tracked.sound.of_same rfl rfl rfl fun ended => by cases ended
    rw [List.append_nil] at entered
    exact (Tracked.drainIfOver ⟨entered, tracked.within⟩ rfl).of_forced rfl

@[simp] theorem update_forced (c : Controller) (index : Nat) (change : Slot → Slot) :
    (c.update index change).forced = c.forced := by
  unfold Controller.update
  split <;> rfl

@[simp] theorem foldl_onExit_forced (exits : List ProcessExit) (c : Controller) :
    (exits.foldl Controller.onExit c).forced = c.forced := by
  induction exits generalizing c with
  | nil => rfl
  | cons e rest ih => exact (ih _).trans (update_forced ..)

theorem Tracked.turn (tracked : Tracked processes seen c) (settled : c.Settled)
    (launching : c.state = .launching) {stop : Bool} {exits : List ProcessExit} {start : StartOutcome}
    (accounted : Accounted (seen ++ c.sightings (.turn stop exits start))) :
    MayDrain processes (seen ++ c.sightings (.turn stop exits start)) c (c.turn stop exits start) := by
  unfold Controller.sightings Controller.turn at *
  cases stop with
  | true =>
      have busy : c.state.isWindingDown = false := by simp [launching, GroupState.isWindingDown]
      simpa using MayDrain.drains tracked busy rfl
  | false =>
      simp only [Bool.false_eq_true, if_false] at accounted ⊢
      rw [← List.append_assoc] at accounted ⊢
      have going : c.state.isTerminal = false := by
        rw [launching]
        rfl
      have exiting : Acts [] c (c.sightExits exits) [] (exits.foldl Controller.onExit c) :=
        Controller.acts_exits exits going
      have noted := tracked_acts exiting accounted.of_append tracked
      have still := (Controller.foldl_onExit_state exits c).trans launching
      have left : (exits.foldl Controller.onExit c).attempted <
          (exits.foldl Controller.onExit c).slots.length := by
        rw [Controller.foldl_onExit_attempted, Controller.foldl_onExit_size]
        exact settled.launching launching
      have forced := foldl_onExit_forced exits c
      generalize exits.foldl Controller.onExit c = c' at noted still left forced accounted ⊢
      refine MayDrain.of_forced ?_ forced
      split_ifs with failed
      · have busy : c'.state.isWindingDown = false := by simp [still, GroupState.isWindingDown]
        simpa using MayDrain.drains noted busy rfl
      · rw [if_neg failed] at accounted
        have trying : Act [] c' [.start c'.attempted start] [] (c'.attempt start) :=
          .attempt start still left
        have tried := tracked_act trying accounted noted
        have state : (c'.attempt start).state = .launching := (Controller.update_state ..).trans still
        exact (tried.proceed state).of_forced (update_forced ..)

inductive StopStep (processes : List ResolvedProcess) (seen : List Sighting) (c : Controller)
    (e : Event) : Controller × List StopMessage → Prop where
  | busy {answer : Controller × List StopMessage} (busy : c.state.isWindingDown = false)
      (drains : MayDrain processes (seen ++ c.sightings e) c answer) (early : e.isElapse = false) :
      StopStep processes seen c e answer
  | late {c' : Controller} (drained : c.state.isWindingDown = true)
      (still : c'.state.isWindingDown = true) (forced : c'.forced = c.forced)
      (early : e.isElapse = false) (ending : OnlyExits (c.sightings e)) :
      StopStep processes seen c e (c', [])
  | forces (draining : c.state = .draining) (first : c.forced = false) (elapsed : e = .graceElapsed) :
      StopStep processes seen c e c.force

theorem Tracked.step (tracked : Tracked processes seen c) (settled : c.Settled) {e : Event}
    {answer : Controller × List StopMessage} (accounted : Accounted (seen ++ c.sightings e))
    (stepped : c.step? e = some answer) : StopStep processes seen c e answer := by
  unfold Controller.step? at stepped
  split at stepped
  next stop exits start launching =>
    cases stepped
    have busy : c.state.isWindingDown = false := by simp [launching, GroupState.isWindingDown]
    exact .busy busy (tracked.turn settled launching accounted) rfl
  next exit running =>
    cases stepped
    have busy : c.state.isWindingDown = false := by simp [running, GroupState.isWindingDown]
    have going : c.state.isTerminal = false := by
      rw [running]
      rfl
    have exiting : Acts [] c [c.sightExit exit] [] (c.observe exit) :=
      Controller.acts_observe exit going
    have noted := tracked_acts exiting accounted tracked
    have state : (c.observe exit).state = .running := (Controller.update_state ..).trans running
    exact .busy busy ((noted.drainIfOver state).of_forced (update_forced ..)) rfl
  next running =>
    cases stepped
    have busy : c.state.isWindingDown = false := by simp [running, GroupState.isWindingDown]
    refine .busy busy (.drains ?_ busy rfl) rfl
    simpa [Controller.sightings] using tracked
  next exit draining =>
    cases stepped
    have state : (c.observe exit).state = .draining := (Controller.update_state ..).trans draining
    have drained : c.state.isWindingDown = true := by simp [draining, GroupState.isWindingDown]
    refine .late drained ?_ ?_ rfl (by simp [OnlyExits, Controller.sightings, Controller.sightExit])
    · unfold Controller.finishIfDone
      split_ifs
      · rw [state]
        rfl
      · rfl
      · rfl
    · unfold Controller.finishIfDone
      split_ifs <;> exact update_forced ..
  next draining =>
    cases stepped
    have drained : c.state.isWindingDown = true := by simp [draining, GroupState.isWindingDown]
    exact .late drained drained rfl rfl (by simp [OnlyExits, Controller.sightings])
  next draining =>
    split_ifs at stepped with forced
    cases stepped
    exact .forces draining ((Bool.not_eq_true _).mp forced) rfl
  next => cases stepped

theorem Controller.drain_windsDown (c : Controller) : c.drain.1.state.isWindingDown = true := by
  unfold drain finishIfDone
  dsimp only
  split_ifs <;> rfl

theorem Controller.drain_forced (c : Controller) : c.drain.1.forced = c.forced := by
  unfold drain finishIfDone
  dsimp only
  split_ifs <;> rfl

theorem StopHistory.busy_step {answer : Controller × List StopMessage}
    (waiting : c.forced = false) (busy : c.state.isWindingDown = false)
    (drains : MayDrain processes seen c answer) :
    StopHistory (asSeen seen ++ c.passage answer.1 ++ answer.2.map .told) answer.1 := by
  cases drains with
  | @stays c' still forced =>
      have form : StopHistory (asSeen seen) c' := .busy still (forced.trans waiting)
      simpa [Controller.passage, busy, still] using form
  | @drains noted tracked still forced =>
      have drained := noted.drain_windsDown
      have begun : c.passage noted.drain.1 = [.drains] := by
        rw [Controller.passage, busy, drained]
        rfl
      have told : noted.drain.2.map .told = tellAll .graceful noted.living :=
        noted.told_messages .graceful
      have form : StopHistory (asSeen seen ++ [.drains] ++ tellAll .graceful noted.living ++ asSeen [])
          noted.drain.1 :=
        .asked drained (noted.drain_forced.trans (forced.trans waiting)) noted.living_nodup
          tracked.mem_living onlyExits_nil
      rw [begun, told]
      simpa using form

theorem StopHistory.step (history' : StopHistory history c)
    (tracked : Tracked processes (sightingsOf history) c) {e : Event}
    {answer : Controller × List StopMessage}
    (steps : StopStep processes (sightingsOf history) c e answer) :
    StopHistory (history ++ c.happenings e answer) answer.1 := by
  unfold Controller.happenings
  cases steps with
  | busy busy drains early =>
      cases history' with
      | @busy seen c _ waiting =>
          rw [sightingsOf_asSeen] at drains
          simpa [early] using busy_step waiting busy drains
      | asked drained =>
          rw [busy] at drained
          cases drained
      | forced drained =>
          rw [busy] at drained
          cases drained
  | @late c' drained still forced early ending =>
      -- draining is not begun again, so that whatever is seen goes to the end of the history
      have none : c.passage c' = [] := by
        rw [Controller.passage, drained]
        rfl
      cases history' with
      | busy busy =>
          rw [busy] at drained
          cases drained
      | @asked before after asked c _ waiting once exactly ended =>
          have more := StopHistory.asked still (forced.trans waiting) once exactly (ended.append ending)
          simpa [none, early] using more
      | @forced before between after asked forced' c _ elapsed once exactly ended again left =>
          have both := ended.append ending
          rw [List.append_assoc] at both
          have more := StopHistory.forced still (forced.trans elapsed) once exactly both again left
          simpa [none, early] using more
  | forces draining first elapsed =>
      subst elapsed
      have drained : c.state.isWindingDown = true := by simp [draining, GroupState.isWindingDown]
      have none : c.passage c.force.1 = [] := by
        rw [Controller.passage, drained]
        rfl
      have told : c.force.2.map .told = tellAll .force c.living := c.told_messages .force
      cases history' with
      | busy busy =>
          rw [busy] at drained
          cases drained
      | @asked before after asked c _ waiting once exactly ended =>
          have living := tracked.mem_living
          simp only [sightingsOf_append, sightingsOf_asSeen, sightingsOf_drains, sightingsOf_tellAll,
            sightingsOf_nil, List.append_nil] at living
          have more := StopHistory.forced (c := c.force.1) drained rfl once exactly
            (ended.append onlyExits_nil) c.living_nodup living
          simpa [none, told, Controller.sightings, Event.isElapse] using more
      | forced _ elapsed =>
          rw [first] at elapsed
          cases elapsed

theorem Chronicle.stops (chronicle : Chronicle processes history c)
    (accounted : Accounted (sightingsOf history)) :
    Tracked processes (sightingsOf history) c ∧ StopHistory history c := by
  induction chronicle with
  | launched =>
      have start := tracked_ofProcesses processes
      have entering : Act [] (Controller.ofProcesses processes) [] []
          ((Controller.ofProcesses processes).enter .launching) := .launch rfl
      have acts : Acts [] (Controller.ofProcesses processes) []
          (Controller.ofProcesses processes).launch.2 (Controller.ofProcesses processes).launch.1 :=
        Controller.acts_launch processes
      have entered := tracked_act entering accounted_nil start
      have drains := (entered.proceed rfl).of_forced (c := Controller.ofProcesses processes) rfl
      rw [sightingsOf_launchHappenings]
      exact ⟨tracked_acts acts accounted_nil start,
        StopHistory.busy_step (c := Controller.ofProcesses processes) rfl rfl drains⟩
  | @step history c c' e told chronicle stepped ih =>
      rw [sightingsOf_append, sightingsOf_happenings] at accounted
      obtain ⟨tracked, form⟩ := ih accounted.of_append
      obtain ⟨arrived, sent, course⟩ := chronicle.course
      have settled := settled_of_course course
      have acts := (Controller.acts_step settled (List.mem_singleton.mpr rfl) stepped).1
      rw [sightingsOf_append, sightingsOf_happenings]
      exact ⟨tracked_acts acts accounted tracked,
        form.step tracked (tracked.step settled accounted stepped)⟩

theorem Living.before {later : List Sighting} {index : Nat} (living : Living (seen ++ later) index)
    (ending : OnlyExits later) : Living seen index := by
  obtain ⟨id, started⟩ := living.started
  have earlier := (List.mem_append.mp started).resolve_right (ending index _)
  exact ⟨⟨id, earlier⟩, fun status asked member =>
    living.lasting status asked (List.mem_append_left _ member)⟩

theorem asked_of_forced {before between after : List Sighting} {asked forced : List Nat} {index : Nat}
    (exactly : ∀ index, index ∈ asked ↔ Living before index) (ending : OnlyExits (between ++ after))
    (left : ∀ index, index ∈ forced ↔ Living (before ++ between) index) (member : index ∈ forced) :
    index ∈ asked := by
  have living := (left index).mp member
  exact (exactly index).mpr (living.before fun index outcome start =>
    ending index outcome (List.mem_append_left _ start))

/-- Everybody told to stop, in what comes after something, is alive by then; draining has begun, and who
is forced is so after the grace period. -/
def Fair (before history : List Happening) : Prop :=
  ∀ first m rest, history = first ++ .told m :: rest →
    Living (sightingsOf (before ++ first)) m.index ∧ .drains ∈ before ++ first ∧
      (m.mode = .force → .elapses ∈ before ++ first)

theorem Fair.append {before earlier later : List Happening} (fair : Fair before earlier)
    (onward : Fair (before ++ earlier) later) : Fair before (earlier ++ later) := by
  intro first m rest split
  rcases List.append_eq_append_iff.mp split with ⟨between, rfl, here⟩ | ⟨between, rfl, here⟩
  · simpa using onward between m rest here
  · cases between with
    | nil =>
        have none := onward [] m rest here.symm
        simpa using none
    | cons one between =>
        cases here
        exact fair first m between rfl

theorem fair_quiet {quiet : List Happening} (none : ∀ m, .told m ∉ quiet) (before : List Happening) :
    Fair before quiet := by
  rintro first m rest rfl
  exact absurd (List.mem_append_right first List.mem_cons_self) (none m)

theorem fair_orders {before : List Happening} {indices : List Nat} {mode : StopMode}
    (living : ∀ index ∈ indices, Living (sightingsOf before) index) (drains : .drains ∈ before)
    (elapsed : mode = .force → .elapses ∈ before) :
    Fair before (tellAll mode indices) := by
  intro first m rest split
  obtain ⟨early, late, rfl, earlier, later⟩ := List.map_eq_append_iff.mp split
  obtain ⟨index, others, rfl, same, -⟩ := List.map_eq_cons_iff.mp later
  cases same
  have none : sightingsOf first = [] := by
    rw [← earlier]
    exact sightingsOf_tellAll mode early
  rw [sightingsOf_append, none, List.append_nil]
  exact ⟨living index (by simp), List.mem_append_left _ drains,
    fun force => List.mem_append_left _ (elapsed force)⟩

theorem not_told_sighted (seen : List Sighting) (m : StopMessage) :
    .told m ∉ asSeen seen := by
  intro member
  obtain ⟨s, -, same⟩ := List.mem_map.mp member
  cases same

theorem StopHistory.fair (form : StopHistory history c) : Fair [] history := by
  have sighted : ∀ before (seen : List Sighting), Fair before (asSeen seen) := fun before seen =>
    fair_quiet (not_told_sighted seen) before
  have drains : ∀ before, Fair before [.drains] := fair_quiet (by simp)
  have elapses : ∀ before, Fair before [.elapses] := fair_quiet (by simp)
  have asking : ∀ {before : List Sighting} {asked : List Nat},
      (∀ index, index ∈ asked ↔ Living before index) →
      Fair [] (asSeen before ++ [.drains] ++ tellAll .graceful asked) := by
    intro before asked exactly
    refine ((sighted [] before).append (drains _)).append ?_
    refine fair_orders (fun index member => ?_) (by simp) (fun force => by cases force)
    simpa using (exactly index).mp member
  cases form with
  | @busy seen => exact sighted [] seen
  | asked _ _ _ exactly => exact (asking exactly).append (sighted _ _)
  | @forced before between after asked forced _ _ _ once exactly ending again left =>
      have elapsing : Fair [] _ := ((asking exactly).append (sighted _ between)).append (elapses _)
      refine (elapsing.append (fair_orders ?_ ?_ ?_)).append (sighted _ _)
      · intro index member
        simpa using (left index).mp member
      · simp
      · simp

theorem StopHistory.orders (form : StopHistory history c) (index : Nat) :
    ordersTo index history = [] ∨ ordersTo index history = [.graceful] ∨
      ordersTo index history = [.graceful, .force] := by
  cases form with
  | busy => exact .inl (ordersTo_asSeen index _)
  | asked _ _ once =>
      simp only [ordersTo_append, ordersTo_asSeen, ordersTo_drains, ordersTo_tellAll once]
      split_ifs <;> simp
  | @forced before between after asked forced _ _ _ once exactly ending again left =>
      have twice : index ∈ forced → index ∈ asked := asked_of_forced exactly ending left
      simp only [ordersTo_append, ordersTo_asSeen, ordersTo_drains, ordersTo_elapses,
        ordersTo_tellAll once, ordersTo_tellAll again]
      split_ifs with asked forced forced <;> simp_all

theorem exit_after {earlier later : List Happening} {index : Nat} {status : Except String ExitStatus}
    {asked : Bool} (seen : .exit index status asked ∈ sightingsOf (earlier ++ later))
    (first : .exit index status asked ∉ sightingsOf earlier) :
    ∃ between rest, earlier ++ later =
      earlier ++ between ++ .sighted (.exit index status asked) :: rest := by
  rw [sightingsOf_append] at seen
  obtain ⟨happening, member, same⟩ :=
    List.mem_filterMap.mp ((List.mem_append.mp seen).resolve_left first)
  cases happening <;> simp only [Happening.sighting?, reduceCtorEq, Option.some.injEq] at same
  subst same
  obtain ⟨between, rest, rfl⟩ := List.append_of_mem member
  exact ⟨between, rest, by simp⟩

theorem exit_after_asking {before : List Sighting} {indices : List Nat} {rest : List Happening}
    {index : Nat} {status : Except String ExitStatus} {asked : Bool}
    (exactly : ∀ index, index ∈ indices ↔ Living before index) (member : index ∈ indices)
    (seen : .exit index status asked ∈
      sightingsOf (asSeen before ++ [.drains] ++ tellAll .graceful indices ++ rest)) :
    ∃ first last, asSeen before ++ [.drains] ++ tellAll .graceful indices ++ rest =
        first ++ .sighted (.exit index status asked) :: last ∧
      .told ⟨index, .graceful⟩ ∈ first := by
  have lasting := ((exactly index).mp member).lasting status asked
  obtain ⟨between, last, split⟩ := exit_after seen (by simpa using lasting)
  exact ⟨_, last, split, by simp [tellAll, member]⟩

theorem StopHistory.ended (form : StopHistory history c) {index : Nat}
    {status : Except String ExitStatus} {asked : Bool}
    (seen : .exit index status asked ∈ sightingsOf history) :
    ∃ before rest, history = before ++ .sighted (.exit index status asked) :: rest ∧
      (ordersTo index history = [] ∨ .told ⟨index, .graceful⟩ ∈ before) := by
  have somewhere : ∃ before rest, history = before ++ .sighted (.exit index status asked) :: rest := by
    have inside : .exit index status asked ∈ sightingsOf ([] ++ history) := seen
    obtain ⟨before, rest, split⟩ := exit_after inside List.not_mem_nil
    exact ⟨before, rest, split⟩
  cases form with
  | busy =>
      obtain ⟨before, rest, split⟩ := somewhere
      exact ⟨before, rest, split, .inl (ordersTo_asSeen index _)⟩
  | @asked before after indices _ _ _ once exactly =>
      by_cases member : index ∈ indices
      · obtain ⟨first, last, split, told⟩ := exit_after_asking exactly member seen
        exact ⟨first, last, split, .inr told⟩
      · obtain ⟨first, last, split⟩ := somewhere
        exact ⟨first, last, split, .inl (by simp [ordersTo_tellAll once, member])⟩
  | @forced before between after indices forced _ _ _ once exactly ending again left =>
      by_cases member : index ∈ indices
      · rw [List.append_assoc, List.append_assoc, List.append_assoc] at seen ⊢
        obtain ⟨first, last, split, told⟩ := exit_after_asking exactly member seen
        exact ⟨first, last, split, .inr told⟩
      · have never : index ∉ forced := fun again => member (asked_of_forced exactly ending left again)
        obtain ⟨first, last, split⟩ := somewhere
        exact ⟨first, last, split,
          .inl (by simp [ordersTo_tellAll once, ordersTo_tellAll again, member, never])⟩

theorem step_windingDown {c' : Controller} {e : Event} {told : List StopMessage}
    (drained : c.state.isWindingDown = true) (stepped : c.step? e = some (c', told)) :
    c'.state.isWindingDown = true ∧ (e.isStop = true → c' = c ∧ told = []) := by
  unfold Controller.step? at stepped
  split at stepped
  next launching =>
    rw [launching] at drained
    cases drained
  next running =>
    rw [running] at drained
    cases drained
  next running =>
    rw [running] at drained
    cases drained
  next exit draining =>
    cases stepped
    refine ⟨?_, fun other => by cases other⟩
    unfold Controller.finishIfDone
    split_ifs
    · have state : (c.observe exit).state = c.state := Controller.update_state ..
      rw [state]
      exact drained
    · rfl
    · rfl
  next =>
    cases stepped
    exact ⟨drained, fun _ => ⟨rfl, rfl⟩⟩
  next =>
    split_ifs at stepped
    cases stepped
    exact ⟨drained, fun other => by cases other⟩
  next => cases stepped

/-- Stops asked for once draining has begun change nothing: without them all goes the same way. -/
theorem run_deaf {events : List Event} {answer : Controller × List StopMessage}
    (drained : c.state.isWindingDown = true) (ran : c.run? events = some answer) :
    c.run? (events.filter fun e => !e.isStop) = some answer := by
  induction events generalizing c answer with
  | nil => exact ran
  | cons e events ih =>
      obtain ⟨⟨next, first⟩, stepped, ran⟩ := Option.bind_eq_some_iff.mp ran
      obtain ⟨⟨last, rest⟩, going, done⟩ := Option.bind_eq_some_iff.mp ran
      obtain ⟨still, deaf⟩ := step_windingDown drained stepped
      have onward := ih still going
      cases stop : e.isStop with
      | true =>
          obtain ⟨rfl, rfl⟩ := deaf stop
          cases done
          simpa [stop] using onward
      | false =>
          rw [List.filter_cons_of_pos (by simp [stop])]
          simp only [Controller.run?, stepped, onward, Option.bind_eq_bind, Option.bind_some]
          exact done

/-- How a group is stopped, over everything that has happened so far. -/
structure StopProtocol (history : List Happening) (c : Controller) : Prop where
  form : StopHistory history c
  orders : ∀ index, ordersTo index history = [] ∨ ordersTo index history = [.graceful] ∨
    ordersTo index history = [.graceful, .force]
  /-- Nobody is told to stop before draining, nor without having been started, nor after its end was
  seen; and nobody is forced to before the grace period is over. -/
  fair : ∀ before m after, history = before ++ .told m :: after →
    Living (sightingsOf before) m.index ∧ .drains ∈ before ∧ (m.mode = .force → .elapses ∈ before)
  deaf : c.state.isWindingDown = true → ∀ events answer, c.run? events = some answer →
    c.run? (events.filter fun e => !e.isStop) = some answer
  /-- By the end every process that was started was seen to end, by itself or after it was asked to. -/
  ended : c.state.isTerminal = true → ∀ index id, .start index (.started id) ∈ sightingsOf history →
    ∃ before status asked after, history = before ++ .sighted (.exit index status asked) :: after ∧
      (ordersTo index history = [] ∨ .told ⟨index, .graceful⟩ ∈ before)

/-- Whatever arrives, and in whichever order: those alive when draining begins are asked to stop, those
still alive after the grace period are forced to, and nobody else is told anything or left behind. -/
theorem nobody_orphaned (chronicle : Chronicle processes history c)
    (accounted : Accounted (sightingsOf history)) : StopProtocol history c := by
  obtain ⟨tracked, form⟩ := chronicle.stops accounted
  refine ⟨form, form.orders, form.fair, fun drained events answer => run_deaf drained, ?_⟩
  intro terminal index id started
  have idle : c.isAlive = false := (tracked.sound.verdict terminal).1
  have gone : ¬Living (sightingsOf history) index := by
    intro living
    obtain ⟨s, found, alive⟩ := Controller.mem_living.mp ((tracked.mem_living index).mpr living)
    have some_alive : c.isAlive = true := List.any_eq_true.mpr ⟨s, List.mem_of_getElem? found, alive⟩
    rw [idle] at some_alive
    cases some_alive
  have ended : ∃ status asked, .exit index status asked ∈ sightingsOf history := by
    by_contra never
    exact gone ⟨⟨id, started⟩, fun status asked seen => never ⟨status, asked, seen⟩⟩
  obtain ⟨status, asked, seen⟩ := ended
  obtain ⟨before, after, split, how⟩ := form.ended seen
  exact ⟨before, status, asked, after, split, how⟩

theorem crew_chronicle : ∃ history c, Chronicle crew history c ∧ sightingsOf history = crewSeen ∧
    c.state = .failed ∧ ordersTo 0 history = [.graceful, .force] ∧ ordersTo 1 history = [] := by
  have begun : Chronicle crew _ _ := .launched
  have started := begun.step (e := .turn false [] (.started 11)) rfl
  have running := started.step (e := .turn false [] (.started 12)) rfl
  have crashed := running.step (e := .exited ⟨1, .ok (.code 3)⟩) rfl
  have again := crashed.step (e := .stopRequested) rfl
  have forced := again.step (e := .graceElapsed) rfl
  have ended := forced.step (e := .exited ⟨0, .ok (.signal 9)⟩) rfl
  exact ⟨_, _, ended, rfl, rfl, rfl, rfl⟩

theorem nobody_orphaned_crew :
    ∃ history c, Chronicle crew history c ∧ Accounted (sightingsOf history) ∧
      c.state.isTerminal = true ∧ StopProtocol history c ∧
      ordersTo 0 history = [.graceful, .force] ∧ ordersTo 1 history = [] := by
  obtain ⟨history, c, chronicle, seen, failed, server, worker⟩ := crew_chronicle
  have accounted : Accounted (sightingsOf history) := seen ▸ crew_accounted
  have ended : c.state.isTerminal = true := by
    rw [failed]
    rfl
  exact ⟨history, c, chronicle, accounted, ended, nobody_orphaned chronicle accounted, server, worker⟩

end RegisterPlane
