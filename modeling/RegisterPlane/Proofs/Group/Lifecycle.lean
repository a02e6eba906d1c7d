import RegisterPlane.Proofs.Group.Progress
import RegisterPlane.Proofs.Group.Route

namespace RegisterPlane

def StopInLaunch (arrived : List Arrival) : Prop :=
  ∃ exits start, ⟨.launching, .turn true exits start⟩ ∈ arrived

def StopInRun (arrived : List Arrival) : Prop := ⟨.running, .stopRequested⟩ ∈ arrived

def Controller.moments (c : Controller) : List GroupReport := c.published ++ [c.report 0]

theorem Controller.report_mem_moments (c : Controller) : c.report 0 ∈ c.moments :=
  List.mem_append_right _ (List.mem_singleton.mpr rfl)

theorem Controller.mem_moments {c : Controller} {r : GroupReport} (told : r ∈ c.published) :
    r ∈ c.moments :=
  List.mem_append_left _ told

/-- What holds of a group at every moment told of, and of how it stands. -/
structure Orderly (arrived : List Arrival) (c : Controller) : Prop where
  queued : ∀ r ∈ c.moments, r.Queued
  untried : ∀ r ∈ c.moments, r.state = .draining → r.Untried → StopInLaunch arrived ∨ r.Failing
  left : ∀ r ∈ c.moments, r.state = .draining → (∃ earlier ∈ c.moments, earlier.state = .running) →
    StopInRun arrived ∨ r.Failing ∨ r.Idle
  onward : c.moments.Pairwise GroupReport.Leads

namespace Orderly

variable {arrived : List Arrival} {c c' : Controller} {state : GroupState}

theorem later (orderly : Orderly arrived c) (a : Arrival) : Orderly (arrived ++ [a]) c := by
  refine ⟨orderly.queued, ?_, ?_, orderly.onward⟩
  · intro r told draining untried
    refine (orderly.untried r told draining untried).imp ?_ id
    exact fun ⟨exits, start, asked⟩ => ⟨exits, start, List.mem_append_left _ asked⟩
  · intro r told draining ran
    exact (orderly.left r told draining ran).imp (List.mem_append_left _) id

theorem publish (orderly : Orderly arrived c) : Orderly arrived c.publish := by
  have still : c.publish.moments = c.moments ++ [c.report 0] := rfl
  have same : ∀ r, r ∈ c.publish.moments ↔ r ∈ c.moments := by
    intro r
    rw [still, List.mem_append, List.mem_singleton]
    exact ⟨fun told => told.elim id fun now => now ▸ c.report_mem_moments, .inl⟩
  refine ⟨?_, ?_, ?_, ?_⟩
  · exact fun r told => orderly.queued r ((same r).mp told)
  · exact fun r told => orderly.untried r ((same r).mp told)
  · rintro r told draining ⟨earlier, told', ran⟩
    exact orderly.left r ((same r).mp told) draining ⟨earlier, (same earlier).mp told', ran⟩
  · rw [still, List.pairwise_append]
    refine ⟨orderly.onward, List.pairwise_singleton .., ?_⟩
    intro r told r' now
    rw [List.mem_singleton.mp now]
    rcases List.mem_append.mp told with before | now
    · exact (List.pairwise_append.mp orderly.onward).2.2 r before _ (List.mem_singleton.mpr rfl)
    · rw [List.mem_singleton.mp now]
      exact GroupReport.Leads.refl _

theorem replace (orderly : Orderly arrived c) (published : c'.published = c.published)
    (leads : (c.report 0).Leads (c'.report 0)) (queued : (c'.report 0).Queued)
    (untried : c'.state = .draining → (c'.report 0).Untried →
      StopInLaunch arrived ∨ (c'.report 0).Failing)
    (left : c'.state = .draining → (∃ earlier ∈ c.published, earlier.state = .running) →
      StopInRun arrived ∨ (c'.report 0).Failing ∨ (c'.report 0).Idle)
    (running : c'.state = .running → ∀ r ∈ c.published, r.state ≠ .draining) : Orderly arrived c' := by
  have now : c'.moments = c.published ++ [c'.report 0] := by rw [Controller.moments, published]
  have split : ∀ {r}, r ∈ c'.moments → r ∈ c.published ∨ r = c'.report 0 := by
    intro r told
    rw [now] at told
    exact (List.mem_append.mp told).imp id List.mem_singleton.mp
  obtain ⟨before, -, up⟩ := List.pairwise_append.mp orderly.onward
  refine ⟨?_, ?_, ?_, ?_⟩
  · intro r told
    rcases split told with told | rfl
    · exact orderly.queued r (Controller.mem_moments told)
    · exact queued
  · intro r told
    rcases split told with told | rfl
    · exact orderly.untried r (Controller.mem_moments told)
    · exact untried
  · rintro r told draining ⟨earlier, told', ran⟩
    rcases split told with told | rfl <;> rcases split told' with told' | rfl
    · exact orderly.left r (Controller.mem_moments told) draining
        ⟨earlier, Controller.mem_moments told', ran⟩
    · exact absurd draining (running ran r told)
    · exact left draining ⟨earlier, told', ran⟩
    · exact absurd (draining.symm.trans ran) (by decide)
  · rw [now, List.pairwise_append]
    refine ⟨before, List.pairwise_singleton .., ?_⟩
    intro r told r' last
    rw [List.mem_singleton.mp last]
    exact (up r told _ (List.mem_singleton.mpr rfl)).trans leads

theorem change (orderly : Orderly arrived c) (published : c'.published = c.published)
    (same : c'.state = c.state) (leads : (c.report 0).Leads (c'.report 0))
    (queued : (c'.report 0).Queued)
    (running : c.state = .running → ∀ r ∈ c.published, r.state ≠ .draining)
    (idle : c.state = .draining → (c.report 0).Idle → (c'.report 0).Idle) : Orderly arrived c' := by
  have here := c.report_mem_moments
  refine orderly.replace published leads queued ?_ ?_ (same ▸ running)
  · intro draining untried
    rw [same] at draining
    exact (orderly.untried _ here draining (leads.untried untried)).imp id leads.failing
  · rintro draining ⟨earlier, told, ran⟩
    rw [same] at draining
    exact (orderly.left _ here draining ⟨earlier, Controller.mem_moments told, ran⟩).imp id
      (Or.imp leads.failing (idle draining))

theorem enter (orderly : Orderly arrived c)
    (untried : state = .draining → (c.report 0).Untried →
      StopInLaunch arrived ∨ (c.report 0).Failing)
    (left : state = .draining → (∃ earlier ∈ c.published, earlier.state = .running) →
      StopInRun arrived ∨ (c.report 0).Failing ∨ (c.report 0).Idle)
    (running : state = .running → ∀ r ∈ c.published, r.state ≠ .draining) :
    Orderly arrived (c.enter state) := by
  have queued : (c.report 0).Queued := orderly.queued _ c.report_mem_moments
  have entered : Orderly arrived { c with state } :=
    orderly.replace rfl (GroupReport.Leads.refl _) queued untried left running
  exact entered.publish

end Orderly

variable {processes : List ResolvedProcess} {arrived : List Arrival} {seen : List Sighting}
  {c : Controller}

theorem orderly_ofProcesses (processes : List ResolvedProcess) :
    Orderly [] (Controller.ofProcesses processes) := by
  have queued : (Controller.report { slots := processes.map fun process => { process } } 0).Queued :=
    (sound_ofProcesses processes).queued
  have fresh : Orderly [] { slots := processes.map fun process => { process } } := by
    refine ⟨?_, ?_, ?_, List.pairwise_singleton ..⟩
    · intro r told
      rw [List.mem_singleton.mp told]
      exact queued
    · intro r told draining
      rw [List.mem_singleton.mp told] at draining
      cases draining
    · intro r told draining
      rw [List.mem_singleton.mp told] at draining
      cases draining
  exact fresh.publish

theorem not_untried_of_running (sound : Sound processes seen c) (routed : Routed c)
    (running : c.state = .running) : ¬(c.report 0).Untried := by
  rintro ⟨p, member, pending⟩
  obtain ⟨s, there, rfl⟩ := List.mem_map.mp member
  obtain ⟨index, found⟩ := List.getElem?_of_mem there
  have inside := (List.getElem?_eq_some_iff.mp found).1
  have late := (sound.pending_iff found).mp pending
  exact absurd (inside.trans_le (routed.tried running)) (not_lt.mpr late)

theorem DrainReason.untried (reason : DrainReason arrived c) (sound : Sound processes seen c)
    (routed : Routed c) (untried : (c.report 0).Untried) :
    StopInLaunch arrived ∨ (c.report 0).Failing := by
  cases reason with
  | crash failed => exact .inr ((failed_iff_reported sound.matched 0).mp failed)
  | stopInLaunch launching asked => exact .inl ⟨_, _, asked⟩
  | stopInRun running => exact absurd untried (not_untried_of_running sound routed running)
  | idle running => exact absurd untried (not_untried_of_running sound routed running)

theorem DrainReason.left (reason : DrainReason arrived c) (sound : Sound processes seen c)
    (routed : Routed c) (ran : ∃ earlier ∈ c.published, earlier.state = .running) :
    StopInRun arrived ∨ (c.report 0).Failing ∨ (c.report 0).Idle := by
  cases reason with
  | crash failed => exact .inr (.inl ((failed_iff_reported sound.matched 0).mp failed))
  | stopInLaunch launching =>
      obtain ⟨earlier, told, running⟩ := ran
      obtain ⟨ran, passed⟩ := routed.state_mem told
      rw [running, launching] at passed
      simp [route] at passed
  | stopInRun running asked => exact .inl asked
  | idle running gone => exact .inr (.inr ((c.report_idle_iff 0).mpr gone))

theorem orderly_drain (sound : Sound processes seen c) (routed : Routed c) (orderly : Orderly arrived c)
    (reason : DrainReason arrived c) (queued : (((c.enter .draining).askToStop).report 0).Queued) :
    Orderly arrived (c.enter .draining).askToStop := by
  have entered : Orderly arrived (c.enter .draining) :=
    orderly.enter (fun _ => reason.untried sound routed) (fun _ => reason.left sound routed)
      (fun other => by cases other)
  have asked : Orderly arrived { c.enter .draining with slots := c.slots.map Slot.askToStop } := by
    refine entered.change rfl rfl ?_ queued (fun other => by cases other) fun _ idle => ?_
    · exact (c.enter .draining).leads_askToStop
    · exact (c.enter .draining).idle_askToStop idle
  exact asked.publish

theorem orderly_act {seen' : List Sighting} {sent : List StopMessage} {c' : Controller}
    (act : Act arrived c seen' sent c') (accounted : Accounted (seen ++ seen'))
    (sound : Sound processes seen c) (routed : Routed c) (orderly : Orderly arrived c) :
    Orderly arrived c' := by
  have queued : (c'.report 0).Queued := (sound_act act accounted sound).queued
  have undrained : c.state = .running → ∀ r ∈ c.published, r.state ≠ .draining :=
    fun running => routed.undrained (.inr running)
  cases act with
  | launch =>
      exact orderly.enter (fun other => by cases other) (fun other => by cases other)
        (fun other => by cases other)
  | exit e =>
      exact orderly.change (Controller.update_published ..) (Controller.update_state ..)
        (sound.exit_leads accounted) queued undrained fun _ => sound.exit_idle accounted
  | tell => exact orderly.publish
  | attempt start launching =>
      have tried : Orderly arrived
          { c.update c.attempted (·.attempt start) with attempted := c.attempted + 1 } := by
        refine orderly.change (Controller.update_published ..) (Controller.update_state ..)
          (sound.attempt_leads start) queued undrained fun draining => ?_
        rw [launching] at draining
        cases draining
      exact tried.publish
  | run launching =>
      exact orderly.enter (fun other => by cases other) (fun other => by cases other)
        fun _ => routed.undrained (.inl launching)
  | drain busy reason => exact orderly_drain sound routed orderly reason queued
  | force =>
      exact orderly.change rfl rfl (GroupReport.Leads.refl _) queued undrained fun _ idle => idle
  | finish =>
      refine orderly.enter ?_ ?_ ?_ <;>
        (intro other; split_ifs at other)

theorem Slot.exit_fails {s : Slot} (optional : s.process.required = false)
    (status : Except String ExitStatus) : (s.exit status).fails = false := by
  rw [Slot.fails, s.exit_process status, optional, Bool.and_false]

theorem failed_onExit (e : ProcessExit)
    (optional : ∀ p, (c.report 0).processes[e.index]? = some p → p.required = false) :
    (c.onExit e).failed = c.failed := by
  unfold Controller.onExit Controller.update
  cases found : c.slots[e.index]? with
  | none => rfl
  | some s =>
      have free : s.process.required = false :=
        optional s.report (by simp [Controller.report, found])
      show (c.failed || (s.exit e.status).fails) = c.failed
      rw [Slot.exit_fails free, Bool.or_false]

theorem isAlive_onExit (e : ProcessExit) {index : Nat} {p : ProcessReport} (other : index ≠ e.index)
    (there : (c.report 0).processes[index]? = some p) (alive : p.state.isAlive = true) :
    (c.onExit e).isAlive = true := by
  simp only [Controller.report, List.getElem?_map] at there
  obtain ⟨s, found, rfl⟩ := Option.map_eq_some_iff.mp there
  have kept : (c.onExit e).slots[index]? = some s := by
    rw [Controller.onExit, Controller.update_slots, List.getElem?_modify, found]
    simp [other.symm]
  exact List.any_eq_true.mpr ⟨s, List.mem_of_getElem? kept, alive⟩

/-- What a group goes through, after what has arrived. -/
structure Lifecycle (arrived : List Arrival) (c : Controller) : Prop where
  /-- It is loaded, launches, may run, drains and ends, in this order. -/
  route : ∃ ran, phases c.published = route ran c.state
  current : c.published.getLast? = some (c.report 0)
  queued : ∀ r ∈ c.published, r.Queued
  /-- Draining finds a process untried only after a stop asked for in the launch, or a crash. -/
  untried : ∀ r ∈ c.published, r.state = .draining → r.Untried → StopInLaunch arrived ∨ r.Failing
  /-- Running is left for these reasons alone; the first report of draining shows the processes as they
  were then. -/
  left : ∀ r ∈ c.published, r.state = .draining →
    (∃ earlier ∈ c.published, earlier.state = .running) → StopInRun arrived ∨ r.Failing ∨ r.Idle
  /-- The end of a process that is not required does not end running while another is alive. -/
  absorbed : c.state = .running → ∀ e : ProcessExit,
    (∀ p, (c.report 0).processes[e.index]? = some p → p.required = false) →
    (∃ index p, index ≠ e.index ∧ (c.report 0).processes[index]? = some p ∧ p.state.isAlive = true) →
    ∃ c' told, c.step? (.exited e) = some (c', told) ∧ c'.state = .running
  onward : c.published.Pairwise GroupReport.Leads
  ended : c.state.isTerminal = true → ∀ logLines, (c.report logLines).Idle

theorem running_absorbs (settled : c.Settled) (running : c.state = .running) {e : ProcessExit}
    (optional : ∀ p, (c.report 0).processes[e.index]? = some p → p.required = false)
    (others : ∃ index p, index ≠ e.index ∧ (c.report 0).processes[index]? = some p ∧
      p.state.isAlive = true) :
    ∃ c' told, c.step? (.exited e) = some (c', told) ∧ c'.state = .running := by
  obtain ⟨index, p, other, there, alive⟩ := others
  have lasting : ((c.observe e).failed || !(c.observe e).isAlive) = false := by
    have failed : (c.observe e).failed = false :=
      (failed_onExit e optional).trans (settled.running running).1
    have alive : (c.observe e).isAlive = true := isAlive_onExit e other there alive
    rw [failed, alive]
    rfl
  refine ⟨c.observe e, [], ?_, (Controller.update_state ..).trans running⟩
  simp [Controller.step?, running, Controller.drainIfOver, lasting]

/-- Whatever arrives, and in whichever order, a group goes through its phases one after another, and its
processes through theirs. -/
theorem group_lifecycle {sent : List StopMessage} (course : Course processes arrived seen sent c)
    (accounted : Accounted seen) : Lifecycle arrived c := by
  have settled := settled_of_course course
  obtain ⟨sound, routed, orderly⟩ :
      Sound processes seen c ∧ Routed c ∧ Orderly arrived c :=
    course_keeps (fun arrived seen _ c => Sound processes seen c ∧ Routed c ∧ Orderly arrived c)
      ⟨sound_ofProcesses processes, routed_ofProcesses processes, orderly_ofProcesses processes⟩
      (fun a ⟨sound, routed, orderly⟩ => ⟨sound, routed, orderly.later a⟩)
      (fun act accounted ⟨sound, routed, orderly⟩ =>
        ⟨sound_act act accounted sound, routed.act act, orderly_act act accounted sound routed orderly⟩)
      course accounted
  have told := @Controller.mem_moments c
  refine ⟨routed.route, settled.told, fun r here => orderly.queued r (told here),
    fun r here => orderly.untried r (told here), ?_, ?_,
    (List.pairwise_append.mp orderly.onward).1, ?_⟩
  · rintro r here draining ⟨earlier, before, ran⟩
    exact orderly.left r (told here) draining ⟨earlier, told before, ran⟩
  · exact fun running e => running_absorbs settled running
  · exact fun ended logLines => (c.report_idle_iff logLines).mpr (sound.verdict ended).1

theorem group_lifecycle_crew :
    ∃ arrived sent c, Course crew arrived crewSeen sent c ∧ Accounted crewSeen ∧ c.state = .failed ∧
      Lifecycle arrived c := by
  obtain ⟨arrived, sent, c, course, failed⟩ := crew_course
  exact ⟨arrived, sent, c, course, crew_accounted, failed, group_lifecycle course crew_accounted⟩

end RegisterPlane
