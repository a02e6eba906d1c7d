import Mathlib.Data.List.Destutter
import RegisterPlane.Proofs.Group.Course

namespace RegisterPlane

theorem destutter'_concat {α : Type} [DecidableEq α] (first a : α) (l : List α) :
    (l ++ [a]).destutter' (· ≠ ·) first =
      if (first :: l).getLast? = some a then l.destutter' (· ≠ ·) first
      else l.destutter' (· ≠ ·) first ++ [a] := by
  induction l generalizing first with
  | nil => by_cases same : first = a <;> simp [same]
  | cons second l ih =>
      rw [List.getLast?_cons_cons, List.cons_append]
      by_cases same : first = second
      · subst same
        rw [List.destutter'_cons_neg _ (not_not.mpr rfl), List.destutter'_cons_neg _ (not_not.mpr rfl),
          ih]
      · rw [List.destutter'_cons_pos _ same, List.destutter'_cons_pos _ same, ih]
        split_ifs <;> rfl

theorem destutter_concat {α : Type} [DecidableEq α] (l : List α) (a : α) :
    (l ++ [a]).destutter (· ≠ ·) =
      if l.getLast? = some a then l.destutter (· ≠ ·) else l.destutter (· ≠ ·) ++ [a] := by
  cases l with
  | nil => simp
  | cons first l => exact destutter'_concat first a l

theorem mem_destutter {α : Type} [DecidableEq α] {l : List α} {a : α} (member : a ∈ l) :
    a ∈ l.destutter (· ≠ ·) := by
  induction l using List.reverseRecOn with
  | nil => cases member
  | append_singleton l last ih =>
      rw [destutter_concat]
      rcases List.mem_append.mp member with before | here
      · split_ifs
        · exact ih before
        · exact List.mem_append_left _ (ih before)
      · obtain rfl := List.mem_singleton.mp here
        split_ifs with repeated
        · exact ih (List.mem_of_getLast? repeated)
        · exact List.mem_append_right _ here

/-- The states told of a group, each once for as long as it lasts. -/
def phases (reports : List GroupReport) : List GroupState :=
  (reports.map (·.state)).destutter (· ≠ ·)

/-- The phases of a group up to its present one, which may be without that of running. -/
def route (ran : Bool) : GroupState → List GroupState
  | .loaded => [.loaded]
  | .launching => [.loaded, .launching]
  | .running => [.loaded, .launching, .running]
  | .draining => [.loaded, .launching] ++ (if ran then [.running] else []) ++ [.draining]
  | .terminated => [.loaded, .launching] ++ (if ran then [.running] else []) ++ [.draining, .terminated]
  | .failed => [.loaded, .launching] ++ (if ran then [.running] else []) ++ [.draining, .failed]

/-- Where the controller of a group stands: it has gone the way there, it has told of it, and it does not
run before every process was tried. -/
structure Routed (c : Controller) : Prop where
  route : ∃ ran, phases c.published = route ran c.state
  last : (c.published.map (·.state)).getLast? = some c.state
  tried : c.state = .running → c.slots.length ≤ c.attempted

namespace Controller

theorem phases_publish (c : Controller) :
    phases c.publish.published =
      if (c.published.map (·.state)).getLast? = some c.state then phases c.published
      else phases c.published ++ [c.state] := by
  unfold phases publish
  rw [List.map_append]
  exact destutter_concat _ _

theorem last_publish (c : Controller) :
    (c.publish.published.map (·.state)).getLast? = some c.publish.state := by
  unfold publish
  rw [List.map_append]
  exact List.getLast?_concat

end Controller

namespace Routed

variable {c c' : Controller} {state : GroupState}

theorem of_same (routed : Routed c) (published : c'.published = c.published)
    (same : c'.state = c.state) (size : c'.slots.length = c.slots.length)
    (attempted : c.attempted ≤ c'.attempted) : Routed c' := by
  refine ⟨?_, ?_, ?_⟩
  · rw [published, same]
    exact routed.route
  · rw [published, same]
    exact routed.last
  · intro running
    rw [same] at running
    rw [size]
    exact (routed.tried running).trans attempted

theorem publish (routed : Routed c) : Routed c.publish := by
  refine ⟨?_, c.last_publish, routed.tried⟩
  rw [c.phases_publish, if_pos routed.last]
  exact routed.route

theorem enter (routed : Routed c) (moves : c.state ≠ state)
    (onward : ∀ ran, ∃ ran', RegisterPlane.route ran c.state ++ [state] = RegisterPlane.route ran' state)
    (tried : state = .running → c.slots.length ≤ c.attempted) : Routed (c.enter state) := by
  refine ⟨?_, Controller.last_publish _, tried⟩
  obtain ⟨ran, before⟩ := routed.route
  obtain ⟨ran', after⟩ := onward ran
  refine ⟨ran', ?_⟩
  have other : ¬(c.published.map (·.state)).getLast? = some state := by
    rw [routed.last]
    exact fun same => moves (Option.some.inj same)
  unfold Controller.enter
  rw [Controller.phases_publish, if_neg other]
  show phases c.published ++ [state] = RegisterPlane.route ran' state
  rw [before, after]

theorem state_mem (routed : Routed c) {r : GroupReport} (told : r ∈ c.published) :
    ∃ ran, r.state ∈ RegisterPlane.route ran c.state := by
  obtain ⟨ran, passed⟩ := routed.route
  exact ⟨ran, passed ▸ mem_destutter (List.mem_map_of_mem told)⟩

theorem undrained (routed : Routed c) (busy : c.state = .launching ∨ c.state = .running) :
    ∀ r ∈ c.published, r.state ≠ .draining := by
  intro r told draining
  obtain ⟨ran, passed⟩ := routed.state_mem told
  rw [draining] at passed
  rcases busy with launching | running
  · rw [launching] at passed
    simp [RegisterPlane.route] at passed
  · rw [running] at passed
    simp [RegisterPlane.route] at passed

theorem act {arrived : List Arrival} {seen : List Sighting} {sent : List StopMessage}
    (act : Act arrived c seen sent c') (routed : Routed c) : Routed c' := by
  cases act with
  | launch loaded =>
      refine routed.enter (by rw [loaded]; decide) (fun ran => ⟨ran, ?_⟩) (fun other => by cases other)
      rw [loaded]
      rfl
  | exit e =>
      exact routed.of_same (Controller.update_published ..) (Controller.update_state ..)
        (Controller.update_size ..) (Controller.update_attempted ..).ge
  | tell => exact routed.publish
  | attempt start launching =>
      exact Routed.publish (routed.of_same (Controller.update_published ..)
        (Controller.update_state ..) (Controller.update_size ..) (Nat.le_succ _))
  | run launching tried =>
      refine routed.enter (by rw [launching]; decide) (fun ran => ⟨true, ?_⟩) (fun _ => tried)
      rw [launching]
      rfl
  | drain busy =>
      have entered : Routed (c.enter .draining) := by
        rcases busy with launching | running
        · refine routed.enter (by rw [launching]; decide) (fun ran => ⟨false, ?_⟩)
            (fun other => by cases other)
          rw [launching]
          rfl
        · refine routed.enter (by rw [running]; decide) (fun ran => ⟨true, ?_⟩)
            (fun other => by cases other)
          rw [running]
          rfl
      have asked : Routed { c.enter .draining with slots := c.slots.map Slot.askToStop } :=
        entered.of_same rfl rfl (List.length_map _) le_rfl
      exact asked.publish
  | force => exact routed.of_same rfl rfl rfl le_rfl
  | finish draining =>
      refine routed.enter ?_ (fun ran => ⟨ran, ?_⟩) ?_
      · rw [draining]
        split_ifs <;> decide
      · rw [draining]
        split_ifs <;> cases ran <;> rfl
      · intro other
        split_ifs at other

end Routed

theorem routed_ofProcesses (processes : List ResolvedProcess) :
    Routed (Controller.ofProcesses processes) :=
  ⟨⟨false, rfl⟩, rfl, fun running => by cases running⟩

end RegisterPlane
