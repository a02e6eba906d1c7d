import Mathlib.Data.List.Forall2

namespace RegisterPlane

variable {ε ε' α β : Type}

theorem ok_of_bind {x : Except ε α} {f : α → Except ε β} {b : β} (done : (x >>= f) = .ok b) :
    ∃ a, x = .ok a ∧ f a = .ok b := by
  cases x with
  | error e => cases done
  | ok a => exact ⟨a, rfl, done⟩

theorem ok_of_map {x : Except ε α} {f : α → β} {b : β} (done : x.map f = .ok b) :
    ∃ a, x = .ok a ∧ f a = b := by
  cases x with
  | error e => cases done
  | ok a => exact ⟨a, rfl, Except.ok.inj done⟩

theorem ok_of_mapError {x : Except ε α} {tell : ε → ε'} {a : α} (done : x.mapError tell = .ok a) :
    x = .ok a := by
  cases x with
  | error e => cases done
  | ok a' =>
      cases done
      rfl

theorem parts_of_some {both : α × β} {a : α} {b : β} (done : some both = some (a, b)) :
    a = both.1 ∧ b = both.2 := by
  cases done
  exact ⟨rfl, rfl⟩

theorem forall₂_mem_left {α β : Type} {R : α → β → Prop} {l : List α} {l' : List β}
    (related : List.Forall₂ R l l') {x : α} (member : x ∈ l) : ∃ y ∈ l', R x y := by
  induction related with
  | nil => cases member
  | cons here _ ih =>
      rcases List.mem_cons.mp member with rfl | rest
      · exact ⟨_, List.mem_cons_self, here⟩
      · obtain ⟨y, there, related⟩ := ih rest
        exact ⟨y, List.mem_cons_of_mem _ there, related⟩

theorem forall₂_mem_right {α β : Type} {R : α → β → Prop} {l : List α} {l' : List β}
    (related : List.Forall₂ R l l') {y : β} (member : y ∈ l') : ∃ x ∈ l, R x y :=
  forall₂_mem_left (R := flip R) (List.Forall₂.flip (R := flip R) related) member

theorem exists_forall₂ {α β : Type} {R : α → β → Prop} {l : List α} (each : ∀ x ∈ l, ∃ y, R x y) :
    ∃ l', List.Forall₂ R l l' := by
  induction l with
  | nil => exact ⟨[], .nil⟩
  | cons x rest ih =>
      obtain ⟨y, here⟩ := each x List.mem_cons_self
      obtain ⟨l', related⟩ := ih fun x' member => each x' (List.mem_cons_of_mem _ member)
      exact ⟨y :: l', .cons here related⟩

theorem forall₂_imp_of_mem {α β : Type} {R S : α → β → Prop} {l : List α} {l' : List β}
    (related : List.Forall₂ R l l') (carried : ∀ x ∈ l, ∀ y ∈ l', R x y → S x y) : List.Forall₂ S l l' := by
  induction related with
  | nil => exact .nil
  | cons here _ ih =>
      refine .cons (carried _ List.mem_cons_self _ List.mem_cons_self here) (ih ?_)
      intro x member y member'
      exact carried x (List.mem_cons_of_mem _ member) y (List.mem_cons_of_mem _ member')

end RegisterPlane
