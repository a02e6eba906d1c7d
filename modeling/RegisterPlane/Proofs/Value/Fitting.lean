import Mathlib.Tactic
import RegisterPlane.Proofs.Outcome
import RegisterPlane.Store.Policy

namespace RegisterPlane

namespace Value

/-- The same kind and, for arrays, as many elements. -/
def SameShape (v w : Value) : Prop := v.kind = w.kind ∧ (w.kind.isNumeric = true → v.size = w.size)

theorem SameShape.refl (v : Value) : v.SameShape v := ⟨rfl, fun _ => rfl⟩

theorem SameShape.trans {u v w : Value} (first : u.SameShape v) (second : v.SameShape w) :
    u.SameShape w := by
  refine ⟨first.1.trans second.1, fun numeric => ?_⟩
  have between : v.kind.isNumeric = true := by rw [second.1]; exact numeric
  exact (first.2 between).trans (second.2 numeric)

theorem coerce_self (v : Value) : v.coerce v.kind = .ok v := if_pos rfl

theorem kind_of_coerce {v w : Value} {target : Kind} (coerced : v.coerce target = .ok w) :
    w.kind = target := by
  unfold coerce at coerced
  split at coerced
  next same =>
    cases coerced
    exact same
  next =>
    split at coerced
    · cases coerced
      rfl
    · cases coerced

theorem coerce_of_family {v : Value} {target : Kind} (family : v.kind.family = target.family) :
    ∃ w, v.coerce target = .ok w ∧ w.size = v.size := by
  unfold coerce
  split
  next => exact ⟨v, rfl, rfl⟩
  next differ =>
    cases v <;> cases target
    case array.array k elements k' =>
      exact ⟨.array k' (elements.map fun x => k'.ofScalar (k.toScalar x)), rfl,
        List.length_map ..⟩
    case string.string => exact absurd rfl differ
    case unstructured.unstructured => exact absurd rfl differ
    all_goals cases family

theorem coerce_of_ne_family {v : Value} {target : Kind} (apart : v.kind.family ≠ target.family) :
    v.coerce target = .error (Misfit.otherFamily.toError v.kind target) := by
  have differ : v.kind ≠ target := fun same => apart (by rw [same])
  unfold coerce
  rw [if_neg differ]
  split
  · exact absurd rfl apart
  · rfl

end Value

namespace Policy

/-- A value can be assigned: its kind is the stored one where the policy is strict, and of the stored
one's family otherwise, and an array has as many elements as the stored one. -/
def Admits (policy : Policy) (stored incoming : Value) : Prop :=
  (match policy with
    | .strict => incoming.kind = stored.kind
    | .implicit => incoming.kind.family = stored.kind.family) ∧
  (stored.kind.isNumeric = true → incoming.size = stored.size)

theorem Admits.family {policy : Policy} {stored incoming : Value}
    (fits : policy.Admits stored incoming) : incoming.kind.family = stored.kind.family := by
  cases policy with
  | implicit => exact fits.1
  | strict => exact congrArg Kind.family fits.1

theorem Admits.text {policy : Policy} {stored incoming : Value} (fits : policy.Admits stored incoming)
    (held : stored.kind = .string) : ∃ t, incoming = .string t := by
  have family := fits.family
  rw [held] at family
  cases incoming with
  | string t => exact ⟨t, rfl⟩
  | array k elements => cases family
  | unstructured bytes => cases family

theorem Admits.shape {policy : Policy} {stored incoming fitted : Value}
    (fits : policy.Admits stored incoming) (coerced : incoming.coerce stored.kind = .ok fitted) :
    fitted.SameShape stored := by
  obtain ⟨converted, same, size⟩ := Value.coerce_of_family fits.family
  rw [coerced] at same
  cases same
  exact ⟨Value.kind_of_coerce coerced, fun numeric => size.trans (fits.2 numeric)⟩

def misfit? (policy : Policy) (stored incoming : Value) : Option Misfit :=
  if policy = .strict ∧ incoming.kind ≠ stored.kind then some .strictPolicy
  else if incoming.kind.family ≠ stored.kind.family then some .otherFamily
  else if stored.kind.isNumeric = true ∧ incoming.size ≠ stored.size then
    some (.elementCount stored.size incoming.size)
  else none

theorem misfit_eq_none_iff (policy : Policy) (stored incoming : Value) :
    policy.misfit? stored incoming = none ↔ policy.Admits stored incoming := by
  unfold misfit? Admits
  cases policy with
  | implicit => split_ifs <;> simp_all
  | strict =>
      by_cases same : incoming.kind = stored.kind
      · simp [same]
      · simp [same]

theorem assign_eq (policy : Policy) (stored incoming : Value) :
    policy.assign stored incoming =
      if policy = .strict ∧ incoming.kind ≠ stored.kind then
        .error (Misfit.strictPolicy.toError incoming.kind stored.kind)
      else
        (incoming.coerce stored.kind).bind fun converted =>
          if stored.kind.isNumeric ∧ converted.size ≠ stored.size then
            .error ((Misfit.elementCount stored.size converted.size).toError incoming.kind
              stored.kind)
          else .ok converted := by
  unfold assign
  split
  · rfl
  · cases incoming.coerce stored.kind with
    | error e => rfl
    | ok converted =>
        simp only [bind, Except.bind]
        split <;> rfl

theorem assign_eq_misfit (policy : Policy) (stored incoming : Value) :
    policy.assign stored incoming =
      match policy.misfit? stored incoming with
      | some m => .error (m.toError incoming.kind stored.kind)
      | none => incoming.coerce stored.kind := by
  rw [assign_eq]
  unfold misfit?
  split_ifs with refused apart counted
  · rfl
  · rw [Value.coerce_of_ne_family apart]
    rfl
  · obtain ⟨converted, coerced, size⟩ := Value.coerce_of_family (not_not.mp apart)
    rw [coerced, ← size]
    simp only [Except.bind]
    rw [if_pos (by rwa [size])]
  · obtain ⟨converted, coerced, size⟩ := Value.coerce_of_family (not_not.mp apart)
    rw [coerced]
    simp only [Except.bind]
    rw [if_neg (by rwa [size])]

theorem misfit_of_shape {stored mould : Value} (shape : stored.SameShape mould) (policy : Policy)
    (incoming : Value) : policy.misfit? stored incoming = policy.misfit? mould incoming := by
  unfold misfit?
  rw [shape.1]
  by_cases numeric : mould.kind.isNumeric = true
  · rw [shape.2 numeric]
  · simp [numeric]

theorem coerce_of_assign {policy : Policy} {stored incoming fitted : Value}
    (assigned : policy.assign stored incoming = .ok fitted) :
    policy.misfit? stored incoming = none ∧ incoming.coerce stored.kind = .ok fitted := by
  rw [assign_eq_misfit] at assigned
  cases unfit : policy.misfit? stored incoming with
  | some m =>
      rw [unfit] at assigned
      cases assigned
  | none =>
      rw [unfit] at assigned
      exact ⟨rfl, assigned⟩

theorem assign_eq_error_iff {policy : Policy} {stored incoming : Value} {error : RegisterError} :
    policy.assign stored incoming = .error error ↔
      ∃ m, policy.misfit? stored incoming = some m ∧ error = m.toError incoming.kind stored.kind := by
  rw [assign_eq_misfit]
  cases unfit : policy.misfit? stored incoming with
  | some m => simp [eq_comm]
  | none =>
      obtain ⟨converted, coerced, -⟩ :=
        Value.coerce_of_family ((misfit_eq_none_iff ..).mp unfit).family
      simp [coerced]

theorem shape_of_assign {policy : Policy} {stored incoming fitted : Value}
    (assigned : policy.assign stored incoming = .ok fitted) : fitted.SameShape stored := by
  rw [assign_eq_misfit] at assigned
  cases unfit : policy.misfit? stored incoming with
  | some m =>
      rw [unfit] at assigned
      cases assigned
  | none =>
      rw [unfit] at assigned
      exact ((misfit_eq_none_iff ..).mp unfit).shape assigned

theorem admits_of_shape {stored incoming : Value} (shape : incoming.SameShape stored)
    (policy : Policy) : policy.Admits stored incoming := by
  refine ⟨?_, shape.2⟩
  cases policy with
  | strict => exact shape.1
  | implicit => exact congrArg Kind.family shape.1

theorem misfit_self (policy : Policy) (value : Value) : policy.misfit? value value = none :=
  (misfit_eq_none_iff ..).mpr (admits_of_shape (.refl value) policy)

theorem assign_of_shape {stored incoming : Value} (shape : incoming.SameShape stored)
    (policy : Policy) : policy.assign stored incoming = .ok incoming := by
  rw [assign_eq_misfit, (misfit_eq_none_iff ..).mpr (admits_of_shape shape policy), ← shape.1]
  exact incoming.coerce_self

end Policy

end RegisterPlane
