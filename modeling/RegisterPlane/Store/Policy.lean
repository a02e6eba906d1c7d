import RegisterPlane.Value.Basic

namespace RegisterPlane

inductive Policy where
  /-- A value of another kind is converted if the families agree. -/
  | implicit
  /-- A value of another kind is refused. -/
  | strict
  deriving DecidableEq, Repr

namespace Policy

def token : Policy → String
  | implicit => "implicit"
  | strict => "strict"

def assign (policy : Policy) (stored incoming : Value) : Except RegisterError Value := do
  if policy = .strict ∧ incoming.kind ≠ stored.kind then
    throw (Misfit.strictPolicy.toError incoming.kind stored.kind)
  let converted ← incoming.coerce stored.kind
  if stored.kind.isNumeric ∧ converted.size ≠ stored.size then
    throw ((Misfit.elementCount stored.size converted.size).toError incoming.kind stored.kind)
  return converted

end Policy

end RegisterPlane
