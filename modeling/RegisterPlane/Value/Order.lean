import RegisterPlane.Value.Basic

namespace RegisterPlane

namespace ArrayKind

def elementOrder : (k : ArrayKind) → k.Element → k.Element → Option Ordering
  | bit => fun (a b : Bool) => some (compare a b)
  | integer _ => fun (a b : BitVec _) => some (compare a.toInt b.toInt)
  | natural _ => fun (a b : BitVec _) => some (compare a.toNat b.toNat)
  | real _ => fun (a b : Floating _) => a.order b

end ArrayKind

def listOrder {α : Type} (order : α → α → Option Ordering) : List α → List α → Option Ordering
  | [], [] => some .eq
  | [], _ :: _ => some .lt
  | _ :: _, [] => some .gt
  | a :: as, b :: bs =>
    match order a b with
    | some .eq => listOrder order as bs
    | decided => decided

namespace Value

def order : Value → Value → Option Ordering
  | array k xs, array k' ys =>
    if h : k = k' then listOrder k.elementOrder xs (h ▸ ys)
    else some (compare (Kind.array k).place (Kind.array k').place)
  | string s, string t => some (compare s t)
  | unstructured xs, unstructured ys =>
    listOrder (fun a b => some (compare a.toNat b.toNat)) xs ys
  | v, w => some (compare v.kind.place w.kind.place)

/-- Equality of contents, under which NaN differs from itself and the zeros are equal. -/
def same (v w : Value) : Bool := v.order w == some .eq

end Value

end RegisterPlane
