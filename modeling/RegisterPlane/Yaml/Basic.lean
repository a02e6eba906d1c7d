import RegisterPlane.Floating.Numeral

namespace RegisterPlane

inductive Yaml where
  | null
  | bool (b : Bool)
  | integer (i : Int)
  | real (x : Floating .double)
  | string (text : String)
  | sequence (items : List Yaml)
  | mapping (entries : List (Yaml × Yaml))
  | tagged (tag : String) (value : Yaml)

namespace Yaml

def tagName (tag : String) : String :=
  match tag.toList with
  | '!' :: name => if name = [] then tag else String.ofList name
  | _ => tag

/-- Two numbers or names are the same key; NaN is the same as itself here, and so are the zeros. -/
def sameReal (x y : Floating .double) : Bool := x.same y || (x.isNaN && y.isNaN)

mutual

def same : Yaml → Yaml → Bool
  | null, null => true
  | bool a, bool b => a == b
  | integer a, integer b => a == b
  | real a, real b => sameReal a b
  | string a, string b => a == b
  | sequence as, sequence bs => sameItems as bs
  | mapping as, mapping bs => as.length == bs.length && sameEntries as bs
  | tagged t a, tagged u b => tagName t == tagName u && same a b
  | _, _ => false

def sameItems : List Yaml → List Yaml → Bool
  | [], [] => true
  | a :: as, b :: bs => same a b && sameItems as bs
  | _, _ => false

def sameEntries : List (Yaml × Yaml) → List (Yaml × Yaml) → Bool
  | [], _ => true
  | (key, value) :: rest, bs => hasEntry key value bs && sameEntries rest bs

def hasEntry (key value : Yaml) : List (Yaml × Yaml) → Bool
  | [] => false
  | (key', value') :: rest => (same key key' && same value value') || hasEntry key value rest

end

end Yaml

end RegisterPlane
