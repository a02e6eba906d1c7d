import RegisterPlane.Floating.Basic

namespace RegisterPlane

inductive Width where
  | w8
  | w16
  | w32
  | w64
  deriving DecidableEq, Repr

def Width.bits : Width → Nat
  | w8 => 8
  | w16 => 16
  | w32 => 32
  | w64 => 64

def Width.capacity (w : Width) : Nat := Nat.pow 2 w.bits

def Width.half (w : Width) : Nat := Nat.pow 2 (w.bits - 1)

inductive ArrayKind where
  | bit
  | integer (width : Width)
  | natural (width : Width)
  | real (precision : Precision)
  deriving DecidableEq, Repr

inductive Kind where
  | array (elements : ArrayKind)
  | string
  | unstructured
  deriving DecidableEq, Repr

inductive Family where
  | numeric
  | text
  | bytes
  deriving DecidableEq, Repr

namespace Kind

/-- Every kind, in the order that comparison of values uses. -/
def all : List Kind :=
  [.array .bit,
   .array (.integer .w8), .array (.integer .w16), .array (.integer .w32), .array (.integer .w64),
   .array (.natural .w8), .array (.natural .w16), .array (.natural .w32), .array (.natural .w64),
   .array (.real .half), .array (.real .single), .array (.real .double),
   .string, .unstructured]

def place (k : Kind) : Nat := all.idxOf k

def token : Kind → String
  | array .bit => "bit"
  | array (.integer .w8) => "integer8"
  | array (.integer .w16) => "integer16"
  | array (.integer .w32) => "integer32"
  | array (.integer .w64) => "integer64"
  | array (.natural .w8) => "natural8"
  | array (.natural .w16) => "natural16"
  | array (.natural .w32) => "natural32"
  | array (.natural .w64) => "natural64"
  | array (.real .half) => "real16"
  | array (.real .single) => "real32"
  | array (.real .double) => "real64"
  | string => "string"
  | unstructured => "unstructured"

def ofExactToken? (token : String) : Option Kind := all.find? (·.token == token)

/-- The kind that a token names, in any case; `boolean` is another name of `bit`. -/
def ofToken? (token : String) : Option Kind :=
  let lower := String.ofList (token.toList.map Char.toLower)
  if lower = "boolean" then some (.array .bit) else ofExactToken? lower

def family : Kind → Family
  | array _ => .numeric
  | string => .text
  | unstructured => .bytes

def isNumeric (k : Kind) : Bool := k.family == .numeric

end Kind

end RegisterPlane
