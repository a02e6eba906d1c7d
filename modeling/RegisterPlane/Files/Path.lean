import RegisterPlane.Text.Blank

namespace RegisterPlane.Path

def isAbsolute (path : String) : Bool := path.toList.head? == some '/'

def join (left right : String) : String :=
  if isAbsolute right then right
  else if left = "" ∨ left.toList.getLast? = some '/' then left ++ right
  else left ++ "/" ++ right

def names (path : String) : List String :=
  (Text.splitAt (· == '/') path.toList).map String.ofList

def stays (name : String) : Bool := name == "" || name == "."

def steps (path : String) : List String := (names path).filter fun name => !stays name

def parent (path : String) : String :=
  (if isAbsolute path then "/" else "") ++ "/".intercalate (steps path).dropLast

end RegisterPlane.Path
