namespace RegisterPlane.Text

def isBlank (c : Char) : Bool :=
  let n := c.toNat
  (0x9 ≤ n && n ≤ 0xd) || n == 0x20 || n == 0x85 || n == 0xa0 || n == 0x1680 ||
    (0x2000 ≤ n && n ≤ 0x200a) || n == 0x2028 || n == 0x2029 || n == 0x202f || n == 0x205f ||
    n == 0x3000

def trimStart (cs : List Char) : List Char := cs.dropWhile isBlank

def trimEnd (cs : List Char) : List Char := (cs.reverse.dropWhile isBlank).reverse

def trim (cs : List Char) : List Char := trimEnd (trimStart cs)

/-- The pieces of a text between the characters that separate, the empty ones among them. There is
always at least one piece. -/
def splitAt (separates : Char → Bool) : List Char → List (List Char)
  | [] => [[]]
  | c :: cs =>
    if separates c then [] :: splitAt separates cs
    else
      match splitAt separates cs with
      | [] => [[c]]
      | piece :: pieces => (c :: piece) :: pieces

def tokens (separates : Char → Bool) (cs : List Char) : List (List Char) :=
  (splitAt separates cs).filter (· ≠ [])

def words (s : String) : List String := (tokens isBlank s.toList).map String.ofList

end RegisterPlane.Text
