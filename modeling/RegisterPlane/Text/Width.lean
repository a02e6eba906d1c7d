import RegisterPlane.Text.Printable

namespace RegisterPlane.Text

/-- The shown characters whose property `East_Asian_Width` is `Wide` or `Fullwidth`. -/
def wideRanges : List (Nat × Nat) :=
  [(0x1100, 0x115e), (0x231a, 0x231b), (0x2329, 0x232a), (0x23e9, 0x23ec), (0x23f0, 0x23f0),
   (0x23f3, 0x23f3), (0x25fd, 0x25fe), (0x2614, 0x2615), (0x2630, 0x2637), (0x2648, 0x2653),
   (0x267f, 0x267f), (0x268a, 0x268f), (0x2693, 0x2693), (0x26a1, 0x26a1), (0x26aa, 0x26ab),
   (0x26bd, 0x26be), (0x26c4, 0x26c5), (0x26ce, 0x26ce), (0x26d4, 0x26d4), (0x26ea, 0x26ea),
   (0x26f2, 0x26f3), (0x26f5, 0x26f5), (0x26fa, 0x26fa), (0x26fd, 0x26fd), (0x2705, 0x2705),
   (0x270a, 0x270b), (0x2728, 0x2728), (0x274c, 0x274c), (0x274e, 0x274e), (0x2753, 0x2755),
   (0x2757, 0x2757), (0x2795, 0x2797), (0x27b0, 0x27b0), (0x27bf, 0x27bf), (0x2b1b, 0x2b1c),
   (0x2b50, 0x2b50), (0x2b55, 0x2b55), (0x2e80, 0x303e), (0x3041, 0x3247), (0x3250, 0xa4c6),
   (0xa960, 0xa97c), (0xac00, 0xd7a3), (0xf900, 0xfad9), (0xfe10, 0xfe6b), (0xff01, 0xff60),
   (0xffe0, 0xffe6), (0x16fe0, 0x16fe3), (0x17000, 0x187f7), (0x18800, 0x18d08),
   (0x1aff0, 0x1b2fb), (0x1d300, 0x1d376), (0x1f004, 0x1f004), (0x1f0cf, 0x1f0cf),
   (0x1f18e, 0x1f18e), (0x1f191, 0x1f19a), (0x1f200, 0x1f320), (0x1f32d, 0x1f335),
   (0x1f337, 0x1f37c), (0x1f37e, 0x1f393), (0x1f3a0, 0x1f3ca), (0x1f3cf, 0x1f3d3),
   (0x1f3e0, 0x1f3f0), (0x1f3f4, 0x1f3f4), (0x1f3f8, 0x1f43e), (0x1f440, 0x1f440),
   (0x1f442, 0x1f4fc), (0x1f4ff, 0x1f53d), (0x1f54b, 0x1f54e), (0x1f550, 0x1f567),
   (0x1f57a, 0x1f57a), (0x1f595, 0x1f596), (0x1f5a4, 0x1f5a4), (0x1f5fb, 0x1f64f),
   (0x1f680, 0x1f6c5), (0x1f6cc, 0x1f6cc), (0x1f6d0, 0x1f6d2), (0x1f6d5, 0x1f6d7),
   (0x1f6dc, 0x1f6df), (0x1f6eb, 0x1f6ec), (0x1f6f4, 0x1f6fc), (0x1f7e0, 0x1f7f0),
   (0x1f90c, 0x1f93a), (0x1f93c, 0x1f945), (0x1f947, 0x1f9ff), (0x1fa70, 0x1fa89),
   (0x1fa8f, 0x1fac6), (0x1face, 0x1fae9), (0x1faf0, 0x1faf8), (0x20000, 0x33479)]

/-- The vowels and final consonants of Hangul syllables, the caret of Devanagari, and the letters that are
written before the next one. -/
def weightlessRanges : List (Nat × Nat) :=
  [(0xd4e, 0xd4e), (0x1160, 0x11ff), (0xa8fa, 0xa8fa), (0xd7b0, 0xd7fb), (0x111c2, 0x111c3),
   (0x113d1, 0x113d1), (0x1193f, 0x1193f), (0x11941, 0x11941), (0x11a3a, 0x11a3a), (0x11a84, 0x11a89),
   (0x11d46, 0x11d46), (0x11f02, 0x11f02)]

def tonedRanges : List (Nat × Nat) :=
  [(0x261d, 0x261d), (0x26f9, 0x26f9), (0x270a, 0x270d), (0x1f385, 0x1f385), (0x1f3c2, 0x1f3c4),
   (0x1f3c7, 0x1f3c7), (0x1f3ca, 0x1f3cc), (0x1f442, 0x1f443), (0x1f446, 0x1f450),
   (0x1f466, 0x1f478), (0x1f47c, 0x1f47c), (0x1f481, 0x1f483), (0x1f485, 0x1f487),
   (0x1f48f, 0x1f48f), (0x1f491, 0x1f491), (0x1f4aa, 0x1f4aa), (0x1f574, 0x1f575),
   (0x1f57a, 0x1f57a), (0x1f590, 0x1f590), (0x1f595, 0x1f596), (0x1f645, 0x1f647),
   (0x1f64b, 0x1f64f), (0x1f6a3, 0x1f6a3), (0x1f6b4, 0x1f6b6), (0x1f6c0, 0x1f6c0),
   (0x1f6cc, 0x1f6cc), (0x1f90c, 0x1f90c), (0x1f90f, 0x1f90f), (0x1f918, 0x1f91f),
   (0x1f926, 0x1f926), (0x1f930, 0x1f939), (0x1f93c, 0x1f93e), (0x1f977, 0x1f977),
   (0x1f9b5, 0x1f9b6), (0x1f9b8, 0x1f9b9), (0x1f9bb, 0x1f9bb), (0x1f9cd, 0x1f9cf),
   (0x1f9d1, 0x1f9dd), (0x1fac3, 0x1fac5), (0x1faf0, 0x1faf8)]

def lamRanges : List (Nat × Nat) :=
  [(0x644, 0x644), (0x6b5, 0x6b8), (0x76a, 0x76a), (0x8a6, 0x8a6), (0x8c7, 0x8c7)]

def alefRanges : List (Nat × Nat) :=
  [(0x622, 0x623), (0x625, 0x625), (0x627, 0x627), (0x671, 0x673), (0x675, 0x675), (0x773, 0x774),
   (0x870, 0x882)]

inductive Joint where
  | alone
  | alef
  /-- The second half of a tone of Lisu. -/
  | toneEnd
  | skinTone
  /-- A vowel sign of Kirat Rai, once or twice. -/
  | vowel
  | vowels
  deriving DecidableEq, Repr

def charWidth (c : Char) : Nat :=
  if c.toNat < 0xd4e then 1
  else if inRanges weightlessRanges c.toNat then 0
  else if c.toNat = 0x17d8 then 3
  else if c.toNat = 0x17a4 ∨ inRanges wideRanges c.toNat then 2
  else 1

def jointOf (c : Char) : Joint :=
  if inRanges alefRanges c.toNat then .alef
  else if c.toNat = 0xa4fc ∨ c.toNat = 0xa4fd then .toneEnd
  else if 0x1f3fb ≤ c.toNat ∧ c.toNat ≤ 0x1f3ff then .skinTone
  else if c.toNat = 0x16d67 then .vowel
  else if c.toNat = 0x16d68 then .vowels
  else .alone

/-- The columns that a character adds to what follows it, and what it is to the one before. -/
def addedWidth (c : Char) (next : Joint) : Nat × Joint :=
  match next with
  | .alef => if inRanges lamRanges c.toNat then (0, .alone) else unjoined
  | .toneEnd => if 0xa4f8 ≤ c.toNat ∧ c.toNat ≤ 0xa4fb then (0, .alone) else unjoined
  | .skinTone => if inRanges tonedRanges c.toNat then (0, .alone) else unjoined
  | .vowel =>
    if c.toNat = 0x16d63 ∨ c.toNat = 0x16d69 then (0, .alone)
    else if c.toNat = 0x16d67 then (0, .vowels)
    else if c.toNat = 0x16d68 then (1, .vowel)
    else unjoined
  | .vowels => if c.toNat = 0x16d63 then (0, .alone) else unjoined
  | .alone => unjoined
where
  unjoined : Nat × Joint := (charWidth c, jointOf c)

def joinedWidth : List Char → Nat × Joint
  | [] => (0, .alone)
  | c :: cs =>
    let (n, next) := joinedWidth cs
    let (added, joint) := addedWidth c next
    (added + n, joint)

def width (s : String) : Nat := (joinedWidth s.toList).1

end RegisterPlane.Text
