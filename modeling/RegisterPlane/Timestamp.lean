import RegisterPlane.Text.Blank
import RegisterPlane.Text.Digits

/-!
Points in time, in UTC, to the nanosecond, and their RFC 3339 text. Written with as few of 0, 3, 6
or 9 fraction digits as hold the value; read with any offset and with some slack between the parts.
-/

namespace RegisterPlane

/-- Seconds since the start of 1970, and nanoseconds. A billion nanoseconds or more past a second
are within the leap second after it. -/
structure Timestamp where
  seconds : Int
  nanos : Nat
  deriving DecidableEq, Repr

structure CalendarDay where
  year : Int
  month : Nat
  day : Nat
  deriving DecidableEq, Repr

namespace CalendarDay

def isLeap (year : Int) : Bool := year % 4 == 0 && (year % 100 != 0 || year % 400 == 0)

def daysInMonth (year : Int) (month : Nat) : Nat :=
  if month = 2 then if isLeap year then 29 else 28
  else if month = 4 ∨ month = 6 ∨ month = 9 ∨ month = 11 then 30
  else 31

def isValid (d : CalendarDay) : Bool :=
  1 ≤ d.month && d.month ≤ 12 && 1 ≤ d.day && d.day ≤ daysInMonth d.year d.month

/-- Days from the first of March of year zero to a day; years are counted from March. -/
def toMarchDays (d : CalendarDay) : Int :=
  let year := if d.month ≤ 2 then d.year - 1 else d.year
  let month := (d.month + 9) % 12
  365 * year + year.fdiv 4 - year.fdiv 100 + year.fdiv 400 + ((153 * month + 2) / 5 : Nat) + d.day - 1

def epoch : CalendarDay := ⟨1970, 1, 1⟩

def toDays (d : CalendarDay) : Int := d.toMarchDays - epoch.toMarchDays

def ofDays (days : Int) : CalendarDay :=
  let march := days + epoch.toMarchDays
  let cycle := march.fdiv 146097
  let dayOfCycle := (march.fmod 146097).toNat
  let yearOfCycle := (dayOfCycle - dayOfCycle / 1460 + dayOfCycle / 36524 - dayOfCycle / 146096) / 365
  let dayOfYear := dayOfCycle - (365 * yearOfCycle + yearOfCycle / 4 - yearOfCycle / 100)
  let marchMonth := (5 * dayOfYear + 2) / 153
  let day := dayOfYear - (153 * marchMonth + 2) / 5 + 1
  let month := if marchMonth < 10 then marchMonth + 3 else marchMonth - 9
  let year := cycle * 400 + yearOfCycle
  ⟨if month ≤ 2 then year + 1 else year, month, day⟩

end CalendarDay

namespace Timestamp

def nanosPerSecond : Nat := 1000000000

def day (t : Timestamp) : CalendarDay := .ofDays (t.seconds.fdiv 86400)

def secondOfDay (t : Timestamp) : Nat := (t.seconds.fmod 86400).toNat

def yearText (year : Int) : List Char :=
  if 0 ≤ year ∧ year ≤ 9999 then Text.padded 4 year.toNat
  else (if year < 0 then '-' else '+') :: Text.padded 4 year.natAbs

def dateText (d : CalendarDay) : List Char :=
  yearText d.year ++ '-' :: Text.padded 2 d.month ++ '-' :: Text.padded 2 d.day

def clockText (t : Timestamp) : List Char :=
  let s := t.secondOfDay
  let leap := if nanosPerSecond ≤ t.nanos then 1 else 0
  Text.padded 2 (s / 3600) ++ ':' :: Text.padded 2 (s / 60 % 60) ++ ':' :: Text.padded 2 (s % 60 + leap)

def fractionText (nanos : Nat) : List Char :=
  if nanos = 0 then []
  else if nanos % 1000000 = 0 then '.' :: Text.padded 3 (nanos / 1000000)
  else if nanos % 1000 = 0 then '.' :: Text.padded 6 (nanos / 1000)
  else '.' :: Text.padded 9 nanos

def text (t : Timestamp) : String :=
  String.ofList
    (dateText t.day ++ 'T' :: clockText t ++ fractionText (t.nanos % nanosPerSecond) ++ ['Z'])

def shortText (t : Timestamp) : String :=
  String.ofList (dateText t.day ++ ' ' :: clockText t)

/-! Reading takes one part after another off the text. -/

def takeNumber? (width : Nat) (cs : List Char) : Option (Nat × List Char) :=
  let cs := Text.trimStart cs
  let ds := (cs.takeWhile Text.isDigit).take width
  if ds = [] then none else some (Text.ofDigits ds, cs.drop ds.length)

def takeYear? (cs : List Char) : Option (Int × List Char) :=
  match Text.trimStart cs with
  | '-' :: rest => signed? rest fun n => -(n : Int)
  | '+' :: rest => signed? rest Int.ofNat
  | rest => (takeNumber? 4 rest).map fun (n, rest) => (Int.ofNat n, rest)
where
  signed? (cs : List Char) (sign : Nat → Int) : Option (Int × List Char) :=
    let ds := cs.takeWhile Text.isDigit
    if ds = [] then none else some (sign (Text.ofDigits ds), cs.drop ds.length)

def takeChar? (c : Char) (cs : List Char) : Option (List Char) :=
  match Text.trimStart cs with
  | d :: rest => if d = c then some rest else none
  | [] => none

def takeFraction? : List Char → Option (Nat × List Char)
  | '.' :: cs =>
    let ds := cs.takeWhile Text.isDigit
    if ds = [] then none
    else
      let kept := ds.take 9
      some (Text.ofDigits kept * Nat.pow 10 (9 - kept.length), cs.drop ds.length)
  | cs => some (0, cs)

def takeOffset? (cs : List Char) : Option (Int × List Char) :=
  match Text.trimStart cs with
  | 'Z' :: rest => some (0, rest)
  | 'z' :: rest => some (0, rest)
  | u :: t :: c :: rest =>
    if [u, t, c].map Char.toLower = "utc".toList then some (0, rest)
    else if u = '+' then hoursMinutes? (t :: c :: rest) 1
    else if u = '-' ∨ u = '\u2212' then hoursMinutes? (t :: c :: rest) (-1)
    else none
  | _ => none
where
  hoursMinutes? (cs : List Char) (sign : Int) : Option (Int × List Char) :=
    match cs with
    | h₁ :: h₂ :: rest =>
      match rest.dropWhile fun c => c == ':' || Text.isBlank c with
      | m₁ :: m₂ :: rest =>
        if [h₁, h₂, m₁, m₂].all Text.isDigit ∧ m₁ ≤ '5' then
          some (sign * (Text.ofDigits [h₁, h₂] * 3600 + Text.ofDigits [m₁, m₂] * 60 : Nat), rest)
        else none
      | _ => none
    | _ => none

def isYear (year : Int) : Bool := -262143 ≤ year && year ≤ 262142

/-- The time that an RFC 3339 text names. Its year is in range as written and in UTC. -/
def read? (text : String) : Option Timestamp := do
  let (year, cs) ← takeYear? text.toList
  let cs ← takeChar? '-' cs
  let (month, cs) ← takeNumber? 2 cs
  let cs ← takeChar? '-' cs
  let (day, cs) ← takeNumber? 2 cs
  let cs ← match cs with
    | c :: rest => if c = 'T' ∨ c = 't' ∨ c = ' ' then some rest else none
    | [] => none
  let (hour, cs) ← takeNumber? 2 cs
  let cs ← takeChar? ':' cs
  let (minute, cs) ← takeNumber? 2 cs
  let cs ← takeChar? ':' cs
  let (second, cs) ← takeNumber? 2 cs
  let (fraction, cs) ← takeFraction? cs
  let (offset, cs) ← takeOffset? cs
  let date : CalendarDay := ⟨year, month, day⟩
  if Text.trimStart cs = [] ∧ isYear year ∧ date.isValid ∧ hour < 24 ∧ minute < 60 ∧ second ≤ 60 ∧
      offset.natAbs < 86400 then
    let clock := hour * 3600 + minute * 60 + min second 59
    let nanos := if second = 60 then fraction + nanosPerSecond else fraction
    let time : Timestamp := ⟨date.toDays * 86400 + clock - offset, nanos⟩
    if isYear time.day.year then some time else none
  else none

end Timestamp

end RegisterPlane
