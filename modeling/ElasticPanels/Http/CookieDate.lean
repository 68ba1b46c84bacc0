import ElasticPanels.Number.Numeral
import ElasticPanels.Text.Pattern

/-!
# Dates of cookies

`CookieDate.read` reads the date on which a cookie ends, as seconds since the beginning of 1970.
Many forms are in use: the day of the week may be missing, the month may be a name or a number, the
year may have two digits, and the clock and the zone are optional.  A date in the standard form with
a month that does not exist is an error of its own.
-/

namespace ElasticPanels.CookieDate

open Text

/-- What a text says as a date. -/
inductive Reading
  | time (seconds : Int)
  | unreadable
  | badMonth
  deriving DecidableEq, Repr

/-! ## Calendar -/

/-- The names of the months, in small letters. -/
def monthNames : List String :=
  ["jan", "feb", "mar", "apr", "may", "jun", "jul", "aug", "sep", "oct", "nov", "dec"]

/-- The number of the month with a name, from one on. -/
def monthOfName? (name : List Char) : Option Nat :=
  (monthNames.idxOf? (.ofList (name.map Char.toLower))).map (· + 1)

/-- The days from the first of March of the year zero to that of a year. -/
def daysToMarch (year : Nat) : Nat := 365 * year + year / 4 - year / 100 + year / 400

/-- The days from the beginning of March to the first of each month, the year ending in February. -/
def monthStarts : List Nat := [306, 337, 0, 31, 61, 92, 122, 153, 184, 214, 245, 275]

/-- The days from the beginning of 1970 to the first of a month. -/
def daysToMonth (year month : Nat) : Int :=
  let start := daysToMarch (if month ≤ 2 then year - 1 else year) + monthStarts.getD (month - 1) 0
  (start : Int) - (daysToMarch 1969 + 306 : Nat)

/-- The year of a time, which is not before 1970. -/
def yearOf (seconds : Int) : Nat :=
  let days := (seconds / 86400).toNat + (daysToMarch 1969 + 306)
  let near := 400 * days / 146097
  ([near + 2, near + 1].find? fun year => daysToMarch (year - 1) + 306 ≤ days).getD near

/-- A date and a clock. -/
structure Moment where
  year : Nat
  month : Nat
  day : Nat
  hour : Nat
  minute : Nat
  second : Nat
  deriving DecidableEq, Repr

/-- The seconds since the beginning of 1970, if the parts are within their ranges.  A month may have
31 days. -/
def Moment.seconds? (m : Moment) : Option Int :=
  if 1970 ≤ m.year ∧ 1 ≤ m.month ∧ m.month ≤ 12 ∧ 1 ≤ m.day ∧ m.day ≤ 31 ∧ m.hour ≤ 24 ∧
      m.minute ≤ 59 ∧ m.second ≤ 61 then
    let days := daysToMonth m.year m.month + (m.day - 1 : Nat)
    some (((days * 24 + m.hour) * 60 + m.minute) * 60 + m.second)
  else none

/-! ## Parts -/

/-- The number that decimal digits write. -/
def number (ds : List Char) : Nat := Numeral.value (ds.filterMap asciiDigit?)

/-- A number of so many digits. -/
def digits (least most : Nat) : Pattern (List Char) := .run Char.isDigit least most

/-- A given character. -/
def mark (c : Char) : Pattern Char := .one (· = c)

/-- An ASCII blank. -/
def isGap (c : Char) : Bool := c.toNat < 128 && isBlank c

/-- A letter, digit or underscore. -/
def isNameChar (c : Char) : Bool := c.isAlphanum || c = '_'

/-- Blanks, be it none. -/
def gaps : Pattern (List Char) := .many isGap 0

/-- What divides day, month and year: blanks, a hyphen or a slash. -/
def divider : Pattern Unit :=
  .either (do let _ ← Pattern.many isGap 1) (do let _ ← Pattern.one fun c => c = '-' ∨ c = '/')

/-! ## The standard form -/

/-- The standard form, such as `Wed, 09 Feb 1994 22:23:32 GMT`, with the name of the month. -/
def standard : Pattern (List Char × Moment) := do
  let _ ← Pattern.one "SMTWF".toList.contains
  let _ ← Pattern.run Char.isLower 2 2
  let _ ← mark ','
  let _ ← mark ' '
  let day ← digits 2 2
  let _ ← mark ' '
  let initial ← Pattern.one "JFMASOND".toList.contains
  let rest ← Pattern.run Char.isLower 2 2
  let _ ← mark ' '
  let year ← digits 4 4
  let _ ← mark ' '
  let hour ← digits 2 2
  let _ ← mark ':'
  let minute ← digits 2 2
  let _ ← mark ':'
  let second ← digits 2 2
  let _ ← mark ' '
  let _ ← mark 'G'
  let _ ← mark 'M'
  let _ ← mark 'T'
  return (initial :: rest, ⟨number year, 0, number day, number hour, number minute, number second⟩)

/-! ## Other forms -/

/-- The text without the day of the week that it may begin with. -/
def withoutWeekday (cs : List Char) : List Char :=
  let names := ["sun", "mon", "tue", "wed", "thu", "fri", "sat"]
  if names.contains (.ofList ((cs.take 3).map Char.toLower)) then
    let rest := (cs.drop 3).dropWhile Char.isAlpha
    (if rest.head? = some ',' then rest.drop 1 else rest).dropWhile isGap
  else cs

/-- The parts of a date as they are written; the clock and the zone may be missing. -/
structure Written where
  day : List Char
  month : List Char
  year : List Char
  clock : Option (List Char × List Char × Option (List Char))
  zone : Option (List Char)
  deriving Repr

/-- A clock after a divider: hour, minute, and perhaps the second. -/
def clock : Pattern (List Char × List Char × Option (List Char)) := do
  let _ ← Pattern.either (.many isGap 1) (.run (· = ':') 1 1)
  let hour ← digits 1 2
  let _ ← mark ':'
  let minute ← digits 2 2
  let second ← Pattern.perhaps (do let _ ← mark ':'; digits 2 2)
  return (hour, minute, second)

/-- Whether a text does not begin with a mark of the half of the day. -/
def isNoHalfDay : List Char → Bool
  | a :: b :: rest =>
    !("APap".toList.contains a && "Mm".toList.contains b && !rest.head?.any isNameChar)
  | _ => true

/-- A zone, by its distance or its name, and blanks. -/
def zone : Pattern (List Char) := do
  let distance : Pattern (List Char) := do
    let sign ← Pattern.run (fun c => c = '-' || c = '+') 0 1
    return sign ++ (← digits 2 4)
  let name : Pattern (List Char) := do
    Pattern.ahead isNoHalfDay
    Pattern.many Char.isAlpha 1
  let found ← Pattern.either distance name
  let _ ← gaps
  return found

/-- A remark in parentheses and blanks. -/
def remark : Pattern Unit := do
  let _ ← mark '('
  let _ ← Pattern.many isNameChar 1
  let _ ← mark ')'
  let _ ← gaps

/-- A date in a form other than the standard one. -/
def written : Pattern Written := do
  let day ← digits 1 2
  divider
  let month ← Pattern.many isNameChar 1
  divider
  let year ← Pattern.many Char.isDigit 1
  let clock ← Pattern.perhaps clock
  let _ ← gaps
  let zone ← Pattern.perhaps zone
  let _ ← Pattern.perhaps remark
  return ⟨day, month, year, clock, zone⟩

/-- The distance of a zone from universal time, in seconds. -/
def zoneOffset? (zone : List Char) : Option Int :=
  if ["GMT", "UTC", "UT", "Z"].contains (String.ofList zone) then some 0
  else
    let pattern : Pattern Int := do
      let sign ← Pattern.run (fun c => c = '-' || c = '+') 0 1
      let hours ← digits 1 2
      let _ ← Pattern.run (· = ':') 0 1
      let minutes ← digits 0 2
      Pattern.ahead fun _ => minutes.length ≠ 1
      let size : Int := 3600 * number hours + 60 * number minutes
      return if sign = ['-'] then -size else size
    pattern.whole? zone

/-- The month that a name or a number means. -/
def month? (cs : List Char) : Option Nat :=
  match monthOfName? cs with
  | some month => some month
  | none => match Numeral.readWhole (.ofList cs) with
    | .ok n => if 1 ≤ n ∧ n ≤ 12 then some n.toNat else none
    | .error _ => none

/-- The year that a short year means, within fifty years of the present one. -/
def fullYear (present year : Nat) : Nat :=
  let short := present % 100
  let guess := year + present - short
  if 1000 ≤ year then year
  else if year + 50 < short then guess + 100
  else if short + 50 < year then guess - 100
  else guess

/-- The seconds since the beginning of 1970 of a date as it is written in the year `present`. -/
def Written.seconds? (w : Written) (present : Nat) : Option Int := do
  let year := number w.year
  if 9999 < year then none
  let month ← month? w.month
  let (hour, minute, second) := match w.clock with
    | some (hour, minute, second) => (number hour, number minute, number (second.getD []))
    | none => (0, 0, 0)
  let moment : Moment := ⟨fullYear present year, month, number w.day, hour, minute, second⟩
  let seconds ← moment.seconds?
  let offset ← zoneOffset? ((w.zone.getD "UTC".toList).map Char.toUpper)
  return seconds - offset

/-! ## Reading -/

/-- Reads a date at the time `now`. -/
def read (now : Int) (cs : List Char) : Reading :=
  let ofOption (seconds : Option Int) : Reading := match seconds with
    | some t => .time t
    | none => .unreadable
  match standard.whole? cs with
  | some (name, moment) => match monthOfName? name with
    | some month => ofOption { moment with month }.seconds?
    | none => .badMonth
  | none =>
    let rest := withoutWeekday (cs.dropWhile isBlank)
    ofOption ((written.whole? rest).bind (·.seconds? (yearOf now)))

end ElasticPanels.CookieDate
