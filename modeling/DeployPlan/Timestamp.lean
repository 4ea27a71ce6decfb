import DeployPlan.Text.Decimal

/-!
# Moments

A `Timestamp` is a moment of universal time, down to a nanosecond. `Timestamp.read` reads date, time
and distance from universal time, with blanks between the parts; `Timestamp.write` writes the date
and the time in universal time, of which only whole seconds are shown.
-/

namespace DeployPlan

/-- A day of the calendar. -/
structure Date where
  year : Int
  month : Nat
  day : Nat
  deriving DecidableEq, Repr, Inhabited

namespace Date

def isLeapYear (year : Int) : Bool :=
  year % 4 == 0 && (year % 100 != 0 || year % 400 == 0)

def daysIn (year : Int) (month : Nat) : Nat :=
  if month = 2 then if isLeapYear year then 29 else 28
  else if [4, 6, 9, 11].contains month then 30
  else 31

/-- The first and the last year of the calendar. -/
def firstYear : Int := -262143

def lastYear : Int := 262142

def isValid (d : Date) : Bool :=
  firstYear ≤ d.year && d.year ≤ lastYear && 1 ≤ d.month && d.month ≤ 12 && 1 ≤ d.day &&
    d.day ≤ daysIn d.year d.month

def next (d : Date) : Date :=
  if d.day < daysIn d.year d.month then { d with day := d.day + 1 }
  else if d.month < 12 then { d with month := d.month + 1, day := 1 }
  else ⟨d.year + 1, 1, 1⟩

def previous (d : Date) : Date :=
  if 1 < d.day then { d with day := d.day - 1 }
  else if 1 < d.month then { d with month := d.month - 1, day := daysIn d.year (d.month - 1) }
  else ⟨d.year - 1, 12, 31⟩

end Date

/-- A moment of universal time. -/
structure Timestamp where
  date : Date
  hour : Nat
  minute : Nat
  second : Nat
  /-- What has passed of the second, and of the one that is put in after it if it is more than
  one. -/
  nanosecond : Nat := 0
  deriving DecidableEq, Repr, Inhabited

namespace Timestamp

/-- The number that up to `width` digits in front write, and what follows them. -/
def number? (width : Nat) (s : List Char) : Option (Nat × List Char) :=
  match (s.take width).takeWhile Text.isDigit with
  | [] => none
  | digits => some (Text.digitsValue digits, s.drop digits.length)

/-- A number from zero to a greatest one, of one or two digits after blanks. -/
def part? (greatest : Nat) (s : List Char) : Option (Nat × List Char) :=
  (number? 2 (Text.trimStart s)).filter (·.1 ≤ greatest)

def mark? (mark : Char) (s : List Char) : Option (List Char) :=
  match Text.trimStart s with
  | c :: r => if c = mark then some r else none
  | [] => none

/-- A year: up to four digits, or any number of them after a sign. -/
def year? (s : List Char) : Option (Int × List Char) :=
  match Text.trimStart s with
  | '-' :: r => (number? r.length r).map fun (n, rest) => (-n, rest)
  | '+' :: r => (number? r.length r).map fun (n, rest) => (n, rest)
  | s => (number? 4 s).map fun (n, rest) => (n, rest)

def date? (s : List Char) : Option (Date × List Char) := do
  let (year, s) ← year? s
  let (month, s) ← part? 12 (← mark? '-' s)
  let (day, s) ← part? 31 (← mark? '-' s)
  let date : Date := ⟨year, month, day⟩
  if date.isValid then some (date, s) else none

def nanoseconds : Nat := 1000000000

/-- The nanoseconds that digits behind a point write, of which nine count. -/
def fractionValue (digits : List Char) : Nat :=
  Text.digitsValue ((digits ++ List.replicate 9 '0').take 9)

/-- The nanoseconds of a second, none if there is no point, and what follows them. -/
def fraction? : List Char → Option (Nat × List Char)
  | '.' :: r =>
    if r.head?.any Text.isDigit then
      some (fractionValue (r.takeWhile Text.isDigit), r.dropWhile Text.isDigit)
    else none
  | s => some (0, s)

/-- The minutes of two numbers of two digits each, between which colons and blanks may stand. -/
def distance? (s : List Char) : Option (Nat × List Char) := do
  let twoDigits? (s : List Char) : Option (Nat × List Char) :=
    if s.head?.any Text.isDigit ∧ s[1]?.any Text.isDigit then number? 2 s else none
  let (hours, s) ← twoDigits? s
  let (minutes, s) ← twoDigits? (s.dropWhile fun c => c == ':' || Text.isBlank c)
  if hours < 24 ∧ minutes < 60 then some (60 * hours + minutes, s) else none

/-- The minutes by which a clock is ahead of universal time. -/
def offset? (s : List Char) : Option (Int × List Char) :=
  if Text.equalIgnoringCase (s.take 3) "UTC".toList then some (0, s.drop 3)
  else match s with
    | 'Z' :: r | 'z' :: r => some (0, r)
    | '+' :: r => (distance? r).map fun (n, rest) => (n, rest)
    | '-' :: r | '\u2212' :: r => (distance? r).map fun (n, rest) => (-n, rest)
    | _ => none

/-- The moment at which a clock shows a date and a time that is so many minutes ahead. The sixtieth
second is the one that is put in after the one before it. -/
def ofClock (date : Date) (hour minute second nanosecond : Nat) (ahead : Int) : Timestamp :=
  let minutes : Int := 60 * hour + minute - ahead
  let date := if minutes < 0 then date.previous else if 1440 ≤ minutes then date.next else date
  let minutes := (minutes % 1440).toNat
  let (second, nanosecond) :=
    if second = 60 then (59, nanosecond + nanoseconds) else (second, nanosecond)
  ⟨date, minutes / 60, minutes % 60, second, nanosecond⟩

/-- What follows the letter or the blank between a date and a time. -/
def dropDivider? : List Char → Option (List Char)
  | 'T' :: r | 't' :: r | ' ' :: r => some r
  | _ => none

def readChars (s : List Char) : Option Timestamp := do
  let (date, s) ← date? s
  let (hour, s) ← part? 23 (← dropDivider? s)
  let (minute, s) ← part? 59 (← mark? ':' s)
  let (second, s) ← part? 60 (← mark? ':' s)
  let (nanosecond, s) ← fraction? s
  let (ahead, s) ← offset? (Text.trimStart s)
  let moment := ofClock date hour minute second nanosecond ahead
  if s.all Text.isBlank ∧ moment.date.isValid then some moment else none

/-- Reads a moment. -/
def read (s : String) : Option Timestamp :=
  readChars s.toList

/-- A number with at least so many digits. -/
def padded (width n : Nat) : List Char :=
  let digits := Text.decimal n
  List.replicate (width - digits.length) '0' ++ digits

/-- A year; one that has not four digits gets a sign. -/
def yearChars (year : Int) : List Char :=
  (if year < 0 then ['-'] else if 9999 < year then ['+'] else []) ++ padded 4 year.natAbs

/-- The second of a moment, with one that is put in counted after it. -/
def wholeSecond (t : Timestamp) : Nat :=
  t.second + t.nanosecond / nanoseconds

/-- Writes a moment, without the parts of its second. -/
def write (t : Timestamp) : String :=
  String.ofList <|
    yearChars t.date.year ++ '-' :: padded 2 t.date.month ++ '-' :: padded 2 t.date.day ++
      'T' :: padded 2 t.hour ++ ':' :: padded 2 t.minute ++ ':' :: padded 2 t.wholeSecond ++ ['Z']

end Timestamp

end DeployPlan
