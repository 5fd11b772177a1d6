import Postroom.Text.Blank

/-!
# Dates of mail

A date such as `Thu, 1 Sep 2022 10:00:00 +0000`.  The weekday and the seconds may be missing,
numbers of two or three digits stand for years of the last and of this century, zones may be named,
and comments may follow.  `Moment.parse?` reads a date and refuses one that does not exist.

A reader takes a text and returns what it has read together with the rest.
-/

namespace Postroom

/-- A date and a time of day, with the distance of its zone from universal time in seconds. -/
structure Moment where
  year : Nat
  month : Nat
  day : Nat
  hour : Nat
  minute : Nat
  second : Nat
  zone : Int
deriving DecidableEq, Repr

namespace Moment

/-- The short names of the months. -/
def monthNames : List String :=
  ["jan", "feb", "mar", "apr", "may", "jun", "jul", "aug", "sep", "oct", "nov", "dec"]

/-- The short names of the days of the week. -/
def weekdayNames : List String :=
  ["mon", "tue", "wed", "thu", "fri", "sat", "sun"]

/-- The named zones, with their distance in hours. -/
def zoneNames : List (String × Int) :=
  [("gmt", 0), ("ut", 0), ("z", 0), ("edt", -4), ("est", -5), ("cdt", -5), ("cst", -6),
   ("mdt", -6), ("mst", -7), ("pdt", -7), ("pst", -8)]

/-- The last year of the calendar. -/
def lastYear : Nat := 262142

/-- The year has a leap day. -/
def isLeapYear (year : Nat) : Bool :=
  year % 4 == 0 && (year % 100 != 0 || year % 400 == 0)

/-- The number of days of a month. -/
def daysIn (year month : Nat) : Nat :=
  if month = 2 then (if isLeapYear year then 29 else 28)
  else if month = 4 ∨ month = 6 ∨ month = 9 ∨ month = 11 then 30
  else 31

/-- The number of days before a year, counted from the year 0. -/
def daysBeforeYear (year : Nat) : Nat :=
  365 * year + (year + 3) / 4 - (year + 99) / 100 + (year + 399) / 400

/-- The day of the week of a date, 0 for Monday. -/
def weekday (year month day : Nat) : Nat :=
  let before := total ((List.range (month - 1)).map fun m => daysIn year (m + 1))
  (daysBeforeYear year + before + day + 4) % 7

/-- Reads a character. -/
def char? (c : Char) : Text → Option Text
  | d :: rest => if d = c then some rest else none
  | [] => none

/-- Reads at least one blank. -/
def blanks? (t : Text) : Option Text :=
  match t with
  | c :: rest => if isBlank c then some (Text.trimStart rest) else none
  | [] => none

/-- Reads a number of at least `least` and at most `most` digits. -/
def number? (least most : Nat) (t : Text) : Option (Nat × Text) :=
  let digits := (t.take most).takeWhile Char.isDigit
  if digits.length < least then none
  else (Text.toNat? digits).map fun n => (n, t.drop digits.length)

/-- Reads one of some names of three letters, in any case, and returns its place. -/
def name? (names : List String) (t : Text) : Option (Nat × Text) :=
  (names.findIdx? fun name => Text.sameName name.toList (t.take 3)).map fun i => (i, t.drop 3)

/-- The year that a number of so many digits stands for. -/
def yearOf (digits n : Nat) : Nat :=
  if digits = 2 then (if n < 50 then n + 2000 else n + 1900)
  else if digits = 3 then n + 1900
  else n

/-- Reads a year of at least two digits. -/
def year? (t : Text) : Option (Nat × Text) :=
  (number? 2 t.length t).map fun (n, rest) => (yearOf (t.length - rest.length) n, rest)

/-- The distance of a named zone; single letters but `j` count as universal time. -/
def zoneOfName? (name : Text) : Option Int :=
  match zoneNames.find? fun entry => Text.sameName entry.1.toList name with
  | some entry => some (entry.2 * 3600)
  | none =>
    match name with
    | [c] => if c.toLower = 'j' then none else some 0
    | _ => none

/-- Reads a zone, a name or a sign with two digits each for hours and minutes. -/
def zone? (t : Text) : Option (Int × Text) :=
  match t.takeWhile Char.isAlpha with
  | [] =>
    match t with
    | sign :: rest =>
      if sign ≠ '+' ∧ sign ≠ '-' then none
      else
        (number? 2 2 rest).bind fun (hours, rest) =>
          (number? 2 2 rest).bind fun (minutes, rest) =>
            if 59 < minutes ∨ 23 < hours then none
            else
              let distance : Int := (hours * 60 + minutes) * 60
              some (if sign = '-' then -distance else distance, rest)
    | [] => none
  | name => (zoneOfName? name).map fun distance => (distance, t.dropWhile Char.isAlpha)

/-- Reads a comment whose brackets are open `depth` times. -/
def commentFrom? (depth : Nat) : Text → Option Text
  | [] => none
  | '\\' :: _ :: rest => commentFrom? depth rest
  | '(' :: rest => commentFrom? (depth + 1) rest
  | ')' :: rest => if depth = 1 then some rest else commentFrom? (depth - 1) rest
  | _ :: rest => commentFrom? depth rest

/-- There is nothing but comments. -/
def onlyComments (fuel : Nat) (t : Text) : Bool :=
  t.isEmpty ||
    match fuel, Text.trimStart t with
    | fuel + 1, '(' :: rest => (commentFrom? 1 rest).any (onlyComments fuel)
    | _, _ => false

/-- Reads the day of the week, if there is one, and the comma after it. -/
def weekday? (t : Text) : Option (Option Nat × Text) :=
  match name? weekdayNames t with
  | some (w, rest) => (char? ',' rest).map fun rest => (some w, rest)
  | none => some (none, t)

/-- Reads the seconds, if there are any. -/
def second? (t : Text) : Option (Nat × Text) :=
  match char? ':' (Text.trimStart t) with
  | some rest => number? 2 2 rest
  | none => some (0, t)

/-- The date is the last one of the calendar. -/
def isLastDay (m : Moment) : Bool :=
  m.year == lastYear && m.month == 12 && m.day == 31

/-- In universal time, which is ahead of zones to the west, the next day has begun. -/
def isDayBehind (m : Moment) : Bool :=
  86400 ≤ ((m.hour * 60 + m.minute) * 60 + min m.second 59 : Int) - m.zone

/-- The date exists, here and in universal time; a minute may have a leap second. -/
def exists? (m : Moment) : Bool :=
  1 ≤ m.month && m.month ≤ 12 && 1 ≤ m.day && m.day ≤ daysIn m.year m.month
    && m.hour ≤ 23 && m.minute ≤ 59 && m.second ≤ 60 && m.year ≤ lastYear
    && !(m.isLastDay && m.isDayBehind)

/-- The moment that a text without blanks around it stands for. -/
def parse? (t : Text) : Option Moment := do
  let (named, t) ← weekday? (Text.trimStart t)
  let (day, t) ← number? 1 2 (Text.trimStart t)
  let (month, t) ← name? monthNames (← blanks? t)
  let (year, t) ← year? (← blanks? t)
  let (hour, t) ← number? 2 2 (← blanks? t)
  let (minute, t) ← number? 2 2 (Text.trimStart (← char? ':' (Text.trimStart t)))
  let (second, t) ← second? t
  let (zone, t) ← zone? (← blanks? t)
  let m : Moment := ⟨year, month + 1, day, hour, minute, second, zone⟩
  if onlyComments t.length t && m.exists? && named.all (· == weekday year (month + 1) day) then
    some m
  else none

end Moment

end Postroom
