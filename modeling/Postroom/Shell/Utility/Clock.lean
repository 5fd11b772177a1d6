import Postroom.Mail.Date
import Postroom.Shell.Utility.Basic

/-!
# Dates and times

`date` writes a moment of universal time in a format.  The clock of the system stands still.

* `Instant.ofText?` — the moment that a text stands for;
* `Instant.format` — a moment in a format;
* `Utility.date`.
-/

namespace Postroom.Shell.Utility

/-- A moment, by the seconds since the beginning of 1970. -/
structure Instant where
  seconds : Int
deriving DecidableEq

namespace Instant

/-- What the clock shows. -/
def now : Instant := ⟨1704067200⟩

/-- A day by its date. -/
structure Day where
  year : Nat
  month : Nat
  day : Nat
deriving DecidableEq

/-- The number of a day, 0 for the first one of the year 0. -/
def Day.number (d : Day) : Nat :=
  Moment.daysBeforeYear d.year
    + total ((List.range (d.month - 1)).map fun m => Moment.daysIn d.year (m + 1)) + (d.day - 1)

/-- The number of the day from which moments are counted. -/
def epoch : Nat := Day.number ⟨1970, 1, 1⟩

/-- The month and the day of a year, by the number of the day in what is left of the year from a
month on. -/
def monthAndDay (year : Nat) : Nat → Nat → Nat → Nat × Nat
  | 0, month, n => (month, n + 1)
  | left + 1, month, n =>
    let size := Moment.daysIn year month
    if n < size then (month, n + 1) else monthAndDay year left (month + 1) (n - size)

/-- The day of a number. -/
def Day.ofNumber (n : Nat) : Day :=
  let guess := n * 400 / 146097
  let year := if n < Moment.daysBeforeYear guess then guess - 1
    else if Moment.daysBeforeYear (guess + 1) ≤ n then guess + 1 else guess
  let (month, day) := monthAndDay year 11 1 (n - Moment.daysBeforeYear year)
  ⟨year, month, day⟩

/-- The number of a moment's day. -/
def dayNumber (i : Instant) : Nat :=
  (Int.fdiv i.seconds 86400 + epoch).toNat

/-- The seconds of a moment's day. -/
def secondOfDay (i : Instant) : Nat :=
  (Int.fmod i.seconds 86400).toNat

/-- The moment of a day and of a second of it. -/
def ofDay (number second : Nat) : Instant :=
  ⟨((number : Int) - epoch) * 86400 + second⟩

/-! ## Formats -/

/-- The names of the days of the week, from Sunday on. -/
def dayNames : List String :=
  ["Sunday", "Monday", "Tuesday", "Wednesday", "Thursday", "Friday", "Saturday"]

/-- The names of the months. -/
def monthNames : List String :=
  ["January", "February", "March", "April", "May", "June", "July", "August", "September",
    "October", "November", "December"]

/-- The year and the number of a week that begins on Monday and belongs to the year in which most of
its days lie. -/
def isoWeek (number : Nat) : Nat × Nat :=
  let weekday := (number + 5) % 7
  -- The Thursday of the week decides.
  let thursday := number + 3 - weekday
  let year := (Day.ofNumber thursday).year
  (year, (thursday - Moment.daysBeforeYear year) / 7 + 1)

/-- A number filled up to a width. -/
def filled (fill : Option Char) (width n : Nat) : Text :=
  let ds := Text.ofNat n
  match fill with
  | some c => List.replicate (width - ds.length) c ++ ds
  | none => ds

/-- The value of a letter of a format: a text, or a number with its usual width and filling. -/
def value? (i : Instant) (c : Char) : Option (Text ⊕ (Nat × Nat × Char)) :=
  let number := i.dayNumber
  let d := Day.ofNumber number
  let s := i.secondOfDay
  let hour := s / 3600
  let twelve := if hour % 12 = 0 then 12 else hour % 12
  let minute := s / 60 % 60
  let second := s % 60
  let weekday := (number + 6) % 7
  let yearDay := number - Moment.daysBeforeYear d.year
  let dayName := (dayNames.getD weekday "").toList
  let monthName := (monthNames.getD (d.month - 1) "").toList
  let two (n : Nat) : Text := filled (some '0') 2 n
  let time := two hour ++ ':' :: two minute ++ ':' :: two second
  let year := filled (some '0') 4 d.year
  let numeral (n width : Nat) : Option (Text ⊕ (Nat × Nat × Char)) := some (.inr (n, width, '0'))
  let blank (n width : Nat) : Option (Text ⊕ (Nat × Nat × Char)) := some (.inr (n, width, ' '))
  let words (t : Text) : Option (Text ⊕ (Nat × Nat × Char)) := some (.inl t)
  let slashed := two d.month ++ '/' :: two d.day ++ '/' :: two (d.year % 100)
  match c with
  | 'a' => words (dayName.take 3)
  | 'A' => words dayName
  | 'b' | 'h' => words (monthName.take 3)
  | 'B' => words monthName
  | 'c' => words (dayName.take 3 ++ ' ' :: monthName.take 3 ++ ' ' :: filled (some ' ') 2 d.day
      ++ ' ' :: time ++ ' ' :: year)
  | 'C' => numeral (d.year / 100) 2
  | 'd' => numeral d.day 2
  | 'D' | 'x' => words slashed
  | 'e' => blank d.day 2
  | 'F' => words (year ++ '-' :: two d.month ++ '-' :: two d.day)
  | 'g' => numeral ((isoWeek number).1 % 100) 2
  | 'G' => numeral (isoWeek number).1 4
  | 'H' => numeral hour 2
  | 'I' => numeral twelve 2
  | 'j' => numeral (yearDay + 1) 3
  | 'k' => blank hour 2
  | 'l' => blank twelve 2
  | 'm' => numeral d.month 2
  | 'M' => numeral minute 2
  | 'n' => words ['\n']
  | 'N' => words "000000000".toList
  | 'p' => words (if hour < 12 then "AM" else "PM").toList
  | 'P' => words (if hour < 12 then "am" else "pm").toList
  | 'q' => numeral ((d.month + 2) / 3) 1
  | 'r' => words (two twelve ++ ':' :: two minute ++ ':' :: two second
      ++ (if hour < 12 then " AM" else " PM").toList)
  | 'R' => words (two hour ++ ':' :: two minute)
  | 's' => words (if i.seconds < 0 then '-' :: Text.ofNat i.seconds.natAbs
      else Text.ofNat i.seconds.natAbs)
  | 'S' => numeral second 2
  | 't' => words ['\t']
  | 'T' | 'X' => words time
  | 'u' => numeral (if weekday = 0 then 7 else weekday) 1
  | 'U' => numeral ((yearDay + 7 - weekday) / 7) 2
  | 'V' => numeral (isoWeek number).2 2
  | 'w' => numeral weekday 1
  | 'W' => numeral ((yearDay + 7 - (weekday + 6) % 7) / 7) 2
  | 'y' => numeral (d.year % 100) 2
  | 'Y' => numeral d.year 4
  | 'z' => words "+0000".toList
  | 'Z' => words "UTC".toList
  | '%' => words ['%']
  | _ => none

/-- A moment in a format, with the given fuel. -/
def formatFrom (i : Instant) : Nat → Text → Text
  | 0, _ | _, [] => []
  | fuel + 1, c :: rest =>
    if c ≠ '%' then c :: formatFrom i fuel rest
    else
      let flags := rest.takeWhile fun c => "-_0^#".toList.contains c
      let behind := rest.drop flags.length
      let ds := behind.takeWhile Char.isDigit
      let behind := behind.drop ds.length
      let colons := behind.takeWhile (· = ':')
      match behind.drop colons.length with
      | [] => ['%'] ++ rest
      | letter :: behind =>
        match i.value? letter with
        | none => '%' :: flags ++ ds ++ colons ++ letter :: formatFrom i fuel behind
        | some v =>
          let t : Text :=
            match v with
            | .inl t =>
              let t := if letter = 'z' ∧ colons.length = 1 then "+00:00".toList
                else if letter = 'z' ∧ colons.length = 2 then "+00:00:00".toList else t
              List.replicate ((Text.toNat? ds).getD 0 - t.length) ' ' ++ t
            | .inr (n, width, fill) =>
              let fill : Option Char :=
                match flags.getLast? with
                | some '-' => none
                | some '_' => some ' '
                | some '0' => some '0'
                | _ => some fill
              filled fill ((Text.toNat? ds).getD width) n
          (if flags.contains '^' then t.map Char.toUpper else t) ++ formatFrom i fuel behind

/-- A moment in a format. -/
def format (i : Instant) (t : Text) : Text :=
  i.formatFrom (t.length + 1) t

/-! ## Texts -/

/-- The numbers in a text, which single characters keep apart. -/
def numbersOf (isBetween : Char → Bool) (t : Text) : List (Option Nat) :=
  (Text.pieces isBetween t).map fun p => if p.all Char.isDigit then Text.toNat? p else none

/-- The date of a text such as `2020-01-31`. -/
def day? (t : Text) : Option Nat :=
  match numbersOf (· = '-') t with
  | [some year, some month, some day] =>
    if 1 ≤ month ∧ month ≤ 12 ∧ 1 ≤ day ∧ day ≤ Moment.daysIn year month then
      some (Day.number ⟨year, month, day⟩)
    else none
  | _ => none

/-- The second of a day for a text such as `23:59` or `23:59:00`. -/
def time? (t : Text) : Option Nat :=
  let t := t.takeWhile fun c => c ≠ '.'
  match numbersOf (· = ':') t with
  | [some h, some m] => if h < 24 ∧ m < 60 then some (h * 3600 + m * 60) else none
  | [some h, some m, some s] =>
    if h < 24 ∧ m < 60 ∧ s < 60 then some (h * 3600 + m * 60 + s) else none
  | _ => none

/-- What is known of a moment while the words of a text are read. -/
structure Sketch where
  number : Nat
  second : Nat
  shift : Int

/-- How many seconds a unit has. -/
def unit? (t : Text) : Option Nat :=
  match String.ofList ((Text.stripBack ['s'] t).getD t) with
  | "second" | "sec" => some 1
  | "minute" | "min" => some 60
  | "hour" => some 3600
  | "day" => some 86400
  | "week" => some 604800
  | "fortnight" => some 1209600
  | _ => none

/-- Reads words. -/
def readWords (s : Sketch) : List Text → Option Sketch
  | [] => some s
  | w :: rest =>
    match String.ofList w with
    | "now" | "today" | "utc" | "gmt" | "z" | "utc+0" | "+0000" | "+00:00" => readWords s rest
    | "yesterday" => readWords { s with shift := s.shift - 86400 } rest
    | "tomorrow" => readWords { s with shift := s.shift + 86400 } rest
    | "midnight" => readWords { s with second := 0 } rest
    | "noon" => readWords { s with second := 43200 } rest
    | _ =>
      match day? w with
      | some number => readWords { s with number, second := 0 } rest
      | none =>
        match time? w with
        | some second => readWords { s with second } rest
        | none =>
          let (sign, ds) : Int × Text :=
            match w with
            | '-' :: ds => (-1, ds)
            | '+' :: ds => (1, ds)
            | ds => (1, ds)
          match if ds ≠ [] ∧ ds.all Char.isDigit then Text.toNat? ds else none, rest with
          | some n, u :: rest =>
            match unit? u with
            | none => none
            | some size =>
              let amount : Int := sign * (n * size)
              match rest with
              | ['a', 'g', 'o'] :: rest => readWords { s with shift := s.shift - amount } rest
              | rest => readWords { s with shift := s.shift + amount } rest
          | _, _ => none
  termination_by ws => ws.length
  decreasing_by all_goals simp_wf <;> omega

/-- The moment that a text stands for. -/
def ofText? (t : Text) : Option Instant :=
  match Moment.parse? t with
  | some m =>
    some ⟨(ofDay (Day.number ⟨m.year, m.month, m.day⟩)
      (m.hour * 3600 + m.minute * 60 + m.second)).seconds - m.zone⟩
  | none =>
    match t with
    | '@' :: ds =>
      let (sign, ds) : Int × Text :=
        match ds with
        | '-' :: ds => (-1, ds)
        | ds => (1, ds)
      let whole := ds.takeWhile Char.isDigit
      if (ds.drop whole.length).all fun c => c = '.' ∨ c.isDigit then
        (Text.toNat? whole).map fun n => ⟨sign * n⟩
      else none
    | _ =>
      let lower := t.map Char.toLower
      -- A letter between a date and a time, and one behind them, stand for blanks.
      let parted := lower.zipIdx.flatMap fun (c, i) =>
        let isInside : Bool := 0 < i ∧ ((lower[i - 1]?).any Char.isDigit)
        if c = 't' ∧ isInside ∧ (lower[i + 1]?).any Char.isDigit then [' ']
        else if c = 'z' ∧ isInside then [' ', 'z'] else [c]
      let words := (Text.pieces (fun c => c = ' ' ∨ c = '\t') parted).filter (· ≠ [])
      (readWords ⟨now.dayNumber, now.secondOfDay, 0⟩ words).map fun s =>
        ⟨(ofDay s.number s.second).seconds + s.shift⟩

end Instant

/-- Writes what the clock shows, or another moment, in a format. -/
def date : Utility := fun arguments =>
  let arguments := arguments.map fun t =>
    if "-I".toList.isPrefixOf t then "--iso-8601=".toList ++ t.drop 2
    else if t = "--iso-8601".toList then "--iso-8601=".toList else t
  withOptions "date" 1 "d:uRr:i:s:" [("date", 'd'), ("utc", 'u'), ("universal", 'u'),
    ("rfc-email", 'R'), ("rfc-2822", 'R'), ("iso-8601", 'i'), ("reference", 'r'), ("set", 's')]
    arguments fun g => do
    let given := g.value? 'd'
    let moment := (given.map Instant.ofText?).getD (some Instant.now)
    let format? : Option Text :=
      match g.operands with
      | ('+' :: form) :: _ => some form
      | [] =>
        if g.has 'R' then some "%a, %d %b %Y %H:%M:%S %z".toList
        else
          match (g.value? 'i').map String.ofList with
          | some "hours" => some "%Y-%m-%dT%H%:z".toList
          | some "minutes" => some "%Y-%m-%dT%H:%M%:z".toList
          | some "seconds" => some "%Y-%m-%dT%H:%M:%S%:z".toList
          | some "ns" => some "%Y-%m-%dT%H:%M:%S,%N%:z".toList
          | some _ => some "%F".toList
          | none => some "%a %b %e %H:%M:%S %Z %Y".toList
      | _ => none
    match moment, format? with
    | none, _ => complain "date" 1 ("invalid date ".toList ++ Name.marked (given.getD []))
    | _, none => complain "date" 1 ("invalid date ".toList ++ Name.marked (g.operands.headD []))
    | some i, some form => writeLines [i.format form]

end Postroom.Shell.Utility
