import NamespaceLogging.Text.Split

/-!
# Formats of points in time

A time format is text with specifiers such as `%Y` or `%H`.  A format with an unknown or unfinished
specifier is refused.

## Main definitions

* `Instant`: a point in time, by the calendar and the clock, in the zone UTC.
* `TimeField`, `TimeItem`: the numbers and names that a specifier may stand for.
* `TimeFormat.items?`: the reading of a format.
* `TimeFormat.render`: a point in time written in a format.

## Implementation notes

A specifier may carry a sign that changes how a single number is filled up: `-` not at all, `_` with
spaces, `0` with zeros.  On every other specifier such a sign is an error.  The specifier `%#z` is
part of the grammar, but no point in time can be written with it; a format that contains it writes
nothing at all.

The grammar and the texts are those of the time library that the logging system relies on.  No theorem
depends on them: a layout may have any format that `TimeFormat.isValid` admits, and whatever
`TimeFormat.render` makes of the time stands in the line.  Years up to 9999 are written as the library
does; its sign in front of later years is left out.
-/

set_option autoImplicit false

namespace NamespaceLogging

/-- A point in time, in UTC. -/
structure Instant where
  year : Nat
  month : Nat
  day : Nat
  hour : Nat
  minute : Nat
  second : Nat
  nanosecond : Nat
deriving DecidableEq, Repr

namespace Instant

/-- Whether the year has a 29th of February. -/
def isLeap (year : Nat) : Bool := year % 4 == 0 && (year % 100 != 0 || year % 400 == 0)

/-- The number of days of the year before a month begins. -/
def daysBefore (year month : Nat) : Nat :=
  let lengths := [31, if isLeap year then 29 else 28, 31, 30, 31, 30, 31, 31, 30, 31, 30, 31]
  (lengths.take (month - 1)).foldl (· + ·) 0

/-- The day of the year, from one. -/
def ordinal (t : Instant) : Nat := daysBefore t.year t.month + t.day

/-- The number of days from the first of January of the year one to the first of a year. -/
def daysToYear (year : Nat) : Nat :=
  let y := year - 1
  365 * y + y / 4 - y / 100 + y / 400

/-- The day of the week of a day of a year, with Monday as zero. -/
def weekdayOf (year ordinal : Nat) : Nat := (daysToYear year + ordinal - 1) % 7

/-- The day of the week, with Monday as zero. -/
def weekday (t : Instant) : Nat := weekdayOf t.year t.ordinal

/-- The number of weeks of a year when a week belongs to the year of its Thursday. -/
def weeksOf (year : Nat) : Nat :=
  let first := weekdayOf year 1
  if first = 3 || (first = 2 && isLeap year) then 53 else 52

/-- Year and week when a week belongs to the year of its Thursday. -/
def isoWeek (t : Instant) : Nat × Nat :=
  -- weeks are counted so that the one before the year's first is zero
  let week := (t.ordinal + 9 - t.weekday) / 7
  if week = 0 then (t.year - 1, weeksOf (t.year - 1))
  else if weeksOf t.year < week then (t.year + 1, 1)
  else (t.year, week)

/-- The seconds since the first of January 1970. -/
def timestamp (t : Instant) : Nat :=
  let days := daysToYear t.year + t.ordinal - 1 - daysToYear 1970
  ((days * 24 + t.hour) * 60 + t.minute) * 60 + t.second

/-- The hour on a clock with twelve hours. -/
def hour12 (t : Instant) : Nat := if t.hour % 12 = 0 then 12 else t.hour % 12

end Instant

/-- How a number is filled up to its width. -/
inductive NumberFill where
  | none
  | zeros
  | spaces
deriving DecidableEq, Repr

/-- The numbers of a point in time. -/
inductive TimeField where
  | century | year | yearOfCentury | month | day | hour | hour12 | minute | second | nanosecond
  | ordinal | quarter | weekFromSunday | weekFromMonday | weekdayFromMonday | weekdayFromSunday
  | isoYear | isoYearOfCentury | isoWeek | timestamp
deriving DecidableEq, Repr

namespace TimeField

/-- The width that a number is filled up to. -/
def width : TimeField → Nat
  | year | isoYear => 4
  | ordinal => 3
  | nanosecond | timestamp => 9
  | quarter | weekdayFromMonday | weekdayFromSunday => 1
  | _ => 2

/-- The number. -/
def value (t : Instant) : TimeField → Nat
  | century => t.year / 100
  | year => t.year
  | yearOfCentury => t.year % 100
  | month => t.month
  | day => t.day
  | hour => t.hour
  | hour12 => t.hour12
  | minute => t.minute
  | second => t.second
  | nanosecond => t.nanosecond
  | ordinal => t.ordinal
  | quarter => (t.month - 1) / 3 + 1
  | weekFromSunday => (t.ordinal + 6 - (t.weekday + 1) % 7) / 7
  | weekFromMonday => (t.ordinal + 6 - t.weekday) / 7
  | weekdayFromMonday => t.weekday + 1
  | weekdayFromSunday => (t.weekday + 1) % 7
  | isoYear => t.isoWeek.1
  | isoYearOfCentury => t.isoWeek.1 % 100
  | isoWeek => t.isoWeek.2
  | timestamp => t.timestamp

end TimeField

/-- What a format is made of. -/
inductive TimeItem where
  | text (c : Char)
  | number (field : TimeField) (fill : NumberFill)
  | weekdayName (long : Bool)
  | monthName (long : Bool)
  /-- Before or after noon. -/
  | halfDay (capital : Bool)
  /-- The fraction of the second, with a point before it or not; `none` takes as many groups of
  three digits as are needed. -/
  | fraction (point : Bool) (digits : Option Nat)
  /-- The name of the zone. -/
  | zoneName
  /-- The distance of the zone from UTC, as it is written. -/
  | zoneOffset (text : String)
  /-- A specifier that no point in time can be written with. -/
  | unwritable
deriving DecidableEq, Repr

namespace TimeItem

/-- The days of the week. -/
def weekdays : List String :=
  ["Monday", "Tuesday", "Wednesday", "Thursday", "Friday", "Saturday", "Sunday"]

/-- The months. -/
def months : List String :=
  ["January", "February", "March", "April", "May", "June", "July", "August", "September",
   "October", "November", "December"]

/-- A name, or its first three letters. -/
def nameText (long : Bool) (name : String) : List Char :=
  if long then name.toList else name.toList.take 3

/-- A number filled up to a width on its left. -/
def fillUp (fill : NumberFill) (width n : Nat) : List Char :=
  let digits := Nat.toDigits 10 n
  match fill with
  | .none => digits
  | .zeros => List.replicate (width - digits.length) '0' ++ digits
  | .spaces => List.replicate (width - digits.length) ' ' ++ digits

/-- The fraction of a second with the least number of groups of three digits. -/
def shortFraction (nanosecond : Nat) : List Char :=
  if nanosecond = 0 then []
  else if nanosecond % 1000000 = 0 then '.' :: fillUp .zeros 3 (nanosecond / 1000000)
  else if nanosecond % 1000 = 0 then '.' :: fillUp .zeros 6 (nanosecond / 1000)
  else '.' :: fillUp .zeros 9 nanosecond

/-- The text of an item, if it can be written. -/
def render? (t : Instant) : TimeItem → Option (List Char)
  | text c => some [c]
  | number field fill => some (fillUp fill field.width (field.value t))
  | weekdayName long => some (nameText long (weekdays.getD t.weekday ""))
  | monthName long => some (nameText long (months.getD (t.month - 1) ""))
  | halfDay capital =>
    some (if t.hour < 12 then (if capital then ['A', 'M'] else ['a', 'm'])
      else (if capital then ['P', 'M'] else ['p', 'm']))
  | fraction _ none => some (shortFraction t.nanosecond)
  | fraction point (some digits) =>
    some ((if point then ['.'] else []) ++
      fillUp .zeros digits (t.nanosecond / Nat.pow 10 (9 - digits)))
  | zoneName => some ['U', 'T', 'C']
  | zoneOffset offset => some offset.toList
  | unwritable => none

end TimeItem

/-! ## Reading a format -/

namespace TimeFormat

open TimeField TimeItem

/-- A number filled up with zeros. -/
def zeros (field : TimeField) : TimeItem := .number field .zeros

/-- Numbers with characters between them. -/
def joined (sep : Char) : List TimeField → List TimeItem
  | [] => []
  | [field] => [zeros field]
  | field :: rest => zeros field :: .text sep :: joined sep rest

/-- The items of a specifier with one letter. -/
def letterItems? : Char → Option (List TimeItem)
  | 'A' => some [.weekdayName true]
  | 'B' => some [.monthName true]
  | 'C' => some [zeros century]
  | 'D' | 'x' => some (joined '/' [month, day, yearOfCentury])
  | 'F' => some (joined '-' [year, month, day])
  | 'G' => some [zeros isoYear]
  | 'H' => some [zeros hour]
  | 'I' => some [zeros hour12]
  | 'M' => some [zeros minute]
  | 'P' => some [.halfDay false]
  | 'R' => some (joined ':' [hour, minute])
  | 'S' => some [zeros second]
  | 'T' | 'X' => some (joined ':' [hour, minute, second])
  | 'U' => some [zeros weekFromSunday]
  | 'V' => some [zeros isoWeek]
  | 'W' => some [zeros weekFromMonday]
  | 'Y' => some [zeros year]
  | 'Z' => some [.zoneName]
  | 'a' => some [.weekdayName false]
  | 'b' | 'h' => some [.monthName false]
  | 'c' =>
    some ([.weekdayName false, .text ' ', .monthName false, .text ' ', .number day .spaces,
      .text ' '] ++ joined ':' [hour, minute, second] ++ [.text ' ', zeros year])
  | 'd' => some [zeros day]
  | 'e' => some [.number day .spaces]
  | 'f' => some [zeros nanosecond]
  | 'g' => some [zeros isoYearOfCentury]
  | 'j' => some [zeros TimeField.ordinal]
  | 'k' => some [.number hour .spaces]
  | 'l' => some [.number hour12 .spaces]
  | 'm' => some [zeros month]
  | 'n' => some [.text '\n']
  | 'p' => some [.halfDay true]
  | 'q' => some [.number quarter .none]
  | 'r' => some (joined ':' [hour12, minute, second] ++ [.text ' ', .halfDay true])
  | 's' => some [.number timestamp .none]
  | 't' => some [.text '\t']
  | 'u' => some [.number weekdayFromMonday .none]
  | 'v' =>
    some [.number day .spaces, .text '-', .monthName false, .text '-', zeros year]
  | 'w' => some [.number weekdayFromSunday .none]
  | 'y' => some [zeros yearOfCentury]
  | 'z' => some [.zoneOffset "+0000"]
  | '+' =>
    some (joined '-' [year, month, day] ++ [.text 'T'] ++ joined ':' [hour, minute, second] ++
      [.fraction true none, .zoneOffset "+00:00"])
  | '%' => some [.text '%']
  | _ => none

/-- The items of the specifier at the front of a text, without a fill sign, and the rest. -/
def readSpecifier? : List Char → Option (List TimeItem × List Char)
  | ':' :: ':' :: ':' :: 'z' :: rest => some ([.zoneOffset "+00"], rest)
  | ':' :: ':' :: 'z' :: rest => some ([.zoneOffset "+00:00:00"], rest)
  | ':' :: 'z' :: rest => some ([.zoneOffset "+00:00"], rest)
  | '.' :: 'f' :: rest => some ([.fraction true none], rest)
  | '.' :: '3' :: 'f' :: rest => some ([.fraction true (some 3)], rest)
  | '.' :: '6' :: 'f' :: rest => some ([.fraction true (some 6)], rest)
  | '.' :: '9' :: 'f' :: rest => some ([.fraction true (some 9)], rest)
  | '3' :: 'f' :: rest => some ([.fraction false (some 3)], rest)
  | '6' :: 'f' :: rest => some ([.fraction false (some 6)], rest)
  | '9' :: 'f' :: rest => some ([.fraction false (some 9)], rest)
  | letter :: rest => (letterItems? letter).map fun items => (items, rest)
  | [] => none

/-- The fill that a sign asks for. -/
def fillSign? : Char → Option NumberFill
  | '-' => some .none
  | '0' => some .zeros
  | '_' => some .spaces
  | _ => none

/-- The items of the specifier at the front of a text, behind its `%`, and the rest. -/
def readItem? : List Char → Option (List TimeItem × List Char)
  | '#' :: 'z' :: rest => some ([.unwritable], rest)
  | c :: rest =>
    match fillSign? c with
    | none => readSpecifier? (c :: rest)
    | some fill =>
      match readSpecifier? rest with
      | some ([.number field _], rest) => some ([.number field fill], rest)
      | _ => none
  | [] => none

/-- The items of the text between specifiers and of the specifiers.  The fuel is the length of the
format, which every step shortens. -/
def readItems? : Nat → List Char → Option (List TimeItem)
  | _, [] => some []
  | 0, _ :: _ => none
  | fuel + 1, '%' :: rest => do
    let (items, rest) ← readItem? rest
    let more ← readItems? fuel rest
    return items ++ more
  | fuel + 1, c :: rest => (readItems? fuel rest).map (.text c :: ·)

/-- The items of a format, if it is valid. -/
def items? (format : String) : Option (List TimeItem) :=
  readItems? format.toList.length format.toList

/-- Whether a format is valid. -/
def isValid (format : String) : Bool := (items? format).isSome

/-- A point in time in a format.  Where one item cannot be written, nothing is. -/
def render (format : String) (t : Instant) : String :=
  let text := (items? format).bind fun items => items.mapM (TimeItem.render? t)
  String.ofList ((text.map List.flatten).getD [])

end TimeFormat

end NamespaceLogging
