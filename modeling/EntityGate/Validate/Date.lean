/-
# Dates in a format

Whether a text is a date in a format of percent directives.  Each directive reads some parts of
the date or of a time of day; blanks in the format match any blanks, and every other character
matches itself.  The parts that were read have to suffice for one day of the calendar, to hold
of it, and to agree with one another.
-/
import EntityGate.Text.CharClass
import EntityGate.Validate.Calendar

namespace EntityGate.Date

/-- The parts of a date that directives read. -/
inductive Part where
  | year
  | century
  | shortYear
  | weekYear
  | shortWeekYear
  | quarter
  | month
  | day
  | ordinal
  | weekday
  /-- The week of the year, where weeks begin on Sunday. -/
  | sundayWeek
  /-- The week of the year, where weeks begin on Monday. -/
  | mondayWeek
  /-- The week of the year that has most of its days. -/
  | week
  /-- The half of the day: zero before noon, one after it. -/
  | half
  /-- The hour of the half of the day. -/
  | hour
  | minute
  | second
  | nanosecond
  | timestamp
  /-- The seconds by which the zone is ahead. -/
  | offset
deriving DecidableEq, Repr

/-- What a number in a text tells. -/
inductive Numeral where
  /-- A part as it is. -/
  | part (p : Part)
  /-- The hour of the day. -/
  | hourOfDay
  /-- The hour of the half of the day, with twelve for zero. -/
  | hourOfHalf
  /-- The day of the week, with one for Monday. -/
  | weekdayFromMonday
  /-- The day of the week, with zero for Sunday. -/
  | weekdayFromSunday
deriving DecidableEq, Repr

/-- One step of reading a date. -/
inductive Item where
  /-- A character that matches itself. -/
  | literal (c : Char)
  /-- Any blanks. -/
  | blanks
  /-- A number of at most some digits. -/
  | number (numeral : Numeral) (width : Nat)
  /-- The name of a month, written in full or only by its first three letters. -/
  | monthName (inFull : Bool)
  /-- The name of a day of the week, written in full or only by its first three letters. -/
  | weekdayName (inFull : Bool)
  /-- The half of the day. -/
  | halfName
  /-- A fraction of a second of some digits, or of any number of them. -/
  | fraction (width : Option Nat)
  /-- A fraction of a second after a point, if there is a point. -/
  | pointFraction (width : Option Nat)
  /-- The letter or the blank between a date and a time. -/
  | separator
  /-- The name of a zone, which is not looked at. -/
  | zoneName
  /-- The offset of a zone. -/
  | zone
  /-- The offset of a zone, or `Z`; minutes may be missing. -/
  | looseZone
  /-- The offset of a zone, `Z` or `UTC`. -/
  | universalZone
deriving DecidableEq, Repr

/-! ## Formats -/

/-- A number that stands for a part. -/
def partItem (p : Part) (width : Nat) : Item := .number (.part p) width

/-- A year, a month and a day. -/
def dateItems : List Item :=
  [partItem .year 4, .literal '-', partItem .month 2, .literal '-', partItem .day 2]

/-- A month, a day and two digits of the year. -/
def shortDateItems : List Item :=
  [partItem .month 2, .literal '/', partItem .day 2, .literal '/', partItem .shortYear 2]

/-- An hour and a minute. -/
def minuteItems (hour : Numeral) : List Item :=
  [.number hour 2, .literal ':', partItem .minute 2]

/-- An hour, a minute and a second. -/
def timeItems (hour : Numeral) : List Item :=
  minuteItems hour ++ [.literal ':', partItem .second 2]

/-- A date and a time with a zone. -/
def timestampItems : List Item :=
  [partItem .year 4, .blanks, .literal '-', partItem .month 2, .blanks, .literal '-',
    partItem .day 2, .separator, .number .hourOfDay 2, .blanks, .literal ':',
    partItem .minute 2, .blanks, .literal ':', partItem .second 2, .pointFraction none, .blanks,
    .universalZone]

/-- The items of a directive of one letter. -/
def directive? : Char → Option (List Item)
  | 'Y' => some [partItem .year 4]
  | 'C' => some [partItem .century 2]
  | 'y' => some [partItem .shortYear 2]
  | 'G' => some [partItem .weekYear 4]
  | 'g' => some [partItem .shortWeekYear 2]
  | 'q' => some [partItem .quarter 1]
  | 'm' => some [partItem .month 2]
  | 'b' | 'h' => some [.monthName false]
  | 'B' => some [.monthName true]
  | 'd' | 'e' => some [partItem .day 2]
  | 'j' => some [partItem .ordinal 3]
  | 'a' => some [.weekdayName false]
  | 'A' => some [.weekdayName true]
  | 'u' => some [.number .weekdayFromMonday 1]
  | 'w' => some [.number .weekdayFromSunday 1]
  | 'U' => some [partItem .sundayWeek 2]
  | 'W' => some [partItem .mondayWeek 2]
  | 'V' => some [partItem .week 2]
  | 'H' | 'k' => some [.number .hourOfDay 2]
  | 'I' | 'l' => some [.number .hourOfHalf 2]
  | 'p' | 'P' => some [.halfName]
  | 'M' => some [partItem .minute 2]
  | 'S' => some [partItem .second 2]
  | 'f' => some [partItem .nanosecond 9]
  | 's' => some [partItem .timestamp 1000]
  | 'Z' => some [.zoneName]
  | 'z' => some [.zone]
  | 'F' => some dateItems
  | 'D' | 'x' => some shortDateItems
  | 'v' => some [partItem .day 2, .literal '-', .monthName false, .literal '-', partItem .year 4]
  | 'R' => some (minuteItems .hourOfDay)
  | 'T' | 'X' => some (timeItems .hourOfDay)
  | 'r' => some (timeItems .hourOfHalf ++ [.blanks, .halfName])
  | 'c' =>
    some ([.weekdayName false, .blanks, .monthName false, .blanks, partItem .day 2, .blanks] ++
      timeItems .hourOfDay ++ [.blanks, partItem .year 4])
  | '+' => some timestampItems
  | 'n' | 't' => some [.blanks]
  | '%' => some [.literal '%']
  | _ => none

/-- The item of a directive with a sign for its padding, which only a number may have. -/
def padded? (c : Char) : Option Item :=
  match directive? c with
  | some [.number numeral width] => some (.number numeral width)
  | _ => none

/-- The number of digits that a fraction is asked to have. -/
def fractionWidth? : Char → Option Nat
  | '3' => some 3
  | '6' => some 6
  | '9' => some 9
  | _ => none

/-- The items at the start of a format after a percent sign, and the rest of the format. -/
def afterPercent? : List Char → Option (List Item × List Char)
  | '#' :: 'z' :: rest => some ([.looseZone], rest)
  | ':' :: 'z' :: rest => some ([.zone], rest)
  | ':' :: ':' :: 'z' :: rest => some ([.zone], rest)
  | ':' :: ':' :: ':' :: 'z' :: rest => some ([.zone], rest)
  | '.' :: 'f' :: rest => some ([.pointFraction none], rest)
  | '.' :: c :: 'f' :: rest => (fractionWidth? c).map fun n => ([.pointFraction (some n)], rest)
  | '-' :: c :: rest | '0' :: c :: rest | '_' :: c :: rest =>
    (padded? c).map fun item => ([item], rest)
  | c :: rest =>
    match fractionWidth? c, rest with
    | some n, 'f' :: rest => some ([.fraction (some n)], rest)
    | _, _ => (directive? c).map fun items => (items, rest)
  | [] => none

/-- The items of a format, of at most some length; `none` where a directive is unknown. -/
def itemsWithin? : Nat → List Char → Option (List Item)
  | _, [] => some []
  | 0, _ => none
  | length + 1, c :: rest =>
    if c = '%' then do
      let (items, rest) ← afterPercent? rest
      return items ++ (← itemsWithin? length rest)
    else do
      let item := if Text.isBlank c then Item.blanks else .literal c
      return item :: (← itemsWithin? length rest)

/-- The items of a format. -/
def items? (format : String) : Option (List Item) :=
  itemsWithin? format.length format.toList

/-! ## Parts -/

/-- The parts read so far. -/
abbrev Parts : Type := List (Part × Int)

/-- The value of a part, if it was read. -/
def part? (parts : Parts) (p : Part) : Option Int := parts.lookup p

/-- The values that a part may have. -/
def inRange : Part → Int → Bool
  | .year, v | .weekYear, v | .offset, v => -Int.pow 2 31 ≤ v && v < Int.pow 2 31
  | .century, v => 0 ≤ v && v < Int.pow 2 31
  | .shortYear, v | .shortWeekYear, v => 0 ≤ v && v ≤ 99
  | .quarter, v => 1 ≤ v && v ≤ 4
  | .month, v => 1 ≤ v && v ≤ 12
  | .day, v => 1 ≤ v && v ≤ 31
  | .ordinal, v => 1 ≤ v && v ≤ 366
  | .weekday, v => 0 ≤ v && v ≤ 6
  | .sundayWeek, v | .mondayWeek, v => 0 ≤ v && v ≤ 53
  | .week, v => 1 ≤ v && v ≤ 53
  | .half, v => 0 ≤ v && v ≤ 1
  | .hour, v => 0 ≤ v && v ≤ 11
  | .minute, v => 0 ≤ v && v ≤ 59
  | .second, v => 0 ≤ v && v ≤ 60
  | .nanosecond, v => 0 ≤ v && v < Int.pow 10 9
  | .timestamp, v => 0 ≤ v && v < Int.pow 2 63

/-- Note the value of a part, which has to agree with an earlier one. -/
def note? (parts : Parts) (p : Part) (v : Int) : Option Parts :=
  if !inRange p v then none
  else match part? parts p with
    | none => some ((p, v) :: parts)
    | some w => if v = w then some parts else none

/-- Note what a number tells. -/
def noteNumber? (parts : Parts) (numeral : Numeral) (v : Int) : Option Parts :=
  match numeral with
  | .part p => note? parts p v
  | .hourOfDay => do note? (← note? parts .half (v / 12)) .hour (v % 12)
  | .hourOfHalf => if 1 ≤ v ∧ v ≤ 12 then note? parts .hour (v % 12) else none
  | .weekdayFromMonday => note? parts .weekday (v - 1)
  | .weekdayFromSunday => if v ≤ 6 then note? parts .weekday ((v + 6) % 7) else none

/-! ## Reading -/

/-- Some digits as a number, and the rest; at least one digit and at most `width` are read. -/
def digits? (width : Nat) (cs : List Char) : Option (Nat × List Char) := do
  let ds := (cs.take width).takeWhile Char.isDigit
  let n ← Text.natOfDigits? ds
  return (n, cs.drop ds.length)

/-- Whether a number may have a sign, after which any number of digits is read. -/
def isSigned : Numeral → Bool
  | .part .year | .part .weekYear => true
  | _ => false

/-- A number with what it tells. -/
def number? (numeral : Numeral) (width : Nat) (cs : List Char) : Option (Int × List Char) :=
  let sign := if isSigned numeral then cs.head? else none
  match sign with
  | some '-' => (digits? cs.length (cs.drop 1)).map fun (n, cs) => (-(n : Int), cs)
  | some '+' => (digits? cs.length (cs.drop 1)).map fun (n, cs) => ((n : Int), cs)
  | _ => (digits? width cs).map fun (n, cs) => ((n : Int), cs)

/-- The months. -/
def months : List String :=
  ["january", "february", "march", "april", "may", "june", "july", "august", "september",
    "october", "november", "december"]

/-- The days of the week. -/
def weekdays : List String :=
  ["monday", "tuesday", "wednesday", "thursday", "friday", "saturday", "sunday"]

/-- Whether a text starts with a word, up to the case of ASCII letters. -/
def startsWith (word : List Char) (cs : List Char) : Bool :=
  (cs.take word.length).map Char.toLower == word

/-- The position of the name that a text starts with, and the rest: at least its first three
letters are read, and the others too where they are asked for and there. -/
def name? (names : List String) (inFull : Bool) (cs : List Char) : Option (Int × List Char) := do
  let i ← names.findIdx? fun name => startsWith (name.toList.take 3) cs
  let name ← names[i]?
  if inFull ∧ startsWith name.toList cs then return ((i : Int), cs.drop name.length)
  else return ((i : Int), cs.drop 3)

/-- The half of the day that a text starts with, and the rest. -/
def half? (cs : List Char) : Option (Int × List Char) :=
  if startsWith ['a', 'm'] cs then some (0, cs.drop 2)
  else if startsWith ['p', 'm'] cs then some (1, cs.drop 2)
  else none

/-- The nanoseconds in a fraction of a second, and the rest: exactly as many digits as are asked
for, or any number of which nine count. -/
def fraction? (width : Option Nat) (cs : List Char) : Option (Int × List Char) :=
  let ds := (cs.take (width.getD 9)).takeWhile Char.isDigit
  let rest := cs.drop ds.length
  if width.getD ds.length ≠ ds.length then none
  else (Text.natOfDigits? ds).map fun n =>
    (((n * Nat.pow 10 (9 - ds.length) : Nat) : Int),
      if width.isNone then rest.dropWhile Char.isDigit else rest)

/-- Two digits as a number, and the rest. -/
def twoDigits? : List Char → Option (Int × List Char)
  | a :: b :: rest => (Text.natOfDigits? [a, b]).map fun n => ((n : Int), rest)
  | _ => none

/-- The minutes of an offset, and the rest. -/
def offsetMinutes? (mayLack : Bool) (cs : List Char) : Option (Int × List Char) :=
  if (String.ofList cs).utf8ByteSize < 2 then
    if mayLack ∧ cs.isEmpty then some (0, []) else none
  else (twoDigits? cs).filter fun (n, _) => n < 60

/-- The seconds of an offset, and the rest: a sign, hours and minutes, with colons or blanks
between them. -/
def offset? (mayLack : Bool) (cs : List Char) : Option (Int × List Char) := do
  let (sign, cs) ← match cs with
    | '+' :: rest => some (1, rest)
    | '-' :: rest | '−' :: rest => some (-1, rest)
    | _ => none
  let (hours, cs) ← twoDigits? cs
  let (minutes, cs) ← offsetMinutes? mayLack (cs.dropWhile fun c => c = ':' || Text.isBlank c)
  return (sign * (3600 * hours + 60 * minutes), cs)

/-- The offset of a zone, zero where it is one of some words. -/
def zone? (words : List String) (mayLack : Bool) (cs : List Char) : Option (Int × List Char) :=
  match words.find? fun word => startsWith word.toList cs with
  | some word => some (0, cs.drop word.length)
  | none => offset? mayLack cs

/-- Read one item. -/
def readItem? (state : Parts × List Char) (item : Item) : Option (Parts × List Char) :=
  let (parts, cs) := state
  let trimmed := cs.dropWhile Text.isBlank
  let noted (p : Part) (read : Option (Int × List Char)) : Option (Parts × List Char) := do
    let (v, rest) ← read
    return (← note? parts p v, rest)
  match item with
  | .literal c =>
    match cs with
    | d :: rest => if d = c then some (parts, rest) else none
    | [] => none
  | .blanks => some (parts, trimmed)
  | .number numeral width => do
    let (v, rest) ← number? numeral width trimmed
    return (← noteNumber? parts numeral v, rest)
  | .monthName inFull =>
    noted .month ((name? months inFull cs).map fun (i, rest) => (i + 1, rest))
  | .weekdayName inFull => noted .weekday (name? weekdays inFull cs)
  | .halfName => noted .half (half? cs)
  | .fraction width => noted .nanosecond (fraction? width cs)
  | .pointFraction width =>
    match cs with
    | '.' :: rest => noted .nanosecond (fraction? width rest)
    | _ => some (parts, cs)
  | .separator =>
    match cs with
    | c :: rest => if c = 't' ∨ c = 'T' ∨ c = ' ' then some (parts, rest) else none
    | [] => none
  | .zoneName => some (parts, cs.dropWhile fun c => !Text.isBlank c)
  | .zone => noted .offset (zone? [] false trimmed)
  | .looseZone => noted .offset (zone? ["z"] true trimmed)
  | .universalZone => noted .offset (zone? ["utc", "z"] false trimmed)

/-! ## Days -/

/-- A year from its parts: two digits alone stand for a year from 1970 to 2069. -/
def yearOf (full century short : Option Int) : Option Int :=
  match full, century, short with
  | some y, _, _ => some y
  | none, some q, some r => some (100 * q + r)
  | none, none, some r => some (if r < 70 then 2000 + r else 1900 + r)
  | none, _, none => none

/-- The number of a day of the week on which weeks begin. -/
def sunday : Int := 6

/-- The day that the parts describe, from the first of these that is complete: a month and its
day, a place in the year, a week from Sunday or from Monday, and a week with its own year. -/
def day? (parts : Parts) : Option Day :=
  let get := part? parts
  match yearOf (get .year) (get .century) (get .shortYear), get .month, get .day, get .ordinal,
    get .sundayWeek, get .mondayWeek, get .weekday with
  | some year, some month, some day, _, _, _, _ => Day.ofMonth? year month day
  | some year, _, _, some ordinal, _, _, _ => Day.ofOrdinal? year ordinal
  | some year, _, _, _, some week, _, some weekday => Day.ofWeekFrom? sunday year week weekday
  | some year, _, _, _, _, some week, some weekday => Day.ofWeekFrom? 0 year week weekday
  | _, _, _, _, _, _, some weekday => do
    Day.ofWeek? (← yearOf (get .weekYear) none (get .shortWeekYear)) (← get .week) weekday
  | _, _, _, _, _, _, none => none

/-- Whether a value of a part holds of a day; parts of the time of day hold of every day. -/
def holdsOf (d : Day) (p : Part) (v : Int) : Bool :=
  match p with
  | .year => v = d.year
  | .century => 0 ≤ d.year && v = d.year / 100
  | .shortYear => 0 ≤ d.year && v = d.year % 100
  | .weekYear => v = d.weekYear
  | .shortWeekYear => 0 ≤ d.weekYear && v = d.weekYear % 100
  | .quarter => v = d.quarter
  | .month => v = d.month
  | .day => v = d.dayOfMonth
  | .ordinal => v = d.ordinal
  | .weekday => v = d.weekday
  | .sundayWeek => v = d.weekFrom sunday
  | .mondayWeek => v = d.weekFrom 0
  | .week => v = d.week
  | .half | .hour | .minute | .second | .nanosecond | .timestamp | .offset => true

/-- Whether the parts name a century but no year in it. -/
def lacksYear (parts : Parts) : Bool :=
  (part? parts .century).isSome && (part? parts .year).isNone && (part? parts .shortYear).isNone

/-- Whether the parts describe a day and hold of it. -/
def names (parts : Parts) : Bool :=
  match day? parts with
  | none => false
  | some d =>
    !lacksYear parts && Day.hasYear d.year && parts.all fun (p, v) => holdsOf d p v

/-- Whether a text is a date in a format. -/
def isIn (format text : String) : Bool :=
  match items? format with
  | none => false
  | some items =>
    match items.foldlM readItem? ([], text.toList) with
    | some (parts, []) => names parts
    | _ => false

end EntityGate.Date
