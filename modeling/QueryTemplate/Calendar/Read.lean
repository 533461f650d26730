import QueryTemplate.Calendar.Basic

/-!
# Reading dates and times

The readers accept the calendar and week forms of ISO 8601, with or without separators, and times
down to microseconds with an optional offset.  Reading has two steps: the fields are taken from
the text, and then checked, the offset first, then the date, then the time.
-/

namespace QueryTemplate

/-- Why a text is no date or time. -/
inductive CalendarError where
  | malformed
  | yearOutOfRange (year : Nat)
  | monthOutOfRange
  | dayOutOfRange
  | hourOutOfRange
  | minuteOutOfRange
  | secondOutOfRange
  | offsetOutOfRange (microseconds : Int)
  deriving DecidableEq

/-- Takes exactly `count` ASCII digits off the front. -/
def takeDigits : Nat → List Char → Option (Nat × List Char)
  | count, cs =>
    let ds := cs.take count
    if ds.length = count ∧ ds.all Char.isDigit then
      some (ds.foldl (fun n c => 10 * n + (c.toNat - '0'.toNat)) 0, cs.drop count)
    else none

/-! ## Dates -/

/-- The fields of a written date. -/
inductive DateFields where
  | calendar (year month day : Nat)
  | week (year week day : Nat)
  deriving DecidableEq

/-- The fields after the `W` of a week date: the week, and a day with a separator or without. -/
def readWeek (year : Nat) (separated : Bool) (cs : List Char) : Option DateFields := do
  let (week, rest) ← takeDigits 2 cs
  match separated, rest with
  | _, [] => some (.week year week 1)
  | true, '-' :: more => (takeDigits 1 more).map fun r => .week year week r.1
  | true, _ => none
  | false, more => (takeDigits 1 more).map fun r => .week year week r.1

/-- The fields after the year of a calendar date. -/
def readMonthDay (year : Nat) (separated : Bool) (cs : List Char) : Option DateFields := do
  let (month, rest) ← takeDigits 2 cs
  let rest ← match separated, rest with
    | true, '-' :: more => some more
    | true, _ => none
    | false, more => some more
  let (day, _) ← takeDigits 2 rest
  some (.calendar year month day)

/-- The fields of a written date.  Text after the day is left out of account. -/
def readDateFields (cs : List Char) : Option DateFields := do
  let (year, rest) ← takeDigits 4 cs
  let (separated, rest) := match rest with
    | '-' :: more => (true, more)
    | more => (false, more)
  match rest with
  | 'W' :: more => readWeek year separated more
  | more => readMonthDay year separated more

/-- The month and day of the `n`-th day, counted through the lengths of the months from `month`
on. -/
def monthAndDay : List Nat → Nat → Nat → Nat × Nat
  | [], month, n => (month, n)
  | length :: rest, month, n =>
    if n ≤ length then (month, n) else monthAndDay rest (month + 1) (n - length)

/-- The length of a year. -/
def daysInYear (year : Nat) : Nat :=
  if isLeapYear year then 366 else 365

/-- A date whose parts are checked. -/
def Date.checked (year month day : Nat) : Except CalendarError Date :=
  if h : Date.Valid year month day then .ok ⟨year, month, day, h⟩
  else if year = 0 ∨ 9999 < year then .error (.yearOutOfRange year)
  else if month = 0 ∨ 12 < month then .error .monthOutOfRange
  else .error .dayOutOfRange

/-- The weekday of the first of January: zero for Monday. -/
def firstWeekday (year : Nat) : Nat :=
  daysBeforeYear year % 7

/-- Does the year have a week 53?  It begins on a Thursday, or on a Wednesday in a leap year. -/
def isLongYear (year : Nat) : Bool :=
  firstWeekday year == 3 || (firstWeekday year == 2 && isLeapYear year)

/-- The date of a day of a week, which may fall into a neighbouring year.  Year zero has no
dates. -/
def Date.ofWeek (year week day : Nat) : Except CalendarError Date :=
  if week = 0 ∨ 53 < week ∨ (week = 53 ∧ (year = 0 ∨ !isLongYear year)) ∨ day = 0 ∨ 7 < day then
    .error .malformed
  else if year = 0 then .error .monthOutOfRange
  else
    let w := firstWeekday year
    let start : Int := if w ≤ 3 then -w else 7 - w
    let n : Int := start + 7 * (week - 1 : Nat) + day
    let (year, n) :=
      if n ≤ 0 then (year - 1, n + daysInYear (year - 1))
      else if n ≤ daysInYear year then (year, n)
      else (year + 1, n - daysInYear year)
    let (month, day) := monthAndDay (monthLengths year) 1 n.toNat
    Date.checked year month day

/-- The date with these fields. -/
def DateFields.check : DateFields → Except CalendarError Date
  | .calendar year month day => Date.checked year month day
  | .week year number day => Date.ofWeek year number day

/-- Reads a date: a text of seven, eight or ten characters. -/
def Date.read (s : String) : Except CalendarError Date :=
  if s.utf8ByteSize = 7 ∨ s.utf8ByteSize = 8 ∨ s.utf8ByteSize = 10 then
    match readDateFields s.toList with
    | some fields => fields.check
    | none => .error .malformed
  else .error .malformed

/-! ## Times -/

/-- The fields of a written time. -/
structure ClockFields where
  hour : Nat
  minute : Nat
  second : Nat
  microsecond : Nat
  deriving DecidableEq

/-- The fraction of a second in microseconds; digits beyond the sixth are dropped.  The flag says
whether text is left over after six digits or more. -/
def readFraction (cs : List Char) : Option (Nat × Bool) :=
  let width := min 6 cs.length
  (takeDigits width cs).map fun (n, rest) =>
    (n * Nat.pow 10 (6 - width), !(rest.dropWhile Char.isDigit).isEmpty)

/-- The field `index` (hours, minutes, seconds) and those after it.  A lone ASCII character after
a field is left over, which the flag says. -/
def readClockFrom (index : Nat) (separated : Bool) (fields : List Nat) (cs : List Char) :
    Option (List Nat × Nat × Bool) :=
  match takeDigits 2 cs with
  | none => none
  | some (n, rest) =>
    let fields := fields ++ [n]
    match rest with
    | [] => some (fields, 0, false)
    | c :: more =>
      let separated := if index = 0 then c == ':' else separated
      if more.isEmpty && c.toNat < 128 then some (fields, 0, true)
      else if c == '.' || c == ',' then
        (readFraction more).map fun (micros, left) => (fields, micros, left)
      else if h : index < 2 then
        if separated then
          if c == ':' then readClockFrom (index + 1) separated fields more else none
        else readClockFrom (index + 1) separated fields rest
      else if separated && c != ':' then none
      else
        (readFraction (if separated then more else rest)).map fun (micros, left) =>
          (fields, micros, left)
termination_by 2 - index

/-- A time without offset, and whether text is left over. -/
def readClock (cs : List Char) : Option (ClockFields × Bool) :=
  (readClockFrom 0 true [] cs).map fun (fields, micros, left) =>
    (⟨fields.getD 0 0, fields.getD 1 0, fields.getD 2 0, micros⟩, left)

/-- Does an offset begin here? -/
def beginsOffset (c : Char) : Bool :=
  c == '+' || c == '-' || c == 'Z'

/-- The microseconds of a clock text that stands for an offset.  Less than a second is none. -/
def ClockFields.offsetMicroseconds (negative : Bool) (f : ClockFields) : Int :=
  let seconds := (f.hour * 60 + f.minute) * 60 + f.second
  if seconds = 0 then 0
  else
    let n : Int := seconds * 1000000 + f.microsecond
    if negative then -n else n

/-- The fields of a written time and its offset in microseconds.  Before an offset, text left over
does no harm. -/
def readTimeFields (cs : List Char) : Option (ClockFields × Option Int) := do
  let front := cs.takeWhile (!beginsOffset ·)
  let (clock, left) ← readClock front
  match cs.drop front.length with
  | [] => if left then none else some (clock, none)
  | ['Z'] => some (clock, some 0)
  | 'Z' :: _ => none
  | sign :: more => do
    let (offset, left) ← readClock more
    if left then none else some (clock, some (offset.offsetMicroseconds (sign == '-')))

/-- An offset whose size is checked. -/
def UtcOffset.checked (microseconds : Int) : Except CalendarError UtcOffset :=
  if h : microseconds.natAbs < microsecondsPerDay then .ok ⟨microseconds, h⟩
  else .error (.offsetOutOfRange microseconds)

/-- The optional offset. -/
def checkOffset : Option Int → Except CalendarError (Option UtcOffset)
  | none => .ok none
  | some n => (UtcOffset.checked n).map some

/-- A time of day whose parts are checked. -/
def ClockFields.check (f : ClockFields) (offset : Option UtcOffset) : Except CalendarError Time :=
  if h : Time.Valid f.hour f.minute f.second f.microsecond then
    .ok ⟨f.hour, f.minute, f.second, f.microsecond, h, offset⟩
  else if 24 ≤ f.hour then .error .hourOutOfRange
  else if 60 ≤ f.minute then .error .minuteOutOfRange
  else .error .secondOutOfRange

/-- Reads a time of day, with or without a `T` in front. -/
def Time.read (s : String) : Except CalendarError Time :=
  let cs := match s.toList with
    | 'T' :: rest => rest
    | rest => rest
  match readTimeFields cs with
  | none => .error .malformed
  | some (clock, offset) => do
    let offset ← checkOffset offset
    clock.check offset

/-! ## Moments -/

/-- The length of the date in front of a written moment.  Where a week date and a time run
together, their digits are counted. -/
def dateLength (cs : List Char) : Nat :=
  if cs.length = 7 then 7
  else if cs[4]? == some '-' then
    if cs[5]? == some 'W' then
      if cs[8]? == some '-' then
        if (cs[10]?).any Char.isDigit then 8 else 10
      else 8
    else 10
  else if cs[4]? == some 'W' then
    let stop := 7 + ((cs.drop 7).takeWhile Char.isDigit).length
    if stop < 9 then stop else if stop % 2 = 0 then 7 else 8
  else 8

/-- Reads a moment: a date, which may stand alone, then one separating character and a time. -/
def Moment.read (s : String) : Except CalendarError Moment :=
  let cs := s.toList
  let length := dateLength cs
  match readDateFields (cs.take length) with
  | none => .error .malformed
  | some date =>
    match cs.drop length with
    | [] => (date.check).map (⟨·, .midnight⟩)
    | _ :: rest =>
      match readTimeFields rest with
      | none => .error .malformed
      | some (clock, offset) => do
        let offset ← checkOffset offset
        let date ← date.check
        let time ← clock.check offset
        .ok ⟨date, time⟩

end QueryTemplate
