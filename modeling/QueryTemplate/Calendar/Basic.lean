/-!
# Dates and times of day

A `Date` is a day of the Gregorian calendar in the years 1 to 9999, a `Time` a time of day with an
optional offset from universal time, and a `Moment` a date with a time.  A moment with an offset
stands for an instant; without one it is local, and the two kinds have no common order.
-/

namespace QueryTemplate

/-- Does the year have a day in February more? -/
def isLeapYear (year : Nat) : Bool :=
  year % 4 == 0 && (year % 100 != 0 || year % 400 == 0)

/-- The lengths of the months of a year, in order. -/
def monthLengths (year : Nat) : List Nat :=
  [31, if isLeapYear year then 29 else 28, 31, 30, 31, 30, 31, 31, 30, 31, 30, 31]

/-- The length of a month, counted from one; zero for no month. -/
def daysInMonth (year month : Nat) : Nat :=
  if month = 0 then 0 else (monthLengths year).getD (month - 1) 0

/-- The day exists, in a year of four digits. -/
def Date.Valid (year month day : Nat) : Prop :=
  1 ≤ year ∧ year ≤ 9999 ∧ 1 ≤ month ∧ month ≤ 12 ∧ 1 ≤ day ∧ day ≤ daysInMonth year month

instance (year month day : Nat) : Decidable (Date.Valid year month day) :=
  inferInstanceAs (Decidable (_ ∧ _ ∧ _ ∧ _ ∧ _ ∧ _))

/-- A day of the calendar. -/
structure Date where
  year : Nat
  month : Nat
  day : Nat
  valid : Date.Valid year month day
  deriving DecidableEq

/-- Days in the years before `year`. -/
def daysBeforeYear (year : Nat) : Nat :=
  let y := year - 1
  365 * y + y / 4 - y / 100 + y / 400

/-- Days from the beginning of year 1 up to and including the date. -/
def Date.dayNumber (d : Date) : Nat :=
  daysBeforeYear d.year + ((monthLengths d.year).take (d.month - 1)).foldr (· + ·) 0 + d.day

/-- Microseconds in a day. -/
def microsecondsPerDay : Nat := 86400000000

/-- The distance of local time from universal time, in microseconds: less than a day. -/
structure UtcOffset where
  microseconds : Int
  bounded : microseconds.natAbs < microsecondsPerDay
  deriving DecidableEq

/-- The offset of universal time itself. -/
def UtcOffset.zero : UtcOffset := ⟨0, by decide⟩

/-- A time of day. -/
def Time.Valid (hour minute second microsecond : Nat) : Prop :=
  hour < 24 ∧ minute < 60 ∧ second < 60 ∧ microsecond < 1000000

instance (hour minute second microsecond : Nat) :
    Decidable (Time.Valid hour minute second microsecond) :=
  inferInstanceAs (Decidable (_ ∧ _ ∧ _ ∧ _))

/-- A time of day, local or at an offset from universal time. -/
structure Time where
  hour : Nat
  minute : Nat
  second : Nat
  microsecond : Nat
  valid : Time.Valid hour minute second microsecond
  offset : Option UtcOffset
  deriving DecidableEq

/-- Midnight of local time. -/
def Time.midnight : Time := ⟨0, 0, 0, 0, by decide, none⟩

/-- A date with a time of day. -/
structure Moment where
  date : Date
  time : Time
  deriving DecidableEq

/-! ## Order -/

/-- The order of two dates. -/
def Date.order (a b : Date) : Ordering :=
  compare a.dayNumber b.dayNumber

/-- Whole seconds since midnight. -/
def Time.seconds (t : Time) : Nat :=
  (t.hour * 60 + t.minute) * 60 + t.second

/-- Seconds since midnight of universal time, and microseconds on top.  Parts of a second in the
offset do not count. -/
def Time.universal (t : Time) (offset : UtcOffset) : Int × Nat :=
  (t.seconds - Int.fdiv offset.microseconds 1000000, t.microsecond)

/-- The order of two times of day, when both have an offset or neither has. -/
def Time.order? (a b : Time) : Option Ordering :=
  match a.offset, b.offset with
  | none, none => some ((compare a.seconds b.seconds).then (compare a.microsecond b.microsecond))
  | some x, some y =>
    let (s, u) := a.universal x
    let (t, v) := b.universal y
    some ((compare s t).then (compare u v))
  | _, _ => none

/-- Microseconds since midnight of universal time, parts of a second in the offset included.  A
local time counts from local midnight. -/
def Time.instant (t : Time) : Int :=
  t.seconds * 1000000 + t.microsecond - (t.offset.map UtcOffset.microseconds).getD 0

/-- Do two times of day stand for one instant?  Equal times need not: their offsets may differ by
parts of a second. -/
def Time.coincides (a b : Time) : Bool :=
  a.order? b == some .eq && a.instant == b.instant

/-- Microseconds since the beginning of year 1, on the local clock. -/
def Moment.localMicroseconds (m : Moment) : Nat :=
  (m.date.dayNumber * 86400 + m.time.seconds) * 1000000 + m.time.microsecond

/-- The order of two moments, when both have an offset or neither has. -/
def Moment.order? (a b : Moment) : Option Ordering :=
  match a.time.offset, b.time.offset with
  | none, none => some (compare a.localMicroseconds b.localMicroseconds)
  | some x, some y =>
    some (compare (a.localMicroseconds - x.microseconds) (b.localMicroseconds - y.microseconds))
  | _, _ => none

end QueryTemplate
