import QueryTemplate.Calendar.Basic

/-!
# Written dates and times

The ISO 8601 text of a date or time, with parts of a second only where there are any, its brief
form, and the constructor form that diagnostic messages show.
-/

namespace QueryTemplate

/-- The decimal digits of `n`, filled with zeros to `width`. -/
def zeroPadded (width n : Nat) : String :=
  let ds := Nat.toDigits 10 n
  String.ofList (List.replicate (width - ds.length) '0' ++ ds)

/-- The text of a date, as in `2024-01-31`. -/
def Date.text (d : Date) : String :=
  zeroPadded 4 d.year ++ "-" ++ zeroPadded 2 d.month ++ "-" ++ zeroPadded 2 d.day

/-- The text of an offset, as in `+02:00`, with seconds and their parts where they are needed. -/
def UtcOffset.text (o : UtcOffset) : String :=
  let n := o.microseconds.natAbs
  let micros := n % 1000000
  let seconds := n / 1000000
  let tail :=
    if micros ≠ 0 then ":" ++ zeroPadded 2 (seconds % 60) ++ "." ++ zeroPadded 6 micros
    else if seconds % 60 ≠ 0 then ":" ++ zeroPadded 2 (seconds % 60)
    else ""
  (if o.microseconds < 0 then "-" else "+") ++ zeroPadded 2 (seconds / 3600) ++ ":" ++
    zeroPadded 2 (seconds / 60 % 60) ++ tail

/-- The text of a time of day without its offset, as in `12:30:00.500000`. -/
def Time.clockText (t : Time) : String :=
  zeroPadded 2 t.hour ++ ":" ++ zeroPadded 2 t.minute ++ ":" ++ zeroPadded 2 t.second ++
    (if t.microsecond = 0 then "" else "." ++ zeroPadded 6 t.microsecond)

/-- The text of a time of day, as in `12:30:00.500000+02:00`. -/
def Time.text (t : Time) : String :=
  t.clockText ++ (t.offset.map UtcOffset.text).getD ""

/-- The text of a moment with `separator` between date and time. -/
def Moment.textWith (separator : String) (m : Moment) : String :=
  m.date.text ++ separator ++ m.time.text

/-- The text of a moment, as in `2024-01-31T12:30:00`. -/
def Moment.text : Moment → String :=
  Moment.textWith "T"

/-! ## Brief form

An offset is written to the minute, and universal time is marked by a letter. -/

/-- An offset in whole seconds; half a second goes away from zero. -/
def UtcOffset.wholeSeconds (o : UtcOffset) : Int :=
  let n : Int := (o.microseconds.natAbs + 500000) / 1000000
  if o.microseconds < 0 then -n else n

/-- The brief text of an offset: `Z` or, as in `+02:00`, hours and minutes.  Seconds beyond the
minute are dropped, but an offset of a few seconds is not universal time. -/
def UtcOffset.briefText (o : UtcOffset) : String :=
  let n := o.wholeSeconds
  if n = 0 then "Z"
  else
    (if n < 0 then "-" else "+") ++ zeroPadded 2 (n.natAbs / 3600) ++ ":" ++
      zeroPadded 2 (n.natAbs / 60 % 60)

/-- The brief text of a time of day, as in `12:30:00Z`. -/
def Time.briefText (t : Time) : String :=
  t.clockText ++ (t.offset.map UtcOffset.briefText).getD ""

/-- The brief text of a moment, as in `2024-01-31T12:30:00Z`. -/
def Moment.briefText (m : Moment) : String :=
  m.date.text ++ "T" ++ m.time.briefText

/-! ## Constructor form -/

/-- The constructor form of a duration in microseconds.  Only its days may be negative. -/
def durationForm (microseconds : Int) : String :=
  let days := Int.fdiv microseconds microsecondsPerDay
  let rest := (Int.fmod microseconds microsecondsPerDay).toNat
  let parts :=
    (if days = 0 then [] else [s!"days={days}"]) ++
    (if rest / 1000000 = 0 then [] else [s!"seconds={rest / 1000000}"]) ++
    (if rest % 1000000 = 0 then [] else [s!"microseconds={rest % 1000000}"])
  "datetime.timedelta(" ++ (if parts.isEmpty then "0" else ", ".intercalate parts) ++ ")"

/-- The constructor form of an offset. -/
def UtcOffset.form (o : UtcOffset) : String :=
  if o.microseconds = 0 then "datetime.timezone.utc"
  else "datetime.timezone(" ++ durationForm o.microseconds ++ ")"

/-- The parts of a date as constructor arguments. -/
def Date.arguments (d : Date) : List String :=
  [toString d.year, toString d.month, toString d.day]

/-- The parts of a time as constructor arguments: seconds and their parts only where needed. -/
def Time.arguments (t : Time) : List String :=
  [toString t.hour, toString t.minute] ++
  (if t.second = 0 ∧ t.microsecond = 0 then [] else [toString t.second]) ++
  (if t.microsecond = 0 then [] else [toString t.microsecond]) ++
  (match t.offset with | none => [] | some o => ["tzinfo=" ++ o.form])

/-- The constructor form of a date. -/
def Date.form (d : Date) : String :=
  "datetime.date(" ++ ", ".intercalate d.arguments ++ ")"

/-- The constructor form of a time of day. -/
def Time.form (t : Time) : String :=
  "datetime.time(" ++ ", ".intercalate t.arguments ++ ")"

/-- The constructor form of a moment. -/
def Moment.form (m : Moment) : String :=
  "datetime.datetime(" ++ ", ".intercalate (m.date.arguments ++ m.time.arguments) ++ ")"

end QueryTemplate
