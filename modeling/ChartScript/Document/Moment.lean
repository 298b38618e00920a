/-!
# Dates and times

A moment of a configuration document is a date, a time of day, or both with an optional offset from
universal time.  `Moment.text` writes it in the usual notation, `Moment.longText` by the names of
its parts, as it appears inside lists and tables.
-/

set_option autoImplicit false

namespace ChartScript

/-- A day of the calendar. -/
structure Date where
  year : Nat
  month : Nat
  day : Nat
  deriving DecidableEq, Repr

/-- A time of day. -/
structure TimeOfDay where
  hour : Nat
  minute : Nat
  second : Nat
  microsecond : Nat
  deriving DecidableEq, Repr

/-- A date, a time, or both with an optional offset from universal time in minutes. -/
inductive Moment where
  | date (date : Date)
  | time (time : TimeOfDay)
  | dateTime (date : Date) (time : TimeOfDay) (offset : Option Int)
  deriving DecidableEq, Repr

namespace Date

/-- Whether a year of the calendar has 366 days. -/
def isLeap (year : Nat) : Bool := year % 4 == 0 && (year % 100 != 0 || year % 400 == 0)

/-- The number of days of a month. -/
def daysIn (year month : Nat) : Nat :=
  if month = 2 then (if isLeap year then 29 else 28)
  else if month = 4 ∨ month = 6 ∨ month = 9 ∨ month = 11 then 30
  else 31

/-- Whether the day exists. -/
def isValid (d : Date) : Bool :=
  1 ≤ d.year && 1 ≤ d.month && d.month ≤ 12 && 1 ≤ d.day && d.day ≤ daysIn d.year d.month

end Date

namespace Moment

/-- A number with zeros in front up to `width` digits. -/
def padded (width n : Nat) : String :=
  let digits := Nat.toDigits 10 n
  String.ofList (List.replicate (width - digits.length) '0' ++ digits)

/-- A date in the usual notation. -/
def dateText (d : Date) : String :=
  padded 4 d.year ++ "-" ++ padded 2 d.month ++ "-" ++ padded 2 d.day

/-- A time in the usual notation; a fraction of a second is written only when there is one. -/
def timeText (t : TimeOfDay) : String :=
  padded 2 t.hour ++ ":" ++ padded 2 t.minute ++ ":" ++ padded 2 t.second ++
    (if t.microsecond = 0 then "" else "." ++ padded 6 t.microsecond)

/-- An offset in the usual notation. -/
def offsetText (offset : Int) : String :=
  (if offset < 0 then "-" else "+") ++ padded 2 (offset.natAbs / 60) ++ ":" ++
    padded 2 (offset.natAbs % 60)

/-- A moment in the usual notation. -/
def text : Moment → String
  | .date d => dateText d
  | .time t => timeText t
  | .dateTime d t offset => dateText d ++ " " ++ timeText t ++ (offset.map offsetText).getD ""

/-- The parts of a time; the seconds and the fraction are left out when they and all after them
are zero. -/
def timeParts (t : TimeOfDay) : List Nat :=
  [t.hour, t.minute] ++
  (if t.second = 0 ∧ t.microsecond = 0 then [] else [t.second]) ++
  (if t.microsecond = 0 then [] else [t.microsecond])

/-- An offset by the names of its parts: whole days, rounded down, and the seconds beyond them. -/
def offsetLongText (offset : Int) : String :=
  if offset = 0 then "datetime.timezone.utc"
  else
    let days := offset.fdiv 1440
    let seconds := (offset - days * 1440) * 60
    let parts := (if days = 0 then [] else ["days=" ++ toString days]) ++
      (if seconds = 0 then [] else ["seconds=" ++ toString seconds])
    "datetime.timezone(datetime.timedelta(" ++ ", ".intercalate parts ++ "))"

/-- A row of arguments. -/
def arguments (numbers : List Nat) : String := ", ".intercalate (numbers.map toString)

/-- A moment by the names of its parts. -/
def longText : Moment → String
  | .date d => "datetime.date(" ++ arguments [d.year, d.month, d.day] ++ ")"
  | .time t => "datetime.time(" ++ arguments (timeParts t) ++ ")"
  | .dateTime d t offset =>
    "datetime.datetime(" ++ arguments ([d.year, d.month, d.day] ++ timeParts t) ++
      (offset.map fun o => ", tzinfo=" ++ offsetLongText o).getD "" ++ ")"

end Moment
end ChartScript
