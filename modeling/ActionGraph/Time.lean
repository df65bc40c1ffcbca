/-!
# Times of the calendar

A time is a number of milliseconds since the beginning of 1970 in universal
time.  Its text has the date and the time of day, and the milliseconds if
there are any.
-/

namespace ActionGraph.Time

structure Date where
  year : Nat
  month : Nat
  day : Nat
deriving DecidableEq, Repr

/--
The date of a day that is counted from the beginning of 1970.  Years are
counted from March, so that the leap day is the last of its year, within
cycles of four hundred years.
-/
def Date.ofDays (days : Nat) : Date :=
  let shifted := days + 719468
  let cycle := shifted / 146097
  let dayOfCycle := shifted % 146097
  let yearOfCycle :=
    (dayOfCycle - dayOfCycle / 1460 + dayOfCycle / 36524 - dayOfCycle / 146096) / 365
  let dayOfYear := dayOfCycle - (365 * yearOfCycle + yearOfCycle / 4 - yearOfCycle / 100)
  let fromMarch := (5 * dayOfYear + 2) / 153
  let day := dayOfYear - (153 * fromMarch + 2) / 5 + 1
  let month := if fromMarch < 10 then fromMarch + 3 else fromMarch - 9
  ⟨yearOfCycle + 400 * cycle + (if month ≤ 2 then 1 else 0), month, day⟩

def padded (width n : Nat) : String :=
  let digits := toString n
  String.ofList (List.replicate (width - digits.length) '0') ++ digits

def stamp (milliseconds : Nat) : String :=
  let seconds := milliseconds / 1000
  let date := Date.ofDays (seconds / 86400)
  let rest := milliseconds % 1000
  padded 4 date.year ++ "-" ++ padded 2 date.month ++ "-" ++ padded 2 date.day ++ "T"
    ++ padded 2 (seconds / 3600 % 24) ++ ":" ++ padded 2 (seconds / 60 % 60) ++ ":"
    ++ padded 2 (seconds % 60) ++ (if rest = 0 then "" else "." ++ padded 3 rest)

/-- The text of a time with the letter for universal time. -/
def short (milliseconds : Nat) : String :=
  stamp milliseconds ++ "Z"

/-- The text of a time with the offset of universal time. -/
def long (milliseconds : Nat) : String :=
  stamp milliseconds ++ "+00:00"

example : Date.ofDays 0 = ⟨1970, 1, 1⟩ := by decide

example : Date.ofDays 11016 = ⟨2000, 2, 29⟩ := by decide

end ActionGraph.Time
