/-! # Instants

An instant counts milliseconds from the start of 1970, without leap seconds. Its calendar form
follows the proleptic Gregorian calendar in universal time.
-/

namespace EditGuard.Time

structure Instant where
  milliseconds : Int
  deriving DecidableEq, Repr

/-- A day of the calendar; years before the first are zero and negative. -/
structure Day where
  year : Int
  month : Nat
  day : Nat
  deriving DecidableEq, Repr

/-- The day that is so many days after 1 January 1970. Years run from March, so that the leap day
is the last day of a year, and eras of 400 years all have 146097 days. -/
def Day.ofEpochDays (days : Int) : Day :=
  let shifted := days + 719468
  let era := shifted.fdiv 146097
  let dayOfEra := (shifted - era * 146097).toNat
  let yearOfEra :=
    (dayOfEra - dayOfEra / 1460 + dayOfEra / 36524 - dayOfEra / 146096) / 365
  let dayOfYear := dayOfEra - (365 * yearOfEra + yearOfEra / 4 - yearOfEra / 100)
  let monthFromMarch := (5 * dayOfYear + 2) / 153
  let day := dayOfYear - (153 * monthFromMarch + 2) / 5 + 1
  let month := if monthFromMarch < 10 then monthFromMarch + 3 else monthFromMarch - 9
  let year := (yearOfEra : Int) + era * 400
  { year := if month ≤ 2 then year + 1 else year, month, day }

def padded (width n : Nat) : String :=
  let digits := (Nat.toDigits 10 n)
  String.ofList (List.replicate (width - digits.length) '0' ++ digits)

/-- Four digits; a year outside 0 to 9999 carries its sign. -/
def yearText (year : Int) : String :=
  if year < 0 then "-" ++ padded 4 year.natAbs
  else if year ≤ 9999 then padded 4 year.natAbs
  else "+" ++ padded 4 year.natAbs

namespace Instant

def render (i : Instant) (fraction : Nat → String) : String :=
  let days := i.milliseconds.fdiv 86400000
  let rest := (i.milliseconds - days * 86400000).toNat
  let d := Day.ofEpochDays days
  let second := rest / 1000
  yearText d.year ++ "-" ++ padded 2 d.month ++ "-" ++ padded 2 d.day ++ "T" ++
    padded 2 (second / 3600) ++ ":" ++ padded 2 (second / 60 % 60) ++ ":" ++
    padded 2 (second % 60) ++ "." ++ fraction (rest % 1000) ++ "Z"

def stamp (i : Instant) : String := i.render (padded 3)

/-- The form with microseconds, as log lines carry it. -/
def logStamp (i : Instant) : String := i.render fun ms => padded 6 (ms * 1000)

end Instant

end EditGuard.Time
