import RemoteInterpreter.Shell.Number

/-!
# Days and hours

Instants as seconds since the beginning of the year 1970, and the day and the hour that they
are. Years have months of their own length, every fourth one a day more, but not those of a
full century unless it is the fourth.
-/

namespace RemoteInterpreter.Shell

/-- A day and a time. -/
structure Moment where
  year : Int
  /-- From one on. -/
  month : Nat
  day : Nat
  hour : Nat
  minute : Nat
  second : Nat
  deriving DecidableEq, Repr

namespace Calendar

def isLeap (y : Int) : Bool := y % 4 = 0 && (y % 100 ≠ 0 || y % 400 = 0)

def monthLength (y : Int) (m : Nat) : Nat :=
  if m = 2 then if isLeap y then 29 else 28
  else if m = 4 || m = 6 || m = 9 || m = 11 then 30
  else 31

/-- Days from the first of March of the year zero to a day. The year begins with March, so that
the day that is added comes last. -/
def daysTo (y : Int) (m d : Int) : Int :=
  let y := if m ≤ 2 then y - 1 else y
  let m := (m + 9) % 12
  365 * y + y / 4 - y / 100 + y / 400 + (153 * m + 2) / 5 + d - 1

/-- Days since the beginning of 1970. -/
def dayNumber (y : Int) (m d : Int) : Int := daysTo y m d - daysTo 1970 1 1

/-- The year, the month and the day of a day's number. -/
def dateOf (n : Int) : Int × Nat × Nat :=
  let n := n + daysTo 1970 1 1
  let era := n / 146097
  let day := (n % 146097).toNat
  let year := (day - day / 1460 + day / 36524 - day / 146096) / 365
  let rest := day - (365 * year + year / 4 - year / 100)
  let m := (5 * rest + 2) / 153
  let month := if m < 10 then m + 3 else m - 9
  (era * 400 + year + (if month ≤ 2 then 1 else 0), month, rest - (153 * m + 2) / 5 + 1)

/-- The moment of a number of seconds. -/
def momentOf (seconds : Int) : Moment :=
  let (y, m, d) := dateOf (seconds / 86400)
  let rest := (seconds % 86400).toNat
  ⟨y, m, d, rest / 3600, rest / 60 % 60, rest % 60⟩

def secondsOf (t : Moment) : Int :=
  dayNumber t.year t.month t.day * 86400 + t.hour * 3600 + t.minute * 60 + t.second

/-- The day of the week, counted from Sunday. -/
def weekday (t : Moment) : Nat := ((dayNumber t.year t.month t.day + 4) % 7).toNat

/-- The day of the year, counted from zero. -/
def yearday (t : Moment) : Nat :=
  (dayNumber t.year t.month t.day - dayNumber t.year 1 1).toNat

def weekdays : List String :=
  ["Sunday", "Monday", "Tuesday", "Wednesday", "Thursday", "Friday", "Saturday"]

def months : List String :=
  ["January", "February", "March", "April", "May", "June", "July", "August", "September",
   "October", "November", "December"]

/-- The week of the year to which most of its days belong, and that year. -/
def isoWeek (t : Moment) : Int × Nat :=
  let thursday := dayNumber t.year t.month t.day + 3 - (weekday t + 6) % 7
  let (y, _, _) := dateOf thursday
  (y, ((thursday - dayNumber y 1 1) / 7 + 1).toNat)

example : secondsOf ⟨2000, 2, 29, 12, 0, 0⟩ = 951825600 := by decide

example : momentOf 951825600 = ⟨2000, 2, 29, 12, 0, 0⟩ := by decide

end Calendar

end RemoteInterpreter.Shell
