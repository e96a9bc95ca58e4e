import RemoteInterpreter.Shell.Calendar
import RemoteInterpreter.Shell.Tool.Intake

/-!
# Dates

The tool that tells the time, or a time that is described, in a format of one's own.
-/

namespace RemoteInterpreter.Shell.Tool

namespace Dates

open Calendar

/-- A time to be told. -/
structure Told where
  seconds : Int
  nanoseconds : Nat
  /-- How many seconds the place is ahead, and the name of its time. -/
  offset : Int
  zone : Text

def Told.moment (t : Told) : Moment := momentOf (t.seconds + t.offset)

/-! Formats -/

/-- How a part is filled up: with what, and to what width. -/
structure Padding where
  fill : Option Char
  width : Nat

def padded (fill : Char) (width : Nat) (digits : Text) : Text :=
  List.replicate (width - digits.length) fill ++ digits

/-- A number with its usual padding, unless another one is wished. -/
def numeric (p : Padding) (isBare : Bool) (fill : Char) (width : Nat) (n : Int) : Text :=
  let digits := Numeral.write n.natAbs
  let sign : Text := if n < 0 then ['-'] else []
  let fill := p.fill.getD fill
  if isBare then sign ++ padded fill p.width digits
  else if fill = ' ' then padded ' ' (max width p.width) (sign ++ digits)
  else sign ++ padded '0' (max width p.width - sign.length) digits

/-- The distance from the zero of all places. -/
def offsetText (colons : Nat) (offset : Int) : Text :=
  let n := offset.natAbs
  let two (n : Nat) : Text := padded '0' 2 (Numeral.write n)
  let sign := if offset < 0 then '-' else '+'
  let (h, m, s) := (two (n / 3600), two (n / 60 % 60), two (n % 60))
  sign :: (match colons with
    | 0 => h ++ m
    | 1 => h ++ ':' :: m
    | 2 => h ++ ':' :: m ++ ':' :: s
    | _ => if n % 60 ≠ 0 then h ++ ':' :: m ++ ':' :: s
      else if n / 60 % 60 ≠ 0 then h ++ ':' :: m else h)

def nameIn (names : List String) (n : Nat) : Text := (names.getD n "").toList

/-- Formats that are shorthands for others. -/
def shorthand? (c : Char) : Option String :=
  match c with
  | 'c' => some "%a %b %e %H:%M:%S %Y"
  | 'D' | 'x' => some "%m/%d/%y"
  | 'F' => some "%Y-%m-%d"
  | 'r' => some "%I:%M:%S %p"
  | 'R' => some "%H:%M"
  | 'T' | 'X' => some "%H:%M:%S"
  | _ => none

/-- A format with a time in it. -/
def filled : Nat → Told → Text → Text
  | 0, _, _ | _ + 1, _, [] => []
  | fuel + 1, told, '%' :: t =>
    let flags := t.takeWhile fun c => "-_0^#+".toList.contains c
    let rest := t.drop flags.length
    let digits := rest.takeWhile Char.isDigit
    let rest := rest.drop digits.length
    let rest := match rest with
      | c :: more => if c = 'E' || c = 'O' then more else rest
      | [] => []
    let colons := rest.takeWhile (· = ':')
    let fill : Option Char := flags.foldl (fun f c =>
      if c = '_' then some ' ' else if c = '0' || c = '+' then some '0' else f) none
    let isBare := flags.contains '-'
    let p : Padding := ⟨fill, Numeral.value digits⟩
    let now := told.moment
    let number (fill : Char) (width : Nat) (n : Int) : Text := numeric p isBare fill width n
    let word (t : Text) : Text :=
      let t := if flags.contains '^' then t.map Char.toUpper else t
      padded (fill.getD ' ') p.width t
    let hour := (now.hour + 11) % 12 + 1
    match rest.drop colons.length with
    | [] => '%' :: t
    | c :: behind =>
      let part? : Option Text := match c with
        | '%' => some (word ['%'])
        | 'a' => some (word ((nameIn weekdays (weekday now)).take 3))
        | 'A' => some (word (nameIn weekdays (weekday now)))
        | 'b' | 'h' => some (word ((nameIn months (now.month - 1)).take 3))
        | 'B' => some (word (nameIn months (now.month - 1)))
        | 'C' => some (number '0' 2 (now.year / 100))
        | 'd' => some (number '0' 2 now.day)
        | 'e' => some (number ' ' 2 now.day)
        | 'g' => some (number '0' 2 ((isoWeek now).1 % 100))
        | 'G' => some (number '0' 4 (isoWeek now).1)
        | 'H' => some (number '0' 2 now.hour)
        | 'I' => some (number '0' 2 hour)
        | 'j' => some (number '0' 3 (yearday now + 1 : Nat))
        | 'k' => some (number ' ' 2 now.hour)
        | 'l' => some (number ' ' 2 hour)
        | 'm' => some (number '0' 2 now.month)
        | 'M' => some (number '0' 2 now.minute)
        | 'n' => some ['\n']
        | 'N' =>
          let all := padded '0' 9 (Numeral.write told.nanoseconds)
          some (if isBare then (all.reverse.dropWhile (· = '0')).reverse
            else if p.width = 0 then all else (all.take p.width) ++
              List.replicate (p.width - 9) '0')
        | 'p' =>
          let t := (if now.hour < 12 then "AM" else "PM").toList
          some (word (if flags.contains '#' then t.map Char.toLower else t))
        | 'P' => some (word (if now.hour < 12 then "am" else "pm").toList)
        | 'q' => some (number '0' 1 ((now.month - 1) / 3 + 1 : Nat))
        | 's' => some (number '0' 1 told.seconds)
        | 'S' => some (number '0' 2 now.second)
        | 't' => some ['\t']
        | 'u' => some (number '0' 1 ((weekday now + 6) % 7 + 1 : Nat))
        | 'U' => some (number '0' 2 ((yearday now + 7 - weekday now) / 7 : Nat))
        | 'V' => some (number '0' 2 (isoWeek now).2)
        | 'w' => some (number '0' 1 (weekday now))
        | 'W' => some (number '0' 2 ((yearday now + 7 - (weekday now + 6) % 7) / 7 : Nat))
        | 'y' => some (number '0' 2 (now.year % 100))
        | 'Y' => some (number '0' (if isBare then 1 else 4) now.year)
        | 'z' => some (offsetText colons.length told.offset)
        | 'Z' => some (word (if flags.contains '#' then told.zone.map Char.toLower else told.zone))
        | c => (shorthand? c).map fun f => word (filled fuel told f.toList)
      match part? with
      | some u =>
        let u := if flags.contains '#' && (c = 'a' || c = 'A' || c = 'b' || c = 'B' || c = 'h') then
          u.map Char.toUpper else u
        u ++ filled fuel told behind
      | none => '%' :: filled fuel told t
  | fuel + 1, told, c :: t => c :: filled fuel told t

/-! Descriptions -/

/-- What is told of a time. -/
structure Described where
  date : Option (Int × Nat × Nat)
  time : Option (Nat × Nat × Nat)
  nanoseconds : Nat
  offset : Option Int
  stamp : Option (Int × Nat)
  /-- A day of the week, and how many of them lie between. -/
  weekday : Option (Int × Nat)
  years : Int
  months : Int
  days : Int
  seconds : Int

def Described.nothing : Described := ⟨none, none, 0, none, none, none, 0, 0, 0, 0⟩

inductive Token where
  | number (digits : Text)
  | word (t : Text)
  | sign (c : Char)

def tokens : Nat → Text → List Token
  | 0, _ | _ + 1, [] => []
  | fuel + 1, c :: t =>
    if isBlank c then tokens fuel t
    else if c.isDigit then
      let digits := (c :: t).takeWhile Char.isDigit
      .number digits :: tokens fuel ((c :: t).drop digits.length)
    else if c.isAlpha then
      let word := (c :: t).takeWhile fun c => c.isAlpha || c == '.'
      .word (word.map Char.toLower) :: tokens fuel ((c :: t).drop word.length)
    else if c = '(' then tokens fuel ((t.dropWhile (· ≠ ')')).drop 1)
    else .sign c :: tokens fuel t

/-- The number of a name among others, which may be cut to three letters. -/
def named? (names : List String) (t : Text) : Option Nat :=
  let t := if t.getLast? = some '.' then t.dropLast else t
  names.findIdx? fun n =>
    let n := n.toList.map Char.toLower
    n = t || (n.take 3 = t) || (t = "sept".toList && n = "september".toList)

/-- A unit: years, months, days and seconds of it. -/
def unit? (t : Text) : Option (Int × Int × Int × Int) :=
  let t := if t.getLast? = some 's' && 3 < t.length then t.dropLast else t
  match Text.str t with
  | "year" => some (1, 0, 0, 0)
  | "month" => some (0, 1, 0, 0)
  | "fortnight" => some (0, 0, 14, 0)
  | "week" => some (0, 0, 7, 0)
  | "day" => some (0, 0, 1, 0)
  | "hour" => some (0, 0, 0, 3600)
  | "minute" | "min" => some (0, 0, 0, 60)
  | "second" | "sec" => some (0, 0, 0, 1)
  | _ => none

def Described.plus (n : Int) (u : Int × Int × Int × Int) (d : Described) : Described :=
  { d with
    years := d.years + n * u.1, months := d.months + n * u.2.1
    days := d.days + n * u.2.2.1, seconds := d.seconds + n * u.2.2.2 }

def validDate (y : Int) (m d : Nat) : Bool := 1 ≤ m && m ≤ 12 && 1 ≤ d && d ≤ monthLength y m

/-- A year that may be told by its last two digits. -/
def fullYear (digits : Text) : Int :=
  let n := Numeral.value digits
  if 2 < digits.length then n else if n < 69 then 2000 + n else 1900 + n

def withDate (y : Int) (m d : Nat) (x : Described) : Option Described :=
  if validDate y m d && x.date.isNone then some { x with date := some (y, m, d) } else none

def withTime (h m s n : Nat) (x : Described) : Option Described :=
  if h < 24 && m < 60 && s < 61 && x.time.isNone then
    some { x with time := some (h, m, s), nanoseconds := n }
  else none

def nanosecondsOf (digits : Text) : Nat :=
  Numeral.value ((digits ++ List.replicate (9 - digits.length) '0').take 9)

/-- An hour before or after noon. -/
def halfDay? (h : Nat) (word : Text) : Option Nat :=
  if h < 1 || 12 < h then none
  else
    match Text.str (word.filter (· ≠ '.')) with
    | "am" => some (h % 12)
    | "pm" => some (h % 12 + 12)
    | _ => none

/-- A distance from the zero of all places. -/
def zoneOffset (isBehind : Bool) (digits : Text) (minutes : Option Text) : Int :=
  let n := Numeral.value digits
  let (h, m) := match minutes with
    | some t => (n, Numeral.value t)
    | none => if digits.length ≤ 2 then (n, 0) else (n / 100, n % 100)
  let s : Int := h * 3600 + m * 60
  if isBehind then -s else s

/-- Reads a description. -/
def describe (today : Int × Nat × Nat) : Nat → List Token → Described → Option Described
  | 0, _, _ => none
  | _ + 1, [], x => some x
  | fuel + 1, ts, x =>
    let goOn (rest : List Token) (x : Option Described) : Option Described :=
      x.bind (describe today fuel rest)
    /- A zone behind a time. -/
    let zoned (rest : List Token) (x : Option Described) : Option Described :=
      match rest with
      | .sign '+' :: .number h :: .sign ':' :: .number m :: rest =>
        goOn rest (x.map fun x => { x with offset := some (zoneOffset false h (some m)) })
      | .sign '-' :: .number h :: .sign ':' :: .number m :: rest =>
        goOn rest (x.map fun x => { x with offset := some (zoneOffset true h (some m)) })
      | .sign '+' :: .number h :: rest =>
        match rest with
        | .word w :: _ =>
          if (unit? w).isSome then goOn (.sign '+' :: .number h :: rest) x
          else goOn rest (x.map fun x => { x with offset := some (zoneOffset false h none) })
        | rest => goOn rest (x.map fun x => { x with offset := some (zoneOffset false h none) })
      | .sign '-' :: .number h :: rest =>
        match rest with
        | .word w :: _ =>
          if (unit? w).isSome then goOn (.sign '-' :: .number h :: rest) x
          else goOn rest (x.map fun x => { x with offset := some (zoneOffset true h none) })
        | rest => goOn rest (x.map fun x => { x with offset := some (zoneOffset true h none) })
      | rest => goOn rest x
    let relative (n : Int) (w : Text) (rest : List Token) : Option Described :=
      match unit? w with
      | none => none
      | some u =>
        match rest with
        | .word ago :: more =>
          if ago = "ago".toList then goOn more (some (x.plus (-n) u))
          else goOn rest (some (x.plus n u))
        | rest => goOn rest (some (x.plus n u))
    match ts with
    | .sign '@' :: .sign '-' :: .number n :: rest =>
      goOn rest (some { x with stamp := some (-(Numeral.value n), 0) })
    | .sign '@' :: .number n :: .sign '.' :: .number f :: rest =>
      goOn rest (some { x with stamp := some (Numeral.value n, nanosecondsOf f) })
    | .sign '@' :: .number n :: rest =>
      goOn rest (some { x with stamp := some (Numeral.value n, 0) })
    | .sign ',' :: rest => goOn rest (some x)
    | .number y :: .sign '-' :: .number m :: .sign '-' :: .number d :: rest =>
      let rest := match rest with
        | .word ['t'] :: more => more
        | rest => rest
      goOn rest (withDate (fullYear y) (Numeral.value m) (Numeral.value d) x)
    | .number d :: .sign '-' :: .word m :: .sign '-' :: .number y :: rest =>
      match named? months m with
      | some k => goOn rest (withDate (fullYear y) (k + 1) (Numeral.value d) x)
      | none => none
    | .number a :: .sign '/' :: .number b :: .sign '/' :: .number c :: rest =>
      if 3 < a.length then
        goOn rest (withDate (Numeral.value a) (Numeral.value b) (Numeral.value c) x)
      else goOn rest (withDate (fullYear c) (Numeral.value a) (Numeral.value b) x)
    | .number a :: .sign '/' :: .number b :: rest =>
      goOn rest (withDate today.1 (Numeral.value a) (Numeral.value b) x)
    | .number h :: .sign ':' :: .number m :: .sign ':' :: .number s :: .sign '.' :: .number f ::
        rest =>
      zoned rest (withTime (Numeral.value h) (Numeral.value m) (Numeral.value s)
        (nanosecondsOf f) x)
    | .number h :: .sign ':' :: .number m :: .sign ':' :: .number s :: .word w :: rest =>
      match halfDay? (Numeral.value h) w with
      | some h => goOn rest (withTime h (Numeral.value m) (Numeral.value s) 0 x)
      | none =>
        goOn (.word w :: rest)
          (withTime (Numeral.value h) (Numeral.value m) (Numeral.value s) 0 x)
    | .number h :: .sign ':' :: .number m :: .sign ':' :: .number s :: rest =>
      zoned rest (withTime (Numeral.value h) (Numeral.value m) (Numeral.value s) 0 x)
    | .number h :: .sign ':' :: .number m :: .word w :: rest =>
      match halfDay? (Numeral.value h) w with
      | some h => goOn rest (withTime h (Numeral.value m) 0 0 x)
      | none => goOn (.word w :: rest) (withTime (Numeral.value h) (Numeral.value m) 0 0 x)
    | .number h :: .sign ':' :: .number m :: rest =>
      zoned rest (withTime (Numeral.value h) (Numeral.value m) 0 0 x)
    | .sign '+' :: .number n :: .word w :: rest => relative (Numeral.value n) w rest
    | .sign '-' :: .number n :: .word w :: rest => relative (-(Numeral.value n : Int)) w rest
    | .number n :: .word w :: rest =>
      match named? months w with
      | some k =>
        match rest with
        | .number y :: more =>
          match more with
          | .sign ':' :: _ => goOn rest (withDate today.1 (k + 1) (Numeral.value n) x)
          | more => goOn more (withDate (fullYear y) (k + 1) (Numeral.value n) x)
        | rest => goOn rest (withDate today.1 (k + 1) (Numeral.value n) x)
      | none =>
        match halfDay? (Numeral.value n) w with
        | some h => goOn rest (withTime h 0 0 0 x)
        | none => relative (Numeral.value n) w rest
    | .number n :: rest =>
      let k := Numeral.value n
      if x.date.isSome && x.time.isNone && n.length ≤ 2 then goOn rest (withTime k 0 0 0 x)
      else if x.date.isSome && x.time.isNone && n.length ≤ 4 then
        goOn rest (withTime (k / 100) (k % 100) 0 0 x)
      else if 4 < n.length then
        goOn rest (withDate (k / 10000 : Nat) (k / 100 % 100) (k % 100) x)
      else if n.length ≤ 2 then goOn rest (withTime k 0 0 0 x)
      else goOn rest (withTime (k / 100) (k % 100) 0 0 x)
    | .word w :: rest =>
      match named? months w with
      | some k =>
        match rest with
        | .number d :: .sign ',' :: .number y :: rest =>
          goOn rest (withDate (fullYear y) (k + 1) (Numeral.value d) x)
        | .number d :: .number y :: rest =>
          match rest with
          | .sign ':' :: _ =>
            goOn (.number y :: rest) (withDate today.1 (k + 1) (Numeral.value d) x)
          | rest => goOn rest (withDate (fullYear y) (k + 1) (Numeral.value d) x)
        | .number d :: rest => goOn rest (withDate today.1 (k + 1) (Numeral.value d) x)
        | _ => none
      | none =>
        match named? weekdays w with
        | some k => goOn rest (some { x with weekday := some (0, k) })
        | none =>
          match w.str, rest with
          | "now", rest | "today", rest => goOn rest (some x)
          | "tomorrow", rest => goOn rest (some (x.plus 1 (0, 0, 1, 0)))
          | "yesterday", rest => goOn rest (some (x.plus (-1) (0, 0, 1, 0)))
          | "utc", rest | "gmt", rest | "z", rest => goOn rest (some { x with offset := some 0 })
          | "noon", rest => goOn rest (withTime 12 0 0 0 x)
          | "midnight", rest => goOn rest (withTime 0 0 0 0 x)
          | "next", .word u :: rest =>
            match named? weekdays u with
            | some k => goOn rest (some { x with weekday := some (1, k) })
            | none => relative 1 u rest
          | "last", .word u :: rest =>
            match named? weekdays u with
            | some k => goOn rest (some { x with weekday := some (-1, k) })
            | none => relative (-1) u rest
          | "this", .word u :: rest => relative 0 u rest
          | _, rest => relative 1 w rest
    | _ => none

/-- The time that is described, seen from another one. -/
def Described.told (now : Told) (x : Described) : Int × Nat :=
  match x.stamp with
  | some (s, n) =>
    let t := momentOf s
    let months := (t.year + x.years) * 12 + (t.month - 1 : Nat) + x.months
    (dayNumber (months / 12) (months % 12 + 1) (t.day + x.days) * 86400 + s % 86400 + x.seconds, n)
  | none =>
    let here := now.moment
    let isDay := x.date.isSome || x.weekday.isSome
    let (y, m, d) := x.date.getD (here.year, here.month, here.day)
    let (h, min, s) := x.time.getD (if isDay then (0, 0, 0) else (here.hour, here.minute,
      here.second))
    let nanoseconds := if x.time.isSome || isDay then x.nanoseconds else now.nanoseconds
    let months := (y + x.years) * 12 + (m - 1 : Nat) + x.months
    let day := dayNumber (months / 12) (months % 12 + 1) (d + x.days)
    let day := match x.weekday with
      | some (n, k) =>
        if x.date.isSome then day
        else
          let today : Int := (day + 4) % 7
          let ahead := (k - today) % 7
          let weeks : Int := if 0 < n && ahead ≠ 0 then n - 1 else n
          day + ahead + 7 * weeks
      | none => day
    let offset := x.offset.getD now.offset
    (day * 86400 + h * 3600 + min * 60 + s - offset + x.seconds, nanoseconds)

/-- When the clocks begin. -/
def beginning : Int := 1767225600

end Dates

open Dates

/-- The time now. -/
def timeNow : Act Told := do
  let clock := (← strand).clock
  return ⟨beginning + (clock / 10 ^ 9 : Nat), clock % 10 ^ 9, 0, "UTC".toList⟩

def date (called : Text) (args : List Text) : Act Unit := do
  let all := known [('u', "utc"), ('u', "universal"), ('u', "uct"), ('R', "rfc-email"),
      ('R', "rfc-2822"), ('β', "debug")]
    [('d', "date"), ('f', "file"), ('r', "reference"), ('s', "set"), ('α', "rfc-3339")] ++
    [⟨'I', "iso-8601", .maybe⟩]
  let (os, words) ← optionsOr 1 called all true args
  let bad (t : Text) : Act Unit := do
    lack called ("invalid date ".toList ++ (← quotedFully t)) 1
  let precise (t : Text) : Option String :=
    match t.str with
    | "" | "date" => some "%Y-%m-%d"
    | "hours" => some "%Y-%m-%dT%H%:z"
    | "minutes" => some "%Y-%m-%dT%H:%M%:z"
    | "seconds" => some "%Y-%m-%dT%H:%M:%S%:z"
    | "ns" => some "%Y-%m-%dT%H:%M:%S,%N%:z"
    | _ => none
  let spaced (t : Text) : Option String :=
    match t.str with
    | "date" => some "%Y-%m-%d"
    | "seconds" => some "%Y-%m-%d %H:%M:%S%:z"
    | "ns" => some "%Y-%m-%d %H:%M:%S.%N%:z"
    | _ => none
  let format : Text ← match words with
    | [] =>
      match valueOf? os 'I', valueOf? os 'α' with
      | some t, _ =>
        match precise t with
        | some f => pure f.toList
        | none => misuse called ("invalid argument ".toList ++ (← quoted t) ++
            " for '--iso-8601'".toList) 1
      | none, some t =>
        match spaced t with
        | some f => pure f.toList
        | none => misuse called ("invalid argument ".toList ++ (← quoted t) ++
            " for '--rfc-3339'".toList) 1
      | none, none =>
        pure (if has os 'R' then "%a, %d %b %Y %H:%M:%S %z" else "%a %b %e %H:%M:%S %Z %Y").toList
    | ('+' :: f) :: [] => pure f
    | _ :: extra :: _ => misuse called ("extra operand ".toList ++ (← quoted extra)) 1
    | t :: [] => do
      bad t
      quit 1
  let now ← timeNow
  let say (seconds : Int) (nanoseconds : Nat) : Act Unit := do
    let told : Told := { now with seconds := seconds, nanoseconds := nanoseconds }
    putLine (filled (format.length + 100) told format)
  let describe_ (t : Text) : Act Unit := do
    let here := now.moment
    match describe (here.year, here.month, here.day) (2 * t.length + 4)
        (tokens (t.length + 1) t) Described.nothing with
    | some x =>
      let x := if t.all isBlank then { x with time := some (0, 0, 0) } else x
      let (s, n) := x.told now
      say s n
    | none => bad t
  match valueOf? os 'd', valueOf? os 'f', valueOf? os 'r' with
  | some t, _, _ => describe_ t
  | none, some path, _ =>
    let text ← allOf called [path]
    for t in piecesOf '\n' text do
      describe_ t
  | none, none, some path =>
    match ← locate path with
    | .ok (_, e) => say (beginning + (e.stamp / 10 ^ 9 : Nat)) (e.stamp % 10 ^ 9)
    | .error e => die called ((← quotedName path) ++ ": ".toList ++ e.message.toList) 1
  | none, none, none => say now.seconds now.nanoseconds

end RemoteInterpreter.Shell.Tool
