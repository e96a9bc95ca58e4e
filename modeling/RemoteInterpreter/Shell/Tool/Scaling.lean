import RemoteInterpreter.Binary64
import RemoteInterpreter.Shell.Tool.Intake

/-!
# Numbers for people

A tool that writes numbers with letters for powers, and reads such numbers.
-/

namespace RemoteInterpreter.Shell.Tool

namespace Scaling

/-- A number that is not whole as a ratio. -/
structure Amount where
  negative : Bool
  num : Nat
  den : Nat

inductive Rounding where
  | up | down | fromZero | towardsZero | nearest
  deriving DecidableEq

inductive Scale where
  | none | si | iec | iecI | auto
  deriving DecidableEq

def scale? (t : Text) : Option Scale :=
  match t.str with
  | "none" => some .none
  | "si" => some .si
  | "iec" => some .iec
  | "iec-i" => some .iecI
  | "auto" => some .auto
  | _ => none

def letters : Text := "KMGTPEZYRQ".toList

def Scale.base (s : Scale) : Nat := if s = .si then 1000 else 1024

/-- A ratio as a whole number. -/
def rounded (how : Rounding) (x : Amount) : Nat :=
  let q := x.num / x.den
  let isWhole := x.num % x.den = 0
  let away := if isWhole then q else q + 1
  match how with
  | .fromZero => away
  | .towardsZero => q
  | .up => if x.negative then q else away
  | .down => if x.negative then away else q
  | .nearest => (2 * x.num + x.den) / (2 * x.den)

/-- What is read of a number, and what stands behind it. -/
structure Reading where
  amount : Amount
  places : Nat
  behind : Text

/-- Why a number is not converted. -/
inductive Objection where
  | notNumber
  | badSuffix
  | scaled
  | lacksI
  | trailing (rest : Text)
  | tooLong
  | tooLarge (x : Amount) (places : Nat)

/-- How many digits a number has before its point that is read. -/
def mostDigitsRead : Nat := 33

/-- How many digits are written of a number that is not scaled. -/
def mostDigits : Nat := 18

/-- The number of digits before the point, less one. -/
def magnitude (x : Amount) : Nat := (Numeral.write (x.num / x.den)).length - 1

def Objection.message (o : Objection) (t : Text) : Act Text := do
  let q ← quoted t
  match o with
  | .notNumber => return "invalid number: ".toList ++ q
  | .tooLong => return "value too large to be converted: ".toList ++ q
  | .badSuffix => return "invalid suffix in input: ".toList ++ q
  | .scaled => return "rejecting suffix in input: ".toList ++ q ++ " (consider using --from)".toList
  | .lacksI => return "missing 'i' suffix in input: ".toList ++ q ++ " (e.g Ki/Mi/Gi)".toList
  | .trailing rest =>
    let r ← quoted rest
    return "invalid suffix in input ".toList ++ q ++ ": ".toList ++ r
  | .tooLarge x places =>
    let e := magnitude x
    /- Six digits, and no noughts at their end. -/
    let six := (x.num * 10 ^ 5 / x.den + 10 ^ e / 2) / 10 ^ e
    let (six, e) := if 10 ^ 6 ≤ six then (six / 10, e + 1) else (six, e)
    let digits := Numeral.write six
    let behind := (digits.drop 1 |>.take 5).reverse.dropWhile (· = '0') |>.reverse
    let number := digits.take 1 ++ (if behind.isEmpty then [] else '.' :: behind) ++
      "e+".toList ++ Numeral.write e
    return (if places = 0 then "value too large to be printed: '".toList ++ number
      else "value/precision too large to be printed: '".toList ++ number ++ '/' ::
        Numeral.write places) ++ "' (consider using --to)".toList

def read? (t : Text) : Option Reading :=
  let (minus, t) : Bool × Text := match t with
    | '-' :: t => (true, t)
    | t => (false, t)
  let whole := t.takeWhile Char.isDigit
  let rest := t.drop whole.length
  let (fraction, rest) : Text × Text := match rest with
    | '.' :: more =>
      let f := more.takeWhile Char.isDigit
      if f.isEmpty then ([], rest) else (f, more.drop f.length)
    | rest => ([], rest)
  if (whole.isEmpty && fraction.isEmpty) || rest = ['.'] then none
  else
    some ⟨⟨minus, Numeral.value (whole ++ fraction), 10 ^ fraction.length⟩, fraction.length, rest⟩

/-- How often a number can be divided before it is less than the base. -/
def powerOf (base : Nat) (x : Amount) : Nat → Nat → Nat
  | 0, k => k
  | fuel + 1, k => if base ^ (k + 1) * x.den ≤ x.num then powerOf base x fuel (k + 1) else k

/-- A number with digits behind a point. -/
def decimals (places n : Nat) : Text :=
  let digits := Numeral.write n
  let digits := List.replicate (places + 1 - digits.length) '0' ++ digits
  if places = 0 then digits
  else digits.take (digits.length - places) ++ '.' :: digits.drop (digits.length - places)

/-- A number with a letter for its size. The number itself is at least so wide. -/
def shown (s : Scale) (how : Rounding) (precision : Option Nat) (zeros places : Nat)
    (x : Amount) : Text :=
  let sign : Text := if x.negative && x.num ≠ 0 then ['-'] else []
  let filled (t : Text) : Text :=
    sign ++ List.replicate (zeros - (sign.length + t.length)) '0' ++ t
  if s = .none || s = .auto then
    let p := precision.getD places
    filled (decimals p (rounded how { x with num := x.num * 10 ^ p }))
  else
    let base := s.base
    let power := powerOf base x letters.length 0
    let x := { x with den := x.den * base ^ power }
    let adjust := match precision with
      | some p => min (3 * power) p
      | none => if x.num < 10 * x.den then 1 else 0
    let n := rounded how { x with num := x.num * 10 ^ adjust }
    /- A number that has become as great as the base is divided once more. -/
    let (n, den, power) := if base * 10 ^ adjust ≤ n then (n, 10 ^ adjust * base, power + 1)
      else (n, 10 ^ adjust, power)
    let hasPoint := n ≠ 0 && n < 10 * den && 0 < power
    let p := precision.getD (if hasPoint then 1 else 0)
    filled (decimals p (Binary64.nearest (n * 10 ^ p) den)) ++
      (if power = 0 then [] else
        letters.getD (power - 1) 'K' :: (if s = .iecI then ['i'] else []))

/-- How a number is written. -/
structure Form where
  front : Text
  back : Text
  precision : Option Nat
  /-- How wide it is; less than zero if it stands on the left. -/
  width : Int
  zeros : Nat

/-- The characters before a sign that is not doubled; two signs are one of them. -/
def plainPart : Text → List Text
  | '%' :: '%' :: t => ['%', '%'] :: plainPart t
  | '%' :: _ => []
  | c :: t => [c] :: plainPart t
  | [] => []

/-- A form as it is told, or what is wrong with it: a text before it, and one behind. -/
def Form.read (t : Text) : Except (String × String) Form := do
  let plain := plainPart t
  let some spec := (t.drop plain.flatten.length).tail? | throw ("format ", " has no % directive")
  /- Of two signs only one is counted. -/
  let front := t.take plain.length
  let flags := spec.takeWhile fun c => c = '0' || c = '\'' || c = ' '
  let spec := spec.drop flags.length
  let (isLeft, spec) : Bool × Text := match spec with
    | '-' :: rest => (true, rest)
    | spec => (false, spec)
  let digits := spec.takeWhile Char.isDigit
  let spec := spec.drop digits.length
  let isFull := spec.isEmpty
  if isFull then throw ("format ", " ends in %")
  let (precision, spec) : Option Nat × Text := match spec with
    | '.' :: rest =>
      let p := rest.takeWhile Char.isDigit
      (some (Numeral.value p), rest.drop p.length)
    | spec => (none, spec)
  let back := spec.drop 1
  if spec.head? ≠ some 'f' then
    throw ("invalid format ", ", directive must be %[0]['][-][N][.][N]f")
  if (plainPart back).flatten ≠ back then throw ("format ", " has too many % directives")
  let n := Numeral.value digits
  let hasZeros := flags.contains '0'
  return ⟨front, back, precision, if isLeft then -n else if hasZeros then 0 else n,
    if hasZeros && !isLeft then n else 0⟩

/-- Which fields hold numbers. -/
def fields? (t : Text) : Except Text (Nat → Bool) := do
  if t = ['-'] then return fun _ => true
  let number (all t : Text) : Except Text Nat :=
    match Numeral.read? t with
    | some 0 => throw "fields are numbered from 1".toList
    | some n => return n
    | none => throw ("invalid field value '".toList ++ all ++ ['\''])
  let ranges ← (Text.splitAt ',' t).mapM fun r => do
    match Text.cut? '-' r with
    | some ([], []) => throw "invalid range with no endpoint: -".toList
    | some (a, b) =>
      let first ← if a.isEmpty then pure 1 else number r a
      let last ← if b.isEmpty then pure none else (number r b).map some
      if last.any (· < first) then throw "invalid decreasing range".toList
      return (first, last)
    | none =>
      let n ← number r r
      return (n, some n)
  return fun n => ranges.any fun (first, last) => first ≤ n && last.all (n ≤ ·)

end Scaling

open Scaling in
def numfmt (called : Text) (args : List Text) : Act Unit := do
  let all := known [('z', "zero-terminated"), ('γ', "debug"), ('δ', "grouping")]
    [('d', "delimiter"), ('ε', "field"), ('ζ', "format"), ('η', "from"), ('θ', "from-unit"),
     ('κ', "invalid"), ('λ', "padding"), ('μ', "round"), ('ν', "suffix"), ('ξ', "to"),
     ('ο', "to-unit")] ++ [⟨'ι', "header", .maybe⟩]
  let (os, words) ← optionsOr 1 called all true args
  /- A value that is one of several, which may be cut short. -/
  let choice (letter : Char) (name : String) (allowed : List String) : Act (Option String) := do
    match valueOf? os letter with
    | none => return none
    | some t =>
      let meant := allowed.filter fun a => t.isPrefixOf a.toList
      match allowed.find? fun a => a.toList = t, meant with
      | some a, _ | none, [a] => return some a
      | none, _ =>
        warn called ("invalid argument ".toList ++ (← quoted t) ++ " for '--".toList ++
          name.toList ++ "'\nValid arguments are:".toList)
        writeError (allowed.flatMap fun a => ("  - '" ++ a ++ "'\n").toList)
        writeError (hint called)
        quit 1
  let scaleOf (letter : Char) (name : String) (allowed : List String) : Act Scale := do
    match ← choice letter name allowed with
    | some t => return (scale? t.toList).getD .none
    | none => return .none
  let wrong {α : Type} (what : String) (t : Text) : Act α := do
    die called (what.toList ++ (← quoted t)) 1
  let source ← scaleOf 'η' "from" ["none", "auto", "si", "iec", "iec-i"]
  let target ← scaleOf 'ξ' "to" ["none", "si", "iec", "iec-i"]
  let how : Rounding ←
    match ← choice 'μ' "round" ["up", "down", "from-zero", "towards-zero", "nearest"] with
    | some "up" => pure .up
    | some "down" => pure .down
    | some "towards-zero" => pure .towardsZero
    | some "nearest" => pure .nearest
    | _ => pure .fromZero
  let invalid := (← choice 'κ' "invalid" ["abort", "fail", "warn", "ignore"]).getD "abort"
  let unit (letter : Char) : Act Nat := do
    match valueOf? os letter with
    | none => return 1
    | some t =>
      let scaled := scaled? ((letters.zipIdx 1).flatMap fun (c, k) =>
        [(String.ofList [c], 1000 ^ k), (String.ofList [c, 'i'], 1024 ^ k)]) t
      match scaled.filter fun n => 0 < n && t.head?.any Char.isDigit with
      | some n => return n
      | none => wrong "invalid unit size: " t
  let fromUnit ← unit 'θ'
  let toUnit ← unit 'ο'
  let padding : Option Int ← (valueOf? os 'λ').mapM fun t => do
    let (isLeft, digits) : Bool × Text := match t with
      | '-' :: digits => (true, digits)
      | digits => (false, digits)
    match (Numeral.read? digits).filter (0 < ·) with
    | some n => return if isLeft then -(n : Int) else n
    | none => wrong "invalid padding value " t
  let header : Nat ← match valueOf? os 'ι' with
    | none => pure 0
    | some [] => pure 1
    | some t =>
      match (Numeral.read? t).filter (0 < ·) with
      | some n => pure n
      | none => wrong "invalid header value " t
  let isWanted : Nat → Bool ← match valueOf? os 'ε' with
    | none => pure (· = 1)
    | some t =>
      match fields? t with
      | .ok f => pure f
      | .error why => misuse called why 1
  let delimiter : Option Char ← match valueOf? os 'd' with
    | none => pure none
    | some [c] => pure (some c)
    | some [] => pure (some '\x00')
    | some _ => die called "the delimiter must be a single character".toList 1
  if has os 'δ' && has os 'ζ' then
    die called "--grouping cannot be combined with --format".toList 1
  if has os 'δ' && target ≠ .none then
    die called "grouping cannot be combined with --to".toList 1
  let format := (valueOf? os 'ζ').getD "%f".toList
  let form ← match Form.read format with
    | .ok f => pure f
    | .error (before, behind) =>
      die called (before.toList ++ (← quoted format) ++ behind.toList) 1
  let width : Int := if form.width = 0 then padding.getD 0 else form.width
  let suffix := (valueOf? os 'ν').getD []
  let pad (width : Int) (t : Text) : Text :=
    if width < 0 then padRight width.natAbs t else padLeft width.natAbs t
  let convert (width : Int) (bare : Text) : Except Objection Text := do
    match read? bare with
    | none => throw .notNumber
    | some r =>
      if mostDigitsRead ≤ magnitude r.amount then throw .tooLong
      let scaledBy (n : Nat) : Except Objection Text := do
        let x := { r.amount with num := r.amount.num * n * fromUnit, den := r.amount.den * toUnit }
        let places := if n = 1 then r.places else 0
        let precision := form.precision.getD places
        if target = .none && mostDigits < magnitude x + precision then
          throw (.tooLarge x precision)
        else
          return form.front ++
            pad width (shown target how form.precision form.zeros places x ++ suffix) ++ form.back
      match r.behind with
      | [] => if source = .iecI then throw .lacksI else scaledBy 1
      | c :: rest =>
        match letters.findIdx? (· = c) with
        | none => throw .badSuffix
        | some k =>
          match source, rest with
          | .none, _ => throw .scaled
          | .iecI, 'i' :: rest | .auto, 'i' :: rest =>
            if rest.isEmpty then scaledBy (1024 ^ (k + 1)) else throw (.trailing rest)
          | .iecI, _ => throw .lacksI
          | .iec, rest =>
            if rest.isEmpty then scaledBy (1024 ^ (k + 1)) else throw (.trailing rest)
          | _, rest =>
            if rest.isEmpty then scaledBy (1000 ^ (k + 1)) else throw (.trailing rest)
  let mark := if has os 'z' then '\x00' else '\n'
  let field (t : Text) (n : Nat) : Act Unit := do
    if !isWanted n then put t
    else
      let bare := if !suffix.isEmpty && suffix.length < t.length && suffix.isSuffixOf t then
        t.take (t.length - suffix.length) else t
      let trimmed := bare.dropWhile isBlank
      /- A field among others is as wide as it was. -/
      let width : Int := if width = 0 && delimiter.isNone &&
        (trimmed.length < bare.length || 1 < n) then bare.length else width
      match convert width trimmed with
      | .ok u => put u
      | .error why =>
        let message ← why.message trimmed
        match invalid with
        | "ignore" => put bare
        | "warn" =>
          warn called message
          put bare
        | "fail" =>
          lack called message 2
          put bare
        | _ => die called message 2
  let isSeparator (c : Char) : Bool := match delimiter with
    | some d => c = d
    | none => isBlank c || c = '\n'
  let line (l : Text) : Act Unit :=
    iterate (l, 1) fun ((l, n) : Text × Nat) => do
      let blanks := if delimiter.isNone then l.takeWhile isSeparator else []
      let t := blanks ++ ((l.drop blanks.length).takeWhile fun c => !isSeparator c)
      field t n
      match l.drop t.length with
      | [] => return .ok ()
      | _ :: rest =>
        put [delimiter.getD ' ']
        return .error (rest, n + 1)
  if words.isEmpty then
    match ← openOperand ['-'] with
    | .error _ => pure ()
    | .ok d =>
      let _ ← overLines mark (fun (n : Nat) l => do
        let (t, isWhole) := withoutMark mark l
        if n < header then put t else line t
        if isWhole then put [mark]
        return n + 1) d 0
  else
    for t in words do
      line t
      put [mark]

end RemoteInterpreter.Shell.Tool
