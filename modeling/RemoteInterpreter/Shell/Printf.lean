import RemoteInterpreter.Shell.Escapes
import RemoteInterpreter.Shell.Real

/-!
# Formatted output of a shell

A format is printed as often as it takes to use up all arguments. Arguments that are
missing count as empty, or as zero.
-/

namespace RemoteInterpreter.Shell

/-- How something is laid out. -/
structure Layout where
  alternate : Bool
  left : Bool
  plus : Bool
  space : Bool
  zeros : Bool
  width : Nat
  precision : Option Nat

namespace Layout

def padded (l : Layout) (t : Text) : Text :=
  let gap := List.replicate (l.width - t.length) ' '
  if l.left then t ++ gap else gap ++ t

/-- Sign or mark of the base, and digits; zeros may fill the gap between them. -/
def number (l : Layout) (zeros : Bool) (front digits : Text) : Text :=
  if zeros && l.zeros && !l.left then
    front ++ List.replicate (l.width - front.length - digits.length) '0' ++ digits
  else l.padded (front ++ digits)

def sign (l : Layout) (negative : Bool) : Text :=
  if negative then ['-'] else if l.plus then ['+'] else if l.space then [' '] else []

/-- At least as many digits as the precision tells; zero may have none. -/
def atLeast (l : Layout) (n : Nat) (digits : Text) : Text :=
  match l.precision with
  | some 0 => if n = 0 then [] else digits
  | some p => List.replicate (p - digits.length) '0' ++ digits
  | none => digits

def integer (l : Layout) (n : Int) : Text :=
  l.number l.precision.isNone (l.sign (n < 0)) (l.atLeast n.natAbs (Numeral.write n.natAbs))

def natural (l : Layout) (base : Nat) (upper : Bool) (n : Nat) : Text :=
  let digits := Nat.toDigits base n
  let digits := l.atLeast n (if upper then digits.map Char.toUpper else digits)
  let digits :=
    if l.alternate && base = 8 && digits.head? ≠ some '0' then '0' :: digits else digits
  let front : Text :=
    if l.alternate && base = 16 && n ≠ 0 then ['0', if upper then 'X' else 'x'] else []
  l.number l.precision.isNone front digits

def text (l : Layout) (t : Text) : Text :=
  l.padded (match l.precision with
    | some p => t.take p
    | none => t)

/-- A natural with a point before its last digits. -/
def pointed (l : Layout) (places n : Nat) : Text :=
  let digits := Numeral.write n
  let digits := List.replicate (places + 1 - digits.length) '0' ++ digits
  let whole := digits.take (digits.length - places)
  if places = 0 then if l.alternate then whole ++ ['.'] else whole
  else whole ++ '.' :: digits.drop (digits.length - places)

/-- Rounded to so many places behind the point. -/
def fixed (l : Layout) (places num den : Nat) : Text :=
  l.pointed places (Binary64.nearest (num * 10 ^ places) den)

/-- The greatest power of ten that is not greater than a positive ratio. -/
def exponentOf (num den : Nat) : Int :=
  let guess : Int := (Numeral.write num).length - (Numeral.write den).length
  let (n, d) := (num * 10 ^ (-guess).toNat, den * 10 ^ guess.toNat)
  if n < d then guess - 1 else guess

/-- The digits of a ratio, so many places behind the first one, and the power of ten. -/
def rounded (places num den : Nat) : Nat × Int :=
  if num = 0 then (0, 0)
  else
    let e := exponentOf num den
    let shift : Int := places - e
    let n := Binary64.nearest (num * 10 ^ shift.toNat) (den * 10 ^ (-shift).toNat)
    if 10 ^ (places + 1) ≤ n then (n / 10, e + 1) else (n, e)

def exponentMark (upper : Bool) (e : Int) : Text :=
  let digits := Numeral.write e.natAbs
  [if upper then 'E' else 'e', if e < 0 then '-' else '+'] ++
    List.replicate (2 - digits.length) '0' ++ digits

def scientific (l : Layout) (upper : Bool) (places num den : Nat) : Text :=
  let (n, e) := rounded places num den
  l.pointed places n ++ exponentMark upper e

/-- Zeros at the end behind a point are dropped, and the point itself. -/
def trimmed (t : Text) : Text :=
  if t.contains '.' then
    let t := (t.reverse.dropWhile (· == '0')).reverse
    if t.getLast? = some '.' then t.dropLast else t
  else t

def general (l : Layout) (upper : Bool) (digits num den : Nat) : Text :=
  let digits := max 1 digits
  let (n, e) := rounded (digits - 1) num den
  let short (t : Text) : Text := if l.alternate then t else trimmed t
  if e < -4 ∨ (digits : Int) ≤ e then
    short (l.pointed (digits - 1) n) ++ exponentMark upper e
  else short (l.fixed ((digits : Int) - 1 - e).toNat num den)

/-- Rounded to so many hexadecimal places behind the point, with a power of two. -/
def hexadecimal (l : Layout) (x : Binary64) : Text :=
  let exponent : Int := if x.isZero then 0 else max (x.exponentField : Int) 1 - 1023
  let (n, places) := match l.precision with
    | some p =>
      if p < 13 then (Binary64.nearest x.significand (16 ^ (13 - p)), p)
      else (x.significand * 16 ^ (p - 13), p)
    | none => (x.significand, 13)
  let digits := Nat.toDigits 16 n
  let digits := List.replicate (places + 1 - digits.length) '0' ++ digits
  let whole := digits.take (digits.length - places)
  let fraction := digits.drop (digits.length - places)
  let fraction := if l.precision.isSome then fraction
    else (fraction.reverse.dropWhile (· = '0')).reverse
  let point : Text := if fraction.isEmpty && !l.alternate then [] else ['.']
  let power := 'p' :: (if exponent < 0 then '-' else '+') :: Numeral.write exponent.natAbs
  whole ++ point ++ fraction ++ power

def float (l : Layout) (conversion : Char) (x : Binary64) : Text :=
  let upper := conversion.isUpper
  let cased (t : Text) : Text := if upper then t.map Char.toUpper else t
  let front := l.sign x.isNegative
  if x.isNaN then l.padded (front ++ cased "nan".toList)
  else if x.isInfinite then l.padded (front ++ cased "inf".toList)
  else
    let (num, den) := x.ratio
    let places := l.precision.getD 6
    let front := if conversion.toLower = 'a' then front ++ cased "0x".toList else front
    l.number true front (match conversion.toLower with
      | 'a' => cased (l.hexadecimal x)
      | 'f' => l.fixed places num den
      | 'e' => l.scientific upper places num den
      | _ => l.general upper places num den)

end Layout

/-- What was printed so far. -/
structure Printing where
  text : Text
  /-- Arguments that are not used up. -/
  args : List Text
  warnings : List Text
  /-- Why the rest cannot be printed. -/
  failure : Option Text
  /-- An argument ended the output. -/
  ends : Bool

namespace Printing

def put (t : Text) (p : Printing) : Printing := { p with text := p.text ++ t }

def fail (why : Text) (p : Printing) : Printing := { p with failure := some why }

def next (p : Printing) : Text × Printing := (p.args.headD [], { p with args := p.args.tail })

def warn (arg : Text) (why : String) (p : Printing) : Printing :=
  { p with warnings := p.warnings ++ [arg ++ ": ".toList ++ why.toList] }

/-- Complains about an argument that is not a number, all of it. -/
def check (arg behind : Text) (isMissing isClipped : Bool) (p : Printing) : Printing :=
  if arg.isEmpty then p
  else if isMissing then p.warn arg "expected numeric value"
  else if !behind.isEmpty then p.warn arg "not completely converted"
  else if isClipped then p.warn arg "Numerical result out of range"
  else p

/-- A quote stands for the number of the character behind it. -/
def characterNumber? : Text → Option Nat
  | '\'' :: t | '"' :: t => some ((t.head?.map Char.toNat).getD 0)
  | _ => none

def integer (p : Printing) : Int × Printing :=
  let (arg, p) := p.next
  match characterNumber? arg with
  | some n => (n, p)
  | none =>
    let a := integerAhead true arg
    (a.value, p.check arg a.behind a.isMissing a.isClipped)

def natural (p : Printing) : Nat × Printing :=
  let (arg, p) := p.next
  match characterNumber? arg with
  | some n => (n, p)
  | none =>
    let a := naturalAhead arg
    (a.value.toNat, p.check arg a.behind a.isMissing a.isClipped)

def float (p : Printing) : Binary64 × Printing :=
  let (arg, p) := p.next
  match characterNumber? arg with
  | some n => (.ofNat n, p)
  | none =>
    match realAhead? arg with
    | some a => (a.value, p.check arg a.behind false a.isClipped)
    | none => (.zero false, p.check arg arg true false)

/-- One conversion of an argument. -/
def convert (l : Layout) (conversion : Char) (shown : Text) (p : Printing) : Printing :=
  let natural (base : Nat) (upper : Bool) : Printing :=
    let (n, p) := p.natural
    p.put (l.natural base upper n)
  match conversion with
  | 's' =>
    let (arg, p) := p.next
    p.put (l.text arg)
  | 'b' =>
    let (arg, p) := p.next
    let (t, ends) := unescape arg
    { p.put (l.text t) with ends := ends }
  | 'c' =>
    let (arg, p) := p.next
    p.put (l.padded [arg.headD '\x00'])
  | 'd' | 'i' =>
    let (n, p) := p.integer
    p.put (l.integer n)
  | 'u' => natural 10 false
  | 'o' => natural 8 false
  | 'x' => natural 16 false
  | 'X' => natural 16 true
  | 'a' | 'A' | 'e' | 'E' | 'f' | 'F' | 'g' | 'G' =>
    let (x, p) := p.float
    p.put (l.float conversion x)
  | _ => p.fail (shown ++ ": invalid directive".toList)

/-- A width or a precision: a star takes it from the arguments. -/
def amount (t : Text) (p : Printing) : Option Int × Text × Printing :=
  match t with
  | '*' :: t =>
    let (n, p) := p.integer
    (some n, t, p)
  | t =>
    let digits := t.takeWhile Char.isDigit
    (if digits.isEmpty then none else some (Numeral.value digits), t.drop digits.length, p)

def isFlag (c : Char) : Bool := c == '#' || c == '-' || c == '+' || c == ' ' || c == '0'

/-- From behind a percent sign to behind the conversion. -/
def directive (t : Text) (p : Printing) : Text × Printing :=
  let flags := t.takeWhile isFlag
  let (width, rest, p) := p.amount (t.drop flags.length)
  let (precision, rest, p) : Option Int × Text × Printing := match rest with
    | '.' :: rest =>
      let (n, rest, p) := p.amount rest
      (some (n.getD 0), rest, p)
    | rest => (none, rest, p)
  match rest with
  | [] => ([], p.fail "missing format character".toList)
  | conversion :: rest =>
    let width := width.getD 0
    let l : Layout :=
      { alternate := flags.contains '#', left := flags.contains '-' || width < 0
        plus := flags.contains '+', space := flags.contains ' ', zeros := flags.contains '0'
        width := width.natAbs
        precision := precision.bind fun n => if n < 0 then none else some n.toNat }
    (rest, p.convert l conversion ('%' :: t.take (t.length - rest.length)))

def formatOnce : Nat → Text → Printing → Printing
  | 0, _, p => p
  | _ + 1, [], p => p
  | fuel + 1, '\\' :: t, p => formatOnce fuel (escape t).2 (p.put [(escape t).1])
  | fuel + 1, '%' :: '%' :: t, p => formatOnce fuel t (p.put ['%'])
  | fuel + 1, '%' :: t, p =>
    let (t, p) := p.directive t
    if p.failure.isSome || p.ends then p else formatOnce fuel t p
  | fuel + 1, c :: t, p => formatOnce fuel t (p.put [c])

/-- A format that uses no argument is printed once. -/
def formatAll : Nat → Text → Printing → Printing
  | 0, _, p => p
  | fuel + 1, format, p =>
    let q := formatOnce (format.length + 1) format p
    if q.failure.isSome || q.ends || q.args.isEmpty || q.args.length = p.args.length then q
    else formatAll fuel format q

end Printing

def printf (format : Text) (args : List Text) : Printing :=
  Printing.formatAll (args.length + 1) format ⟨[], args, [], none, false⟩

end RemoteInterpreter.Shell
