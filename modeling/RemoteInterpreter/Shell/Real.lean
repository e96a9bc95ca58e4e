import RemoteInterpreter.Binary64
import RemoteInterpreter.Shell.Number

/-!
# Reals as they are written

Decimal and hexadecimal numbers with a point and an exponent, infinity, and what is no
number, at the beginning of a text.
-/

namespace RemoteInterpreter.Shell

/-- An exponent behind one of two letters, and what stands behind it. Without digits there is
none. -/
def exponentAhead (letters : List Char) (t : Text) : Int × Text :=
  match t with
  | e :: more =>
    let (minus, digits) := withoutSign more
    if letters.contains e && digits.head?.any Char.isDigit then
      let n : Int := min 50000 (Numeral.value (digits.takeWhile Char.isDigit))
      (if minus then -n else n, digits.dropWhile Char.isDigit)
    else (0, t)
  | [] => (0, [])

/-- Digits with a point among them: all of them, how many are behind the point, and what stands
behind. -/
def digitsAhead (base : Nat) (t : Text) : Text × Nat × Text :=
  let whole := t.takeWhile (isDigitOf base)
  match t.drop whole.length with
  | '.' :: rest =>
    let fraction := rest.takeWhile (isDigitOf base)
    if whole.isEmpty && fraction.isEmpty then ([], 0, t)
    else (whole ++ fraction, fraction.length, rest.drop fraction.length)
  | rest => (whole, 0, rest)

/-- A hexadecimal number behind its mark. -/
def hexadecimalAhead? (negative : Bool) (t : Text) : Option (Binary64 × Text) :=
  let (digits, places, rest) := digitsAhead 16 t
  if digits.isEmpty then none
  else
    let (exponent, rest) := exponentAhead ['p', 'P'] rest
    let shift : Int := exponent - 4 * places
    some (.ofRatio negative (valueIn 16 digits * 2 ^ shift.toNat) (2 ^ (-shift).toNat), rest)

/-- A number in words. -/
def namedAhead? (negative : Bool) (t : Text) : Option (Binary64 × Text) :=
  let lower := t.map Char.toLower
  let begins (word : String) : Bool := word.toList.isPrefixOf lower
  if begins "infinity" then some (.infinity negative, t.drop 8)
  else if begins "inf" then some (.infinity negative, t.drop 3)
  else if begins "nan" then
    let x := if negative then Binary64.nan.negate else .nan
    match t.drop 3 with
    | '(' :: rest =>
      let inside := rest.takeWhile fun c => c.isAlphanum || c == '_'
      match rest.drop inside.length with
      | ')' :: rest => some (x, rest)
      | _ => some (x, t.drop 3)
    | rest => some (x, rest)
  else none

/-- A number that is not zero became too small, or too great. -/
def isClippedTo (x : Binary64) : Bool := x.isInfinite || x.exponentField = 0

/-- The real number that a text begins with. -/
structure RealAhead where
  value : Binary64
  behind : Text
  /-- The number is out of bounds. -/
  isClipped : Bool

/-- A number, and what stands behind it. -/
def realAhead? (t : Text) : Option RealAhead :=
  let (negative, t) := withoutSign (t.dropWhile isBlank)
  let decimal? : Option RealAhead :=
    let (digits, places, rest) := digitsAhead 10 t
    if digits.isEmpty then (namedAhead? negative t).map fun (x, rest) => ⟨x, rest, false⟩
    else
      let (exponent, rest) := exponentAhead ['e', 'E'] rest
      let shift : Int := exponent - places
      let n := Numeral.value digits
      let x := if n = 0 then .zero negative
        else if 400 < shift + digits.length then .infinity negative
        else if shift + digits.length < -400 then .zero negative
        else .ofRatio negative (n * 10 ^ shift.toNat) (10 ^ (-shift).toNat)
      some ⟨x, rest, n ≠ 0 && isClippedTo x⟩
  match t with
  | '0' :: x :: rest =>
    if x = 'x' || x = 'X' then
      match hexadecimalAhead? negative rest with
      | some (x, rest) => some ⟨x, rest, false⟩
      | none => decimal?
    else decimal?
  | _ => decimal?

/-- Nanoseconds of a number of seconds, or of a longer unit that is named behind it. -/
def nanoseconds? (t : Text) : Option Nat :=
  match realAhead? t with
  | some ⟨x, behind, _⟩ =>
    let unit? : Option Nat := match behind with
      | [] | ['s'] => some 1
      | ['m'] => some 60
      | ['h'] => some 3600
      | ['d'] => some 86400
      | _ => none
    if x.isNaN || (x.isNegative && !x.isZero) then none
    else if x.isInfinite then unit?.map fun _ => 10 ^ 24
    else unit?.map fun unit => min (10 ^ 24) (x.ratio.1 * unit * 10 ^ 9 / x.ratio.2)
  | none => none

end RemoteInterpreter.Shell
