import RemoteInterpreter.Numeral

/-!
# Numbers of a shell

Integers of 64 bits, and how they are read from the beginning of a text: blanks, a sign,
and then decimal digits, or octal ones behind a zero, or hexadecimal ones behind `0x`.
-/

namespace RemoteInterpreter.Shell

def greatest : Int := 2 ^ 63 - 1

def least : Int := -(2 ^ 63)

/-- The integer of 64 bits that is left when the higher bits are dropped. -/
def wrap (n : Int) : Int := (n + 2 ^ 63) % 2 ^ 64 - 2 ^ 63

def isBlank (c : Char) : Bool := c == ' ' || ('\t' ≤ c && c ≤ '\r')

/-- The value of a digit in the bases up to sixteen. -/
def digit? (c : Char) : Option Nat :=
  if c.isDigit then some (c.toNat - 48)
  else if 'a' ≤ c && c ≤ 'f' then some (c.toNat - 87)
  else if 'A' ≤ c && c ≤ 'F' then some (c.toNat - 55)
  else none

def isDigitOf (base : Nat) (c : Char) : Bool := (digit? c).any (· < base)

def valueIn (base : Nat) (digits : Text) : Nat :=
  digits.foldl (fun n c => n * base + (digit? c).getD 0) 0

/-- A number without sign, and what stands behind it. -/
def naturalAhead? (anyBase : Bool) (t : Text) : Option (Nat × Text) :=
  let take (base : Nat) (t : Text) : Nat × Text :=
    (valueIn base (t.takeWhile (isDigitOf base)), t.dropWhile (isDigitOf base))
  match anyBase, t with
  | true, '0' :: x :: c :: rest =>
    if (x == 'x' || x == 'X') && isDigitOf 16 c then some (take 16 (c :: rest))
    else some (take 8 t)
  | true, '0' :: _ => some (take 8 t)
  | _, c :: _ => if c.isDigit then some (take 10 t) else none
  | _, [] => none

/-- The number that a text begins with. -/
structure Ahead where
  value : Int
  behind : Text
  /-- The text does not begin with a number. -/
  isMissing : Bool
  /-- The number is out of bounds; the nearest one stands for it. -/
  isClipped : Bool

def Ahead.bounded (low high n : Int) (behind : Text) : Ahead :=
  ⟨max low (min high n), behind, false, n < low || high < n⟩

def withoutSign (t : Text) : Bool × Text :=
  match t with
  | '-' :: t => (true, t)
  | '+' :: t => (false, t)
  | t => (false, t)

/-- An integer with sign. -/
def integerAhead (anyBase : Bool) (t : Text) : Ahead :=
  let (negative, digits) := withoutSign (t.dropWhile isBlank)
  match naturalAhead? anyBase digits with
  | none => ⟨0, t, true, false⟩
  | some (n, behind) => .bounded least greatest (if negative then -n else n) behind

/-- A number without sign; a minus takes it from the other end. -/
def naturalAhead (t : Text) : Ahead :=
  let (negative, digits) := withoutSign (t.dropWhile isBlank)
  match naturalAhead? true digits with
  | none => ⟨0, t, true, false⟩
  | some (n, behind) =>
    if 2 ^ 64 ≤ n then ⟨2 ^ 64 - 1, behind, false, true⟩
    else ⟨if negative then (2 ^ 64 - n) % 2 ^ 64 else n, behind, false, false⟩

/-- A text that is a decimal integer but for blanks around it. -/
def decimal? (t : Text) : Option Int :=
  let a := integerAhead false t
  if a.isMissing || a.isClipped || !a.behind.all isBlank then none else some a.value

/-- The value of a variable in an expression; nothing counts as zero. -/
def valueOf? (t : Text) : Option Int :=
  let a := integerAhead true t
  if a.isClipped || !a.behind.all isBlank then none else some a.value

/-- A decimal number that is not negative and not too great. -/
def count? (t : Text) : Option Nat :=
  match decimal? t with
  | some (.ofNat n) => if n < 2 ^ 31 then some n else none
  | _ => none

end RemoteInterpreter.Shell
