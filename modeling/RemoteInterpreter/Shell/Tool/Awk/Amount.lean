import RemoteInterpreter.Shell.Printf

/-!
# Calculating

Numbers as scripts calculate with them: where a calculation has no result there is a
negative number that is none, and what is no number stays what it is. Numbers that are
whole are written without a point as long as they fit into sixty-four bits.
-/

namespace RemoteInterpreter.Shell.Tool.Awk

open RemoteInterpreter (Binary64)

namespace Amount

def zero : Binary64 := .zero false

def one : Binary64 := .ofNat 1

/-- What a calculation without a result gives. -/
def senseless : Binary64 := Binary64.nan.negate

def float (x : Binary64) : Float := .ofBits x.bits

def ofFloat (x : Float) : Binary64 := if x.isNaN then senseless else ⟨x.toBits⟩

def ofBool (b : Bool) : Binary64 := if b then one else zero

def lift (f : Float → Float) (x : Binary64) : Binary64 :=
  if x.isNaN then x else ofFloat (f (float x))

def lift₂ (f : Float → Float → Float) (x y : Binary64) : Binary64 :=
  if x.isNaN then x else if y.isNaN then y else ofFloat (f (float x) (float y))

/-- What is left of a division whose result is whole. It has the sign of the dividend. -/
def remainder (x y : Binary64) : Binary64 :=
  if x.isNaN then x else if y.isNaN then y
  else if x.isInfinite || y.isZero then senseless
  else if y.isInfinite then x
  else
    let (a, b) := x.ratio
    let (c, d) := y.ratio
    .ofRatio x.isNegative (a * d % (c * b)) (b * d)

/-- The whole part. -/
def truncated (x : Binary64) : Binary64 :=
  if !x.isFinite then x
  else
    let (a, b) := x.ratio
    .ofRatio x.isNegative (a / b) 1

/-- How two numbers are ordered. What is no number equals every number. -/
def compare (x y : Binary64) : Ordering :=
  if x.isNaN || y.isNaN then .eq
  else if float x < float y then .lt
  else if float y < float x then .gt
  else .eq

/-- The nearest whole number to zero's side, if there is one. -/
def integer? (x : Binary64) : Option Int :=
  if !x.isFinite then none
  else
    let (a, b) := x.ratio
    let n : Nat := a / b
    some (if x.isNegative then -n else n)

/-- The integer within bounds that stands for a number. -/
def clipped (low high : Int) (x : Binary64) : Int :=
  match integer? x with
  | some n => max low (min high n)
  | none => if x.isNaN || x.isNegative then low else high

/-- The integer that is written for a number, if it is written as one. -/
def whole? (x : Binary64) : Option Int :=
  if !x.isFinite then none
  else
    let (a, b) := x.ratio
    if a % b ≠ 0 then none
    else
      let n := a / b
      if x.isNegative then if n ≤ 2 ^ 63 then some (-n) else none
      else if n ≤ 2 ^ 64 then some (min n (2 ^ 64 - 1)) else none

/-- The integer that is printed for a number. -/
def signed (x : Binary64) : Int :=
  if x.isNaN then -(2 ^ 63)
  else if x.isNegative then clipped (-(2 ^ 63) + 1) 0 x
  else clipped 0 (2 ^ 64 - 1) x

/-- The natural number that is printed for a number: those below zero are counted from the end. -/
def unsigned (x : Binary64) : Nat := (signed x % 2 ^ 64).toNat

/-! Texts -/

/-- The number that a text begins with, or zero. -/
def ofText (t : Text) : Binary64 := ((realAhead? t).map RealAhead.value).getD zero

def isSpace (c : Char) : Bool := c == ' ' || ('\t' ≤ c && c ≤ '\r')

/-- Whether all of a text is a number as it is written in the input. -/
def looksNumeric (t : Text) : Bool :=
  let t := t.dropWhile isSpace
  let behind := t.reverse.dropWhile isSpace
  let begins := t.head?.any fun c => c.isDigit || c == '+' || c == '-' || c == '.'
  let ends := behind.head?.any fun c => c.isDigit || c == '.'
  begins && ends &&
    match realAhead? t with
    | some a => a.behind.all isSpace && !a.isClipped
    | none => false

end Amount

end RemoteInterpreter.Shell.Tool.Awk
