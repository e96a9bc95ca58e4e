import RemoteInterpreter.Json
import RemoteInterpreter.Json.Source

/-!
# Reading JSON

From source to tree. A number keeps as many leading digits as fit sixty-four bits,
is rounded to a float, and is then scaled by a power of ten with one more rounding.
Escapes must pair up, floats must be finite, and containers may nest to a limit.
-/

namespace RemoteInterpreter.Json

namespace Piece

def isHigh (u : Nat) : Bool := decide (0xd800 ≤ u) && decide (u < 0xdc00)

def isLow (u : Nat) : Bool := decide (0xdc00 ≤ u) && decide (u < 0xe000)

/-- A high half and the low half after it are one character; no half may stand alone. -/
def join? : List Piece → Option Text
  | [] => some []
  | .char c :: rest => (join? rest).map (c :: ·)
  | .unit u :: .unit v :: rest =>
    if isHigh u then
      if isLow v then
        (join? rest).map (Char.ofNat (0x10000 + (u - 0xd800) * 0x400 + (v - 0xdc00)) :: ·)
      else none
    else if isLow u then none
    else (join? (.unit v :: rest)).map (Char.ofNat u :: ·)
  | .unit u :: rest =>
    if isHigh u || isLow u then none else (join? rest).map (Char.ofNat u :: ·)

end Piece

namespace Figure

/-- Digits are taken over while the significand fits sixty-four bits. -/
def absorb (significand : Nat) : Text → Nat × Text
  | [] => (significand, [])
  | d :: rest =>
    let next := significand * 10 + (d.toNat - '0'.toNat)
    if next < 2 ^ 64 then absorb next rest else (significand, d :: rest)

def powerOfTen (k : Nat) : Binary64 := Binary64.ofNat (10 ^ k)

/-- A magnitude times a power of ten, at most three hundred and eight places at a time. -/
def scale (fuel : Nat) (x : Binary64) (exponent : Int) : Option Binary64 :=
  if exponent.natAbs ≤ 308 then
    if 0 ≤ exponent then
      let product := x.mul (powerOfTen exponent.natAbs)
      if product.isInfinite then none else some product
    else some (x.div (powerOfTen exponent.natAbs))
  else if x.isZero then some x
  else if 0 ≤ exponent then none
  else
    match fuel with
    | 0 => some (Binary64.zero false)
    | fuel + 1 => scale fuel (x.div (powerOfTen 308)) (exponent + 308)

def float? (f : Figure) : Option Binary64 :=
  let (whole, beyond) := absorb 0 f.whole
  let (significand, rest) := absorb whole f.fraction
  let point : Int := (beyond.length : Int) - (f.fraction.length - rest.length : Nat)
  let magnitude := match f.exponent with
    | none => scale 4 (Binary64.ofNat significand) point
    | some (negative, digits) =>
      let e := Numeral.value digits
      if e < 2 ^ 31 then
        scale 4 (Binary64.ofNat significand) (if negative then point - e else point + e)
      else if significand ≠ 0 ∧ !negative then none
      else some (Binary64.zero false)
  magnitude.map fun x => if f.negative then x.negate else x

/-- A whole number within the machine's words is an integer, except for minus zero. -/
def number? (f : Figure) : Option Number :=
  let n := Numeral.value f.whole
  if f.fraction.isEmpty ∧ f.exponent.isNone ∧ n < 2 ^ 64 then
    if !f.negative then some (.integer n)
    else if 0 < n ∧ n ≤ 2 ^ 63 then some (.integer (-n))
    else some (.float (Binary64.ofNat n).negate)
  else f.float?.map .float

end Figure

mutual

/-- The tree of a source whose containers nest no deeper than the limit. -/
def ofSource? : Nat → Source → Option Json
  | _, .null => some .null
  | _, .bool b => some (.bool b)
  | _, .number f => f.number?.map .number
  | _, .string pieces => (Piece.join? pieces).map .string
  | 0, .array _ => none
  | limit + 1, .array items => (itemsOfSource? limit items).map .array
  | 0, .object _ => none
  | limit + 1, .object fields =>
    (fieldsOfSource? limit fields).map fun fs => .object (Entries.ofList fs)

def itemsOfSource? : Nat → List Source → Option (List Json)
  | _, [] => some []
  | limit, item :: rest => do
    let item ← ofSource? limit item
    let rest ← itemsOfSource? limit rest
    return item :: rest

def fieldsOfSource? : Nat → List (List Piece × Source) → Option (List (Text × Json))
  | _, [] => some []
  | limit, (key, value) :: rest => do
    let key ← Piece.join? key
    let value ← ofSource? limit value
    let rest ← fieldsOfSource? limit rest
    return (key, value) :: rest

end

def depthLimit : Nat := 127

def read? (t : Text) : Option Json := (Source.read? t).bind (ofSource? depthLimit)

end RemoteInterpreter.Json
