import RemoteInterpreter.Binary64
import RemoteInterpreter.Numeral

/-!
# Shortest decimal text

Of the decimals that read back as a number, the one with the fewest digits is
written, and of those the nearest. The digits are found by exact arithmetic on
naturals. Which of two equally near decimals is taken, and how the digits are laid
out, is decided apart from them by a `Layout`.
-/

namespace RemoteInterpreter.Binary64

/-- The choice between two decimals of one length that are equally near. -/
inductive Tie where
  | larger
  | even
  deriving DecidableEq, Repr

/-- A magnitude `0.d₁d₂… * 10 ^ point`, with no zero at either end of the digits. -/
structure Decimal where
  digits : Nat
  count : Nat
  point : Int
  deriving DecidableEq, Repr

/-- The reals that round to a number, between `low` and `high` quarters of its unit `2 ^ scale`.
The ends belong to it when its significand is even. -/
structure Interval where
  low : Nat
  value : Nat
  high : Nat
  closed : Bool
  unit : Int

def interval (x : Binary64) : Interval :=
  let m := x.significand
  let narrow := x.fractionField == 0 && decide (1 < x.exponentField)
  { low := if narrow then 4 * m - 1 else 4 * m - 2
    value := 4 * m
    high := 4 * m + 2
    closed := m % 2 == 0
    unit := x.scale - 2 }

/-- The least `p` with `num / den < 10 ^ p`. -/
def pointOf (num den : Nat) : Int :=
  if den ≤ num then ((Numeral.write (num / den)).length : Int)
  else
    match (List.range 400).find? fun k => decide (den ≤ num * 10 ^ (k + 1)) with
    | some k => -(k : Int)
    | none => -400

namespace Interval

/-- Both sides of a comparison of `count * 10 ^ grid` with `quarters * 2 ^ unit`. -/
def scaled (i : Interval) (count quarters : Nat) (grid : Int) : Nat × Nat :=
  (count * 10 ^ grid.toNat * 2 ^ (-i.unit).toNat,
   quarters * 2 ^ i.unit.toNat * 10 ^ (-grid).toNat)

def holds (i : Interval) (grid : Int) (count : Nat) : Bool :=
  let (a, low) := i.scaled count i.low grid
  let (_, high) := i.scaled count i.high grid
  if i.closed then decide (low ≤ a) && decide (a ≤ high) else decide (low < a) && decide (a < high)

/-- The neighbours of the value on the grid, and whether the upper one is taken when both read
back. -/
def neighbours (i : Interval) (tie : Tie) (grid : Int) : Nat × Nat × Bool :=
  let (one, value) := i.scaled 1 i.value grid
  let below := value / one
  let upward :=
    if one = 2 * (value % one) then
      match tie with
      | .larger => true
      | .even => below % 2 == 1
    else decide (one < 2 * (value % one))
  (below, below + 1, upward)

/-- The neighbour that reads back, the nearer one if both do. -/
def hit? (i : Interval) (tie : Tie) (grid : Int) : Option Nat :=
  let (below, above, upward) := i.neighbours tie grid
  match i.holds grid below, i.holds grid above with
  | true, true => some (if upward then above else below)
  | true, false => some below
  | false, true => some above
  | false, false => none

end Interval

def stripZeros (fuel digits : Nat) : Nat :=
  match fuel with
  | 0 => digits
  | fuel + 1 => if digits % 10 = 0 then stripZeros fuel (digits / 10) else digits

/-- Seventeen digits always suffice, so the last grid is only reached with a hit. -/
def shortest (x : Binary64) (tie : Tie) : Decimal :=
  let i := x.interval
  let (num, den) := x.ratio
  let point := pointOf num den
  let grids := (List.range 17).map fun (k : Nat) => point - (k : Int) - 1
  match grids.findSome? fun grid => (i.hit? tie grid).map fun count => (grid, count) with
  | none => { digits := 0, count := 1, point := 0 }
  | some (grid, count) =>
    let digits := stripZeros 20 count
    { digits := digits
      count := (Numeral.write digits).length
      point := (Numeral.write count).length + grid }

/-- Where positional notation ends, what stands before an exponent of either sign, what follows a
whole number, and which way ties go. -/
structure Layout where
  leastPoint : Int
  greatestPoint : Int
  largeMark : Text
  smallMark : Text
  wholeTail : Text
  tie : Tie

/-- From `0.0001` up to below `10 ^ 16` numbers are positional, with a fraction of at least one
digit; all others have an exponent without padding. Ties go up. -/
def layout : Layout := ⟨-3, 16, ['e'], ['e', '-'], ['.', '0'], .larger⟩

def Decimal.positional (l : Layout) (d : Decimal) : Text :=
  let digits := Numeral.write d.digits
  if d.point ≤ 0 then ['0', '.'] ++ List.replicate (-d.point).toNat '0' ++ digits
  else if d.count ≤ d.point.toNat then
    digits ++ List.replicate (d.point.toNat - d.count) '0' ++ l.wholeTail
  else digits.take d.point.toNat ++ '.' :: digits.drop d.point.toNat

def Decimal.scientific (l : Layout) (d : Decimal) : Text :=
  let digits := Numeral.write d.digits
  let fraction := digits.drop 1
  let exponent := d.point - 1
  digits.take 1 ++ (if fraction.isEmpty then [] else '.' :: fraction) ++
    (if exponent < 0 then l.smallMark else l.largeMark) ++ Numeral.write exponent.natAbs

def Decimal.write (l : Layout) (d : Decimal) : Text :=
  if l.leastPoint ≤ d.point ∧ d.point ≤ l.greatestPoint then d.positional l else d.scientific l

/-- The text of a finite number in a given layout. -/
def writeIn (l : Layout) (x : Binary64) : Text :=
  let magnitude := if x.isZero then '0' :: l.wholeTail else (x.shortest l.tie).write l
  if x.isNegative then '-' :: magnitude else magnitude

/-- The text of a finite number. -/
def write (x : Binary64) : Text := x.writeIn layout

example : (ofRatio false 1 10).write = ['0', '.', '1'] := by decide +kernel

example : (ofRatio true 15 10000000).write = ['-', '1', '.', '5', 'e', '-', '6'] := by
  decide +kernel

example : (ofNatBits 1).write = ['5', 'e', '-', '3', '2', '4'] := by decide +kernel

example : (ofNat 1000000000000000).write = Numeral.write 1000000000000000 ++ ['.', '0'] := by
  decide +kernel

example : (ofNat 10000000000000000).write = ['1', 'e', '1', '6'] := by decide +kernel

end RemoteInterpreter.Binary64
