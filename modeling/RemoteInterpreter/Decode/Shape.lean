import RemoteInterpreter.Decode

/-!
# Shapes

A caller may ask for a value of a given shape. The value is first turned into JSON,
and its JSON must then have the shape: integers pass for floats, but no float for an
integer, and fields that are not asked for do not matter.
-/

namespace RemoteInterpreter

inductive Shape where
  | bool
  | int64
  | nat8
  | nat64
  | float
  | text
  | optionalInt
  | ints
  | texts
  | intMap
  | intPair
  | point
  deriving DecidableEq, Repr

/-- A value of some shape. -/
inductive Shaped where
  | bool (b : Bool)
  | int (n : Int)
  | float (x : Binary64)
  | text (s : Text)
  | nothing
  | ints (ns : List Int)
  | texts (ss : List Text)
  | intMap (m : Entries Int)
  | point (x : Int) (y : Binary64)
  deriving DecidableEq, Repr

namespace Shape

def intWithin? (low high : Int) : Json → Option Int
  | .number (.integer n) => if low ≤ n ∧ n < high then some n else none
  | _ => none

def int64? : Json → Option Int := intWithin? (-2 ^ 63) (2 ^ 63)

def float? : Json → Option Binary64
  | .number (.integer n) => some (Binary64.ofInt n)
  | .number (.float x) => some x
  | _ => none

def text? : Json → Option Text
  | .string s => some s
  | _ => none

def each {α : Type} (read? : Json → Option α) : List Json → Option (List α)
  | [] => some []
  | j :: rest => do
    let a ← read? j
    let rest ← each read? rest
    return a :: rest

def eachField : Entries Json → Option (Entries Int)
  | [] => some []
  | (key, j) :: rest => do
    let n ← int64? j
    let rest ← eachField rest
    return (key, n) :: rest

def read? : Shape → Json → Option Shaped
  | .bool, .bool b => some (.bool b)
  | .int64, j => (int64? j).map .int
  | .nat8, j => (intWithin? 0 (2 ^ 8) j).map .int
  | .nat64, j => (intWithin? 0 (2 ^ 64) j).map .int
  | .float, j => (float? j).map .float
  | .text, j => (text? j).map .text
  | .optionalInt, .null => some .nothing
  | .optionalInt, j => (int64? j).map .int
  | .ints, .array items => (each int64? items).map .ints
  | .texts, .array items => (each text? items).map .texts
  | .intMap, .object fields => (eachField fields).map .intMap
  | .intPair, .array [a, b] => do
    let a ← int64? a
    let b ← int64? b
    return .ints [a, b]
  | .point, .array [x, y] => do
    let x ← int64? x
    let y ← float? y
    return .point x y
  | .point, .object fields => do
    let x ← (Entries.find? ['x'] fields).bind int64?
    let y ← (Entries.find? ['y'] fields).bind float?
    return .point x y
  | _, _ => none

end Shape

/-- The value as one of the given shape. -/
def Value.shaped (v : Value) (shape : Shape) : Except DecodeError Shaped :=
  match v.toJson? with
  | none => .error (.conversion (.noJson v.kind))
  | some j =>
    match shape.read? j with
    | none => .error (.conversion .otherShape)
    | some s => .ok s

end RemoteInterpreter
