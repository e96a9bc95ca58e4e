import RemoteInterpreter.Instances

/-!
# Binary64 numbers

A floating-point number is its sixty-four bits. Arithmetic is exact on naturals and
rounded once at the end, to the nearest number and to the even one of two equally
near. Only what the library needs is here: conversion, scaling and comparison.
-/

namespace RemoteInterpreter

structure Binary64 where
  bits : UInt64
  deriving DecidableEq, Repr, Inhabited

namespace Binary64

def ofNatBits (n : Nat) : Binary64 := ⟨UInt64.ofNat n⟩

def isNegative (x : Binary64) : Bool := decide (2 ^ 63 ≤ x.bits.toNat)

def exponentField (x : Binary64) : Nat := x.bits.toNat / 2 ^ 52 % 2048

def fractionField (x : Binary64) : Nat := x.bits.toNat % 2 ^ 52

def isNaN (x : Binary64) : Bool := x.exponentField == 2047 && x.fractionField != 0

def isInfinite (x : Binary64) : Bool := x.exponentField == 2047 && x.fractionField == 0

def isFinite (x : Binary64) : Bool := x.exponentField != 2047

def isZero (x : Binary64) : Bool := x.exponentField == 0 && x.fractionField == 0

/-- A finite number is its significand times two to its scale, up to sign. -/
def significand (x : Binary64) : Nat :=
  if x.exponentField = 0 then x.fractionField else 2 ^ 52 + x.fractionField

def scale (x : Binary64) : Int :=
  if x.exponentField = 0 then -1074 else (x.exponentField : Int) - 1075

def signBit (negative : Bool) : Nat := if negative then 2 ^ 63 else 0

def zero (negative : Bool) : Binary64 := ofNatBits (signBit negative)

def infinity (negative : Bool) : Binary64 := ofNatBits (signBit negative + 2047 * 2 ^ 52)

def nan : Binary64 := ofNatBits (0x7ff8 * 2 ^ 48)

def negate (x : Binary64) : Binary64 :=
  ofNatBits (x.bits.toNat % 2 ^ 63 + signBit (!x.isNegative))

/-- The nearest natural to a ratio, the even one of two. -/
def nearest (num den : Nat) : Nat :=
  let q := num / den
  let r := num % den
  if 2 * r < den then q
  else if den < 2 * r then q + 1
  else if q % 2 = 0 then q else q + 1

/-- Numerator and denominator of `num / den * 2 ^ k`. -/
def shifted (num den : Nat) (k : Int) : Nat × Nat :=
  (num * 2 ^ k.toNat, den * 2 ^ (-k).toNat)

/-- The scale at which the ratio has a significand of fifty-three bits, but never below that of
the least positive number. -/
def scaleOfRatio (num den : Nat) : Int :=
  let guess : Int := (num.log2 : Int) - (den.log2 : Int) - 53
  let (n, d) := shifted num den (-guess)
  let fit := if n < 2 ^ 53 * d then guess else guess + 1
  max fit (-1074)

/-- The number nearest to a ratio; a ratio past the largest number gives infinity. -/
def ofRatio (negative : Bool) (num den : Nat) : Binary64 :=
  if num = 0 then zero negative
  else
    let e := scaleOfRatio num den
    let (n, d) := shifted num den (-e)
    let magnitude := (e + 1074).toNat * 2 ^ 52 + nearest n d
    if 2047 * 2 ^ 52 ≤ magnitude then infinity negative
    else ofNatBits (signBit negative + magnitude)

def ofNat (n : Nat) : Binary64 := ofRatio false n 1

def ofInt (i : Int) : Binary64 := ofRatio (decide (i < 0)) i.natAbs 1

/-- Numerator and denominator of a finite magnitude. -/
def ratio (x : Binary64) : Nat × Nat := shifted x.significand 1 x.scale

def mul (x y : Binary64) : Binary64 :=
  let (a, b) := x.ratio
  let (c, d) := y.ratio
  ofRatio (x.isNegative != y.isNegative) (a * c) (b * d)

def div (x y : Binary64) : Binary64 :=
  let (a, b) := x.ratio
  let (c, d) := y.ratio
  ofRatio (x.isNegative != y.isNegative) (a * d) (b * c)

/-- The number a thirty-two bit pattern stands for; every such number is a binary64 number. -/
def ofBinary32 (pattern : Nat) : Binary64 :=
  let negative := decide (2 ^ 31 ≤ pattern)
  let exponent : Nat := pattern / 2 ^ 23 % 256
  let fraction : Nat := pattern % 2 ^ 23
  if exponent = 255 then if fraction = 0 then infinity negative else nan
  else
    let m : Nat := if exponent = 0 then fraction else 2 ^ 23 + fraction
    let e : Int := if exponent = 0 then -149 else (exponent : Int) - 150
    let (n, d) := shifted m 1 e
    ofRatio negative n d

/-- Equality of numbers: the two zeros are equal, and nothing equals a NaN. -/
def same (x y : Binary64) : Bool :=
  !x.isNaN && !y.isNaN && (x == y || (x.isZero && y.isZero))

example : (ofInt 1).bits = 0x3ff0000000000000 ∧ (ofInt (-2)).bits = 0xc000000000000000 := by
  decide +kernel

example : (ofNat 9007199254740993).bits = 0x4340000000000000 := by decide +kernel

example : (ofBinary32 0x3dcccccd).bits = 0x3fb99999a0000000 := by decide +kernel

end Binary64

end RemoteInterpreter
