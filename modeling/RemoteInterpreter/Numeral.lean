import RemoteInterpreter.Text

/-!
# Decimal numerals

Naturals are written in their canonical decimal form. Reading accepts any run of
digits, leading zeros included, so it inverts writing but has more inputs.
-/

namespace RemoteInterpreter.Numeral

def write (n : Nat) : Text := Nat.toDigits 10 n

def writeInt : Int → Text
  | .ofNat n => write n
  | .negSucc n => '-' :: write (n + 1)

def isNumeral (t : Text) : Bool := !t.isEmpty && t.all Char.isDigit

def value (digits : Text) : Nat := Nat.ofDigitChars 10 digits 0

def read? (t : Text) : Option Nat := if isNumeral t then some (value t) else none

@[simp] theorem value_write (n : Nat) : value (write n) = n :=
  Nat.ofDigitChars_toDigits (by decide) (by decide)

theorem isDigit_of_mem_write {n : Nat} {c : Char} (h : c ∈ write n) : c.isDigit = true :=
  Nat.isDigit_of_mem_toDigits (by decide) (by decide) h

@[simp] theorem isNumeral_write (n : Nat) : isNumeral (write n) = true := by
  have hne : write n ≠ [] := Nat.toDigits_ne_nil
  have hall : (write n).all Char.isDigit = true :=
    List.all_eq_true.2 fun _ h => isDigit_of_mem_write h
  simp [isNumeral, hall, hne]

@[simp] theorem read?_write (n : Nat) : read? (write n) = some n := by simp [read?]

/-- The numeral may have a plus sign in front and must lie below the bound. -/
def readBelow? (bound : Nat) (t : Text) : Option Nat :=
  let digits := match t with
    | '+' :: rest => rest
    | t => t
  match read? digits with
  | some n => if n < bound then some n else none
  | none => none

theorem write_ne_plus (n : Nat) (rest : Text) : write n ≠ '+' :: rest := by
  intro heq
  have := isDigit_of_mem_write (n := n) (c := '+') (by simp [heq])
  simp [Char.isDigit] at this

theorem readBelow?_write_eq (bound n : Nat) :
    readBelow? bound (write n) = if n < bound then some n else none := by
  unfold readBelow?
  split
  · next rest heq => exact absurd heq (write_ne_plus n rest)
  · simp

end RemoteInterpreter.Numeral
