import RemoteInterpreter.Shell.Number

/-!
# Backslash escapes

The escapes of formats, and those of echoed texts, where octal numbers begin with a
zero and one escape ends the output.
-/

namespace RemoteInterpreter.Shell

def isOctal (c : Char) : Bool := isDigitOf 8 c

def octet (n : Nat) : Char := Char.ofNat (n % 256)

def simpleEscape? (c : Char) : Option Char :=
  match c with
  | 'a' => some (octet 7)
  | 'b' => some (octet 8)
  | 'e' => some (octet 27)
  | 'f' => some (octet 12)
  | 'n' => some '\n'
  | 'r' => some '\r'
  | 't' => some '\t'
  | 'v' => some (octet 11)
  | '\\' => some '\\'
  | _ => none

/-- The character of an escape, from behind its backslash, and what stands behind it. A backslash
before anything else is one. -/
def escape (t : Text) : Char × Text :=
  match t with
  | [] => ('\\', [])
  | c :: rest =>
    match simpleEscape? c with
    | some d => (d, rest)
    | none =>
      let digits := (t.take 3).takeWhile isOctal
      if digits.isEmpty then ('\\', t) else (octet (valueIn 8 digits), t.drop digits.length)

theorem length_escape (t : Text) : (escape t).2.length ≤ t.length := by
  unfold escape
  split
  · simp
  · split
    · simp
    · dsimp only
      split <;> simp

/-- A text with its escapes undone, and whether it ends the output. -/
def unescape : Text → Text × Bool
  | '\\' :: 'c' :: _ => ([], true)
  | '\\' :: '0' :: t =>
    let digits := (t.take 3).takeWhile isOctal
    let (u, ends) := unescape (t.drop digits.length)
    (octet (valueIn 8 digits) :: u, ends)
  | '\\' :: t =>
    let (u, ends) := unescape (escape t).2
    ((escape t).1 :: u, ends)
  | c :: t =>
    let (u, ends) := unescape t
    (c :: u, ends)
  | [] => ([], false)
termination_by t => t.length
decreasing_by
  · simp; omega
  · exact Nat.lt_succ_of_le (length_escape t)
  · simp

/-- What is echoed: texts with blanks between them, up to one that ends the output. -/
def echoed : List Text → Text × Bool
  | [] => ([], false)
  | [t] => unescape t
  | t :: ts =>
    match unescape t with
    | (u, true) => (u, true)
    | (u, false) =>
      let (v, ends) := echoed ts
      (u ++ ' ' :: v, ends)

end RemoteInterpreter.Shell
