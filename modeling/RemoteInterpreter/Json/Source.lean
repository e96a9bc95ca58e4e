import RemoteInterpreter.Numeral

/-!
# JSON source

What a text says before any number is computed and any escape is resolved. A field
that nobody asks for is only read this far, so its numbers may be too large and its
escapes may be halves of a pair.
-/

namespace RemoteInterpreter.Json

/-- A number as it is written. -/
structure Figure where
  negative : Bool
  whole : Text
  fraction : Text
  exponent : Option (Bool × Text)
  deriving DecidableEq, Repr

/-- A string is characters and four-digit escapes. -/
inductive Piece where
  | char (c : Char)
  | unit (code : Nat)
  deriving DecidableEq, Repr

inductive Source where
  | null
  | bool (b : Bool)
  | number (n : Figure)
  | string (s : List Piece)
  | array (items : List Source)
  | object (fields : List (List Piece × Source))
  deriving Repr, Inhabited

namespace Source

def isSpace (c : Char) : Bool := c == ' ' || c == '\t' || c == '\n' || c == '\r'

def skip (t : Text) : Text := t.dropWhile isSpace

def hexDigit? (c : Char) : Option Nat :=
  if '0' ≤ c ∧ c ≤ '9' then some (c.toNat - '0'.toNat)
  else if 'a' ≤ c ∧ c ≤ 'f' then some (c.toNat - 'a'.toNat + 10)
  else if 'A' ≤ c ∧ c ≤ 'F' then some (c.toNat - 'A'.toNat + 10)
  else none

def hexFour? (a b c d : Char) : Option Nat := do
  let a ← hexDigit? a
  let b ← hexDigit? b
  let c ← hexDigit? c
  let d ← hexDigit? d
  return ((a * 16 + b) * 16 + c) * 16 + d

def shortEscape? (c : Char) : Option Char :=
  if c = '"' then some '"'
  else if c = '\\' then some '\\'
  else if c = '/' then some '/'
  else if c = 'b' then some '\x08'
  else if c = 'f' then some '\x0c'
  else if c = 'n' then some '\n'
  else if c = 'r' then some '\r'
  else if c = 't' then some '\t'
  else none

/-- The pieces up to the closing quote, and what follows it. -/
def readPieces : Text → Option (List Piece × Text)
  | [] => none
  | '"' :: rest => some ([], rest)
  | '\\' :: 'u' :: a :: b :: c :: d :: rest => do
    let code ← hexFour? a b c d
    let (pieces, after) ← readPieces rest
    return (.unit code :: pieces, after)
  | '\\' :: e :: rest => do
    let c ← shortEscape? e
    let (pieces, after) ← readPieces rest
    return (.char c :: pieces, after)
  | c :: rest =>
    if c.toNat < 0x20 ∨ c = '\\' then none
    else do
      let (pieces, after) ← readPieces rest
      return (.char c :: pieces, after)

def digits (t : Text) : Text × Text := (t.takeWhile Char.isDigit, t.dropWhile Char.isDigit)

def readExponent (t : Text) : Option (Option (Bool × Text) × Text) :=
  match t with
  | e :: rest =>
    if e = 'e' ∨ e = 'E' then
      let (negative, rest) := match rest with
        | '+' :: rest => (false, rest)
        | '-' :: rest => (true, rest)
        | rest => (false, rest)
      let (figures, rest) := digits rest
      if figures.isEmpty then none else some (some (negative, figures), rest)
    else some (none, t)
  | [] => some (none, t)

def readFraction (t : Text) : Option (Text × Text) :=
  match t with
  | '.' :: rest =>
    let (figures, rest) := digits rest
    if figures.isEmpty then none else some (figures, rest)
  | t => some ([], t)

/-- A leading zero stands alone. -/
def readFigure (t : Text) : Option (Figure × Text) := do
  let (negative, t) := match t with
    | '-' :: rest => (true, rest)
    | t => (false, t)
  let (whole, t) := digits t
  if whole.isEmpty ∨ (whole.head? = some '0' ∧ 1 < whole.length) then none
  else
    let (fraction, t) ← readFraction t
    let (exponent, t) ← readExponent t
    return (⟨negative, whole, fraction, exponent⟩, t)

def readWord? (word : Text) (meaning : Source) (t : Text) : Option (Source × Text) :=
  if word.isPrefixOf t then some (meaning, t.drop word.length) else none

mutual

/-- A value without blanks in front; the first number bounds the values that may open. -/
def readValue : Nat → Text → Option (Source × Text)
  | 0, _ => none
  | _ + 1, [] => none
  | n + 1, c :: rest =>
    if c = '"' then do
      let (pieces, rest) ← readPieces rest
      return (.string pieces, rest)
    else if c = '[' then
      match skip rest with
      | ']' :: rest => some (.array [], rest)
      | rest => do
        let (items, rest) ← readItems n rest
        return (.array items, rest)
    else if c = '\x7b' then
      match skip rest with
      | '\x7d' :: rest => some (.object [], rest)
      | rest => do
        let (fields, rest) ← readFields n rest
        return (.object fields, rest)
    else if c = 'n' then readWord? ['n', 'u', 'l', 'l'] .null (c :: rest)
    else if c = 't' then readWord? ['t', 'r', 'u', 'e'] (.bool true) (c :: rest)
    else if c = 'f' then readWord? ['f', 'a', 'l', 's', 'e'] (.bool false) (c :: rest)
    else do
      let (figure, rest) ← readFigure (c :: rest)
      return (.number figure, rest)

def readItems : Nat → Text → Option (List Source × Text)
  | 0, _ => none
  | n + 1, t => do
    let (item, rest) ← readValue n (skip t)
    match skip rest with
    | ',' :: rest => do
      let (items, rest) ← readItems n rest
      return (item :: items, rest)
    | ']' :: rest => return ([item], rest)
    | _ => none

def readFields : Nat → Text → Option (List (List Piece × Source) × Text)
  | 0, _ => none
  | n + 1, t =>
    match skip t with
    | '"' :: rest => do
      let (key, rest) ← readPieces rest
      match skip rest with
      | ':' :: rest => do
        let (value, rest) ← readValue n (skip rest)
        match skip rest with
        | ',' :: rest => do
          let (fields, rest) ← readFields n rest
          return ((key, value) :: fields, rest)
        | '\x7d' :: rest => return ([(key, value)], rest)
        | _ => none
      | _ => none
    | _ => none

end

/-- The whole text as one value with blanks around it. Every value takes a character, so the bound
is never met. -/
def read? (t : Text) : Option Source :=
  match readValue (t.length + 1) (skip t) with
  | some (value, rest) => if (skip rest).isEmpty then some value else none
  | none => none

end Source

end RemoteInterpreter.Json
