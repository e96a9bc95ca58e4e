import RemoteInterpreter.Shell.Number
import RemoteInterpreter.Shell.Syntax

/-!
# Shell patterns

A star stands for any text, a question mark for one character and a bracketed set for
one of its members. Quoted characters stand for themselves.
-/

namespace RemoteInterpreter.Shell

/-- A character with whether it was quoted. -/
abbrev Mark := Char × Bool

/-- Octets are compared as signed numbers. -/
def signed (c : Char) : Int := if c.toNat < 128 then c.toNat else c.toNat - 256

def isPrintable (c : Char) : Bool := ' ' ≤ c && c ≤ '~'

def inClass (name : String) (c : Char) : Bool :=
  match name with
  | "alnum" => c.isAlphanum
  | "alpha" => c.isAlpha
  | "blank" => c == ' ' || c == '\t'
  | "cntrl" => c < ' ' || c == '\x7f'
  | "digit" => c.isDigit
  | "graph" => isPrintable c && c != ' '
  | "lower" => c.isLower
  | "print" => isPrintable c
  | "punct" => isPrintable c && c != ' ' && !c.isAlphanum
  | "space" => isBlank c
  | "upper" => c.isUpper
  | "xdigit" => isDigitOf 16 c
  | _ => false

/-- The name of a class of characters behind its opening bracket, and what stands behind it. -/
def className? : List Mark → Option (Text × List Mark)
  | (':', false) :: p => go p
  | _ => none
where
  go : List Mark → Option (Text × List Mark)
  | (':', false) :: (']', false) :: p => some ([], p)
  | (c, _) :: p => (go p).map fun (name, p) => (c :: name, p)
  | [] => none

/-- Whether a character is in the set behind an opening bracket, and what stands behind the set.
The first member may be a closing bracket. -/
def inSet? (c : Char) : Nat → Bool → List Mark → Option (Bool × List Mark)
  | 0, _, _ => none
  | _ + 1, _, [] => none
  | fuel + 1, isFirst, (d, quoted) :: p =>
    let also (found : Bool) (p : List Mark) :=
      (inSet? c fuel false p).map fun (more, p) => (found || more, p)
    if d == ']' && !quoted && !isFirst then some (false, p)
    else
      match (if d == '[' && !quoted then className? p else none) with
      | some (name, p) => also (inClass name.str c) p
      | none =>
        match p with
        | ('-', false) :: (e, closing) :: p' =>
          if e == ']' && !closing then also (c == d) p
          else also (signed d ≤ signed c && signed c ≤ signed e) p'
        | _ => also (c == d) p

/-- Whether a character fits the set, and what stands behind it. -/
def fits? (c : Char) (p : List Mark) : Option (Bool × List Mark) :=
  match p with
  | ('!', false) :: p =>
    (inSet? c (p.length + 1) true p).map fun (found, p) => (!found, p)
  | p => inSet? c (p.length + 1) true p

/-- The number of steps is bounded by the lengths of pattern and text. -/
def matchesFor : Nat → List Mark → Text → Bool
  | 0, _, _ => false
  | _ + 1, [], t => t.isEmpty
  | fuel + 1, ('*', false) :: p, t =>
    matchesFor fuel p t ||
      match t with
      | [] => false
      | _ :: t => matchesFor fuel (('*', false) :: p) t
  | fuel + 1, ('?', false) :: p, _ :: t => matchesFor fuel p t
  | fuel + 1, ('[', false) :: p, c :: t =>
    match fits? c p with
    | some (found, p) => found && matchesFor fuel p t
    | none => c == '[' && matchesFor fuel p t
  | fuel + 1, (d, _) :: p, c :: t => c == d && matchesFor fuel p t
  | _ + 1, _ :: _, [] => false

/-- A backslash that came out of a value quotes the next character. -/
def withoutEscapes : List Mark → List Mark
  | ('\\', false) :: (c, _) :: p => (c, true) :: withoutEscapes p
  | m :: p => m :: withoutEscapes p
  | [] => []

def matchesText (p : List Mark) (t : Text) : Bool :=
  let p := withoutEscapes p
  matchesFor (p.length + t.length + 1) p t

/-- The text without the part that the pattern matches, or all of it. -/
def Trim.apply (trim : Trim) (p : List Mark) (t : Text) : Text :=
  let upward := List.range (t.length + 1)
  let downward := upward.reverse
  let cut (order : List Nat) (matched kept : Nat → Text) : Text :=
    match order.find? fun n => matchesText p (matched n) with
    | some n => kept n
    | none => t
  match trim with
  | .shortestPrefix => cut upward (t.take ·) (t.drop ·)
  | .longestPrefix => cut downward (t.take ·) (t.drop ·)
  | .shortestSuffix => cut downward (t.drop ·) (t.take ·)
  | .longestSuffix => cut upward (t.drop ·) (t.take ·)

end RemoteInterpreter.Shell
