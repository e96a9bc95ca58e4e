import RemoteInterpreter.Identifier
import RemoteInterpreter.Shell.Number

/-!
# Arithmetic expressions

The expressions of a shell: integers, variables, assignments and the usual operators.
What the value does not depend on is read but not reckoned.
-/

namespace RemoteInterpreter.Shell.Arithmetic

inductive Token where
  | number (n : Int)
  | named (name : Text)
  | symbol (s : String)
  | bad
  deriving DecidableEq, Repr

/-- The longer ones come first. -/
def symbols : List String :=
  ["<<=", ">>=", "<<", ">>", "<=", ">=", "==", "!=", "&&", "||", "*=", "/=", "%=", "+=", "-=",
   "&=", "^=", "|=", "=", "<", ">", "*", "/", "%", "+", "-", "&", "^", "|", "!", "~", "(", ")",
   "?", ":"]

def tokensFor : Nat → Text → List Token
  | 0, _ => []
  | _ + 1, [] => []
  | fuel + 1, c :: t =>
    if c == ' ' || c == '\t' || c == '\n' then tokensFor fuel t
    else if c.isDigit then
      let a := integerAhead true (c :: t)
      .number a.value :: tokensFor fuel a.behind
    else if Identifier.isStart c then
      .named (c :: t.takeWhile Identifier.isPart) ::
        tokensFor fuel (t.dropWhile Identifier.isPart)
    else
      match symbols.find? fun s => s.toList.isPrefixOf (c :: t) with
      | some s => .symbol s :: tokensFor fuel ((c :: t).drop s.length)
      | none => .bad :: tokensFor fuel t

def tokens (t : Text) : List Token := tokensFor (t.length + 1) t

structure Reckoning where
  tokens : List Token
  /-- What was assigned, the latest first. -/
  assigned : List (Text × Int)

/-- Why an expression has no value. -/
inductive Fault where
  | bad (what : String)
  | notANumber (value : Text)

abbrev Reckon := StateT Reckoning (Except Fault)

section

variable (outside : Text → Text)

def peek : Reckon (Option Token) := do return (← get).tokens.head?

def skip : Reckon Unit := modify fun r => { r with tokens := r.tokens.tail }

def fault {α : Type} (what : String) : Reckon α := throw (.bad what)

/-- What was assigned counts more than what a variable is outside. -/
def lookup (name : Text) : Reckon Int := do
  match (← get).assigned.lookup name with
  | some n => return n
  | none =>
    match valueOf? (outside name) with
    | some n => return n
    | none => throw (.notANumber (outside name))

def truth (b : Bool) : Int := if b then 1 else 0

def toBits (n : Int) : Nat := (n % 2 ^ 64).toNat

def bitwise (f : Nat → Nat → Nat) (a b : Int) : Int := wrap (f (toBits a) (toBits b))

def apply (op : String) (a b : Int) : Reckon Int :=
  match op with
  | "*" => return wrap (a * b)
  | "/" => if b = 0 then fault "division by zero" else return wrap (a.tdiv b)
  | "%" => if b = 0 then fault "division by zero" else return a.tmod b
  | "+" => return wrap (a + b)
  | "-" => return wrap (a - b)
  | "<<" => return wrap (a * 2 ^ (toBits b % 64))
  | ">>" => return a / 2 ^ (toBits b % 64)
  | "<" => return truth (a < b)
  | "<=" => return truth (a ≤ b)
  | ">" => return truth (b < a)
  | ">=" => return truth (b ≤ a)
  | "==" => return truth (a = b)
  | "!=" => return truth (a ≠ b)
  | "&" => return bitwise (· &&& ·) a b
  | "^" => return bitwise (· ^^^ ·) a b
  | _ => return bitwise (· ||| ·) a b

/-- How tightly an operator binds; the tightest is the least. -/
def rank? : Token → Option (String × Nat)
  | .symbol s =>
    let rank : Option Nat := match s with
      | "*" | "/" | "%" => some 0
      | "+" | "-" => some 1
      | "<<" | ">>" => some 2
      | "<" | "<=" | ">" | ">=" => some 3
      | "==" | "!=" => some 4
      | "&" => some 5
      | "^" => some 6
      | "|" => some 7
      | _ => none
    rank.map fun r => (s, r)
  | _ => none

def assignment? : Token → Option String
  | .symbol "=" => some ""
  | .symbol s =>
    if ["<<=", ">>=", "*=", "/=", "%=", "+=", "-=", "&=", "^=", "|="].contains s then
      some (String.ofList s.toList.dropLast)
    else none
  | _ => none

mutual

/-- An assignment, or a choice. -/
def expression : Nat → Bool → Reckon Int
  | 0, _ => fault "expecting primary"
  | fuel + 1, live => do
    match (← get).tokens with
    | .named name :: op :: rest =>
      match assignment? op with
      | none => choice fuel live
      | some op =>
        set { ← get with tokens := rest }
        let value ← expression fuel live
        if !live then return value
        else
          let value ← if op = "" then pure value else apply op (← lookup outside name) value
          modify fun r => { r with assigned := (name, value) :: r.assigned }
          return value
    | _ => choice fuel live

def choice : Nat → Bool → Reckon Int
  | 0, _ => fault "expecting primary"
  | fuel + 1, live => do
    let condition ← disjunction fuel live
    if (← peek) = some (.symbol "?") then
      skip
      let yes ← expression fuel (live && condition ≠ 0)
      if (← peek) ≠ some (.symbol ":") then fault "expecting ':'"
      else
        skip
        let no ← choice fuel (live && condition = 0)
        return if condition ≠ 0 then yes else no
    else return condition

def disjunction : Nat → Bool → Reckon Int
  | 0, _ => fault "expecting primary"
  | fuel + 1, live => do
    let a ← conjunction fuel live
    if (← peek) = some (.symbol "||") then
      skip
      let b ← disjunction fuel (live && a = 0)
      return truth (a ≠ 0 || b ≠ 0)
    else return a

def conjunction : Nat → Bool → Reckon Int
  | 0, _ => fault "expecting primary"
  | fuel + 1, live => do
    let a ← operations fuel live 8
    if (← peek) = some (.symbol "&&") then
      skip
      let b ← conjunction fuel (live && a ≠ 0)
      return truth (a ≠ 0 && b ≠ 0)
    else return a

/-- Operators that bind tighter than the rank. -/
def operations : Nat → Bool → Nat → Reckon Int
  | 0, _, _ => fault "expecting primary"
  | fuel + 1, live, rank => do further fuel live rank (← operand fuel live)

def further : Nat → Bool → Nat → Int → Reckon Int
  | 0, _, _, _ => fault "expecting primary"
  | fuel + 1, live, rank, a => do
    match (← peek).bind rank? with
    | none => return a
    | some (op, r) =>
      if rank ≤ r then return a
      else
        skip
        let b ← operations fuel live r
        let value ← if live then apply op a b else pure b
        further fuel live rank value

def operand : Nat → Bool → Reckon Int
  | 0, _ => fault "expecting primary"
  | fuel + 1, live => do
    match ← peek with
    | some (.number n) => skip; return n
    | some (.named name) => skip; if live then lookup outside name else return 0
    | some (.symbol "(") =>
      skip
      let value ← expression fuel live
      if (← peek) ≠ some (.symbol ")") then fault "expecting ')'"
      else
        skip
        return value
    | some (.symbol "+") => skip; operand fuel live
    | some (.symbol "-") => skip; return wrap (-(← operand fuel live))
    | some (.symbol "!") => skip; return truth ((← operand fuel live) = 0)
    | some (.symbol "~") => skip; return -(← operand fuel live) - 1
    | _ => fault "expecting primary"

end

end

/-- The value of an expression and what it assigns, in order. -/
def reckon (outside : Text → Text) (t : Text) : Except Fault (Int × List (Text × Int)) := do
  let all := tokens t
  let (value, r) ← (expression outside (10 * all.length + 20) true).run ⟨all, []⟩
  if r.tokens.isEmpty then return (value, r.assigned.reverse)
  else throw (.bad "expecting EOF")

end RemoteInterpreter.Shell.Arithmetic
