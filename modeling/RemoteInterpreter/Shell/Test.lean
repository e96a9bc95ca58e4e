import RemoteInterpreter.Filesystem
import RemoteInterpreter.Shell.Number

/-!
# Tests

The conditions of a shell: operators on texts, numbers and files, joined by words for
and, or and not, with parentheses. Whether a word is an operator depends on its
neighbours.
-/

namespace RemoteInterpreter.Shell.Test

inductive Operator where
  | unary
  | binary
  | negation
  | conjunction
  | disjunction
  | opening
  | closing
  deriving DecidableEq, Repr

def operator? (t : Text) : Option Operator :=
  match t.str with
  | "!" => some .negation
  | "-a" => some .conjunction
  | "-o" => some .disjunction
  | "(" => some .opening
  | ")" => some .closing
  | s =>
    if ["-b", "-c", "-d", "-e", "-f", "-G", "-g", "-h", "-k", "-L", "-n", "-O", "-p", "-r", "-S",
        "-s", "-t", "-u", "-w", "-x", "-z"].contains s then some .unary
    else if ["=", "!=", "<", ">", "-eq", "-ne", "-ge", "-gt", "-le", "-lt", "-nt", "-ot",
        "-ef"].contains s then some .binary
    else none

/-- What a word is where it stands. -/
inductive Token where
  | ending
  | operand
  | operator (o : Operator)
  deriving DecidableEq, Repr

def isBinary (t : Text) : Bool := operator? t = some .binary

/-- An operator that lacks its operands is an operand. -/
def token : List Text → Token
  | [] => .ending
  | t :: rest =>
    match operator? t, rest with
    | none, _ => .operand
    | some .unary, [] => .operand
    | some .unary, s :: _ :: _ => if isBinary s then .operand else .operator .unary
    | some .opening, [] => .operand
    | some o, _ => .operator o

inductive Kind where
  | directory
  | file
  | device
  | pipe
  | link
  deriving DecidableEq, Repr

/-- What a condition needs to know of what a path leads to. -/
structure Found where
  identity : Nat × Filesystem.Place
  kind : Kind
  mode : Nat
  stamp : Nat
  size : Nat

abbrev Judge := StateT (List Text) (Except Text)

section

variable (look : Bool → Text → Option Found)

def here : Judge Token := do return token (← get)

def after : Judge Token := do return token (← get).tail

def word : Judge Text := do return (← get).headD []

def step : Judge Unit := modify List.tail

def complain {α : Type} (op : Text) (why : String) : Judge α :=
  throw (if op.isEmpty then why.toList else op ++ ": ".toList ++ why.toList)

def number (t : Text) : Judge Int :=
  match decimal? t with
  | some n => return n
  | none => throw ("Illegal number: ".toList ++ t)

/-- A condition on what a path leads to. Everything may be read and written. -/
def ofFile (op : Text) (path : Text) : Bool :=
  match look (op ≠ "-h".toList && op ≠ "-L".toList) path with
  | none => false
  | some f =>
    match op.str with
    | "-e" | "-r" | "-w" | "-O" | "-G" => true
    | "-h" | "-L" => f.kind = .link
    | "-d" => f.kind = .directory
    | "-f" => f.kind = .file
    | "-p" => f.kind = .pipe
    | "-c" => f.kind = .device
    | "-s" => 0 < f.size
    | "-x" => f.mode &&& 0o111 ≠ 0
    | "-k" => f.mode &&& 0o1000 ≠ 0
    | "-g" => f.mode &&& 0o2000 ≠ 0
    | "-u" => f.mode &&& 0o4000 ≠ 0
    | _ => false

def ofOne (op operand : Text) : Judge Bool :=
  match op.str with
  | "-n" => return !operand.isEmpty
  | "-z" => return operand.isEmpty
  | "-t" => do
    let _ ← number operand
    return false
  | _ => return ofFile look op operand

def ofTwo (a op b : Text) : Judge Bool :=
  let compare (holds : Int → Int → Bool) : Judge Bool := do
    return holds (← number a) (← number b)
  match op.str with
  | "=" => return a = b
  | "!=" => return a ≠ b
  | "<" => return a < b
  | ">" => return b < a
  | "-eq" => compare fun m n => m = n
  | "-ne" => compare fun m n => m ≠ n
  | "-ge" => compare fun m n => n ≤ m
  | "-gt" => compare fun m n => n < m
  | "-le" => compare fun m n => m ≤ n
  | "-lt" => compare fun m n => m < n
  | _ =>
    match look true a, look true b with
    | some f, some g =>
      match op.str with
      | "-nt" => return g.stamp < f.stamp
      | "-ot" => return f.stamp < g.stamp
      | _ => return f.identity = g.identity
    | _, _ => return false

mutual

/-- Every reader ends at the last word that belongs to it. -/
def disjunction : Nat → Token → Judge Bool
  | 0, _ => return false
  | fuel + 1, t => do
    let a ← conjunction fuel t
    if (← after) = .operator .disjunction then
      step
      step
      let b ← disjunction fuel (← here)
      return a || b
    else return a

def conjunction : Nat → Token → Judge Bool
  | 0, _ => return false
  | fuel + 1, t => do
    let a ← negation fuel t
    if (← after) = .operator .conjunction then
      step
      step
      let b ← conjunction fuel (← here)
      return a && b
    else return a

def negation : Nat → Token → Judge Bool
  | 0, _ => return false
  | fuel + 1, t => do
    if t ≠ .operator .negation then primary fuel t
    else
      let next ← after
      if next ≠ .ending then step
      return !(← negation fuel next)

def primary : Nat → Token → Judge Bool
  | 0, _ => return false
  | fuel + 1, t => do
    match t with
    | .ending => return false
    | .operator .opening =>
      step
      let next ← here
      if next = .operator .closing then return false
      else
        let value ← disjunction fuel next
        step
        if (← here) ≠ .operator .closing then complain [] "closing paren expected"
        else return value
    | .operator .unary =>
      let op ← word
      step
      if (← get).isEmpty then complain op "argument expected" else ofOne look op (← word)
    | _ =>
      let a ← word
      if (← after) = .operator .binary then
        step
        let op ← word
        step
        if (← get).isEmpty then complain op "argument expected" else ofTwo look a op (← word)
      else return !a.isEmpty

end

def judgeAll (t : Token) (args : List Text) : Except Text Bool := do
  let (value, rest) ← (disjunction look (4 * args.length + 8) t).run args
  match rest with
  | t :: _ :: _ => throw (t ++ ": unexpected operator".toList)
  | _ => return value

/-- With few words an operator in the middle comes first, then parentheses, then a negation. -/
def judge : List Text → Except Text Bool
  | [] => .ok false
  | [a, b, c] =>
    if isBinary b then judgeAll look .operand [a, b, c]
    else if a = ['('] && c = [')'] then judgeAll look (token [b]) [b]
    else if a = ['!'] then (judge [b, c]).map fun v => !v
    else judgeAll look (token [a, b, c]) [a, b, c]
  | [a, b, c, d] =>
    if a = ['('] && d = [')'] then judgeAll look (token [b, c]) [b, c]
    else if a = ['!'] then (judge [b, c, d]).map fun v => !v
    else judgeAll look (token [a, b, c, d]) [a, b, c, d]
  | args => judgeAll look (token args) args

end

end RemoteInterpreter.Shell.Test
