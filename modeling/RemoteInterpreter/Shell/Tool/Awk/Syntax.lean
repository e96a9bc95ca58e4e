import RemoteInterpreter.Shell.Tool.Awk.Lexeme

/-!
# The syntax of scripts

A script is a list of rules: what is done before the input, behind it, and for the records
that fit. Functions have names, and so have variables and tables.
-/

namespace RemoteInterpreter.Shell.Tool.Awk

inductive Operation where
  | add | sub | mul | div | rem | pow
  deriving DecidableEq

inductive Relation where
  | eq | ne | lt | le | gt | ge
  deriving DecidableEq

mutual

/-- What a value can be put into. -/
inductive Place where
  | variable (name : String)
  | element (table : String) (indices : List Expr)
  | field (e : Expr)

inductive Expr where
  | number (x : Binary64)
  | text (t : Text)
  /-- Whether the record fits. -/
  | pattern (m : Matcher)
  | place (p : Place)
  /-- What stands in parentheses. -/
  | group (e : Expr)
  | assign (p : Place) (e : Expr)
  | update (o : Operation) (p : Place) (e : Expr)
  /-- Counts up or down. The value is the one before or the one behind. -/
  | count (up isBefore : Bool) (p : Place)
  | calculate (o : Operation) (a b : Expr)
  | negate (e : Expr)
  | plus (e : Expr)
  | not (e : Expr)
  | compare (r : Relation) (a b : Expr)
  | fits (isInverted : Bool) (t pattern : Expr)
  | both (a b : Expr)
  | either (a b : Expr)
  | choose (c a b : Expr)
  | join (a b : Expr)
  | member (indices : List Expr) (table : String)
  | call (function : String) (args : List Expr)
  | builtin (name : String) (args : List Expr)
  /-- Splits a text into the parts of a table. -/
  | split (t : Expr) (table : String) (separator : Option Expr)
  /-- Replaces what fits a pattern, once or everywhere. -/
  | replace (everywhere : Bool) (pattern new : Expr) (p : Place)
  | readMain (into : Option Place)
  | readFile (path : Expr) (into : Option Place)
  | readCommand (command : Expr) (into : Option Place)

end

instance : Inhabited Expr := ⟨.text []⟩

inductive OutletKind where
  | file
  | appended
  | command
  deriving DecidableEq

inductive Statement where
  | nothing
  | block (ss : List Statement)
  | expression (e : Expr)
  | print (args : List Expr) (out : Option (OutletKind × Expr))
  | printf (args : List Expr) (out : Option (OutletKind × Expr))
  | when (c : Expr) (yes no : Statement)
  /-- Whether the condition is looked at before the first turn, and what is done behind each
  turn. -/
  | loop (isBefore : Bool) (c : Option Expr) (behind : Option Expr) (body : Statement)
  | each (name table : String) (body : Statement)
  | break
  | continue
  | next
  | nextFile
  | exit (e : Option Expr)
  | return (e : Option Expr)
  | delete (table : String) (indices : List Expr)

instance : Inhabited Statement := ⟨.nothing⟩

/-- Which records a rule is for. -/
inductive Choice where
  | all
  | one (e : Expr)
  /-- From a record that fits to one that fits, and the number of the range. -/
  | range (n : Nat) (first last : Expr)

structure Rule where
  choice : Choice
  /-- Nothing prints the record. -/
  body : Option Statement

structure Function where
  name : String
  params : List String
  /-- Those that stand for tables. -/
  tables : List String
  body : Statement

structure Program where
  begins : List Statement
  rules : List Rule
  ends : List Statement
  functions : List Function
  /-- Names of tables. -/
  tables : List String

def Program.function? (name : String) (p : Program) : Option Function :=
  p.functions.find? (·.name = name)

end RemoteInterpreter.Shell.Tool.Awk
