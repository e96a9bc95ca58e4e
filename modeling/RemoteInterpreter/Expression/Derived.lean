import RemoteInterpreter.Expression

/-!
# Expressions on a handle

Attributes, subscripts, operators and calls on the value of a handle. The handle is
always the first argument of the draft. The arguments of a call are positional, and
then at most one group of keyword arguments; between any two items stands one comma.
-/

namespace RemoteInterpreter

/-- The arithmetic operators between two operands. -/
inductive Operator where
  | add
  | sub
  | mul
  | div
  | mod
  deriving DecidableEq, Repr

def Operator.symbol : Operator → Char
  | .add => '+'
  | .sub => '-'
  | .mul => '*'
  | .div => '/'
  | .mod => '%'

namespace Draft

/-- The handle and then fragments and arguments in turn. -/
def onHandle (h : Handle) (fragments : List Text) (args : List Arg) : Draft :=
  ⟨[] :: fragments, .handle h :: args⟩

/-- A name is an attribute, any other text a subscript. -/
def attr (h : Handle) (name : Text) : Draft :=
  if Identifier.isName name then onHandle h ['.' :: name] []
  else onHandle h ['[' :: Literal.quote name ++ [']']] []

def subscript (h : Handle) (key : Arg) : Draft := onHandle h [['['], [']']] [key]

/-- An attribute for a text that is a name, and a subscript for every other key. -/
def item (h : Handle) : Arg → Draft
  | .str name => if Identifier.isName name then attr h name else subscript h (.str name)
  | key => subscript h key

/-- The text of a template directly behind the handle. -/
def raw (h : Handle) (template : Text) (args : List Arg) : Except UsageError Draft :=
  (Template.draft template args).map fun d => onHandle h d.fragments d.args

def binary (h : Handle) (op : Operator) (operand : Arg) : Draft :=
  ⟨[['('], [' ', op.symbol, ' '], [')']], [.handle h, operand]⟩

def negated (h : Handle) : Draft := ⟨[['(', '-'], [')']], [.handle h]⟩

end Draft

/-! Calls -/

inductive CallArg where
  | positional (value : Arg)
  | keywords (entries : List (Text × Arg))
  deriving Repr

namespace CallArg

def handles : CallArg → List Handle
  | .positional value => value.handles
  | .keywords entries => Arg.handlesOfItems (entries.map Prod.snd)

/-- An item is its value, and what stands before it: nothing, or a keyword and an equals sign. -/
abbrev Item := Text × Arg

def keywordItem (entry : Text × Arg) : Except UsageError Item :=
  if Identifier.isName entry.1 then .ok (entry.1 ++ ['='], entry.2)
  else .error (.badKeyword entry.1)

/-- All items in order. A keyword group is judged before what comes behind it. -/
def items : List CallArg → Except UsageError (List Item)
  | [] => .ok []
  | .positional value :: rest => do
    let rest ← items rest
    return ([], value) :: rest
  | .keywords entries :: rest => do
    let entries ← entries.mapM keywordItem
    if rest.isEmpty then return entries else throw .keywordsNotLast

/-- What stands before each item, the comma included. -/
def labels : List Item → List Text
  | [] => []
  | item :: rest => ('(' :: item.1) :: rest.map fun item => ',' :: item.1

end CallArg

namespace Draft

def call (h : Handle) (args : List CallArg) : Except UsageError Draft := do
  let items ← CallArg.items args
  let closing : Text := if items.isEmpty then ['(', ')'] else [')']
  return onHandle h (CallArg.labels items ++ [closing]) (items.map Prod.snd)

end Draft

end RemoteInterpreter
