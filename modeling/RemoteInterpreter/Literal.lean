import RemoteInterpreter.Handle
import RemoteInterpreter.Binary64.Shortest
import RemoteInterpreter.Text.Escaped

/-!
# Literals

An argument is what a caller puts into an expression: a host value, which is written
as a literal, a handle, which is written as its variable, or source text, which is
pasted. A string literal stays on one line whatever the string holds.
-/

namespace RemoteInterpreter

inductive Arg where
  | null
  | bool (b : Bool)
  | int (n : Int)
  | float (x : Binary64)
  | str (s : Text)
  | list (items : List Arg)
  | tuple (items : List Arg)
  | map (entries : List (Arg × Arg))
  | handle (h : Handle)
  | raw (source : Text)
  deriving Repr, Inhabited

namespace Literal

/-- The control characters U+0000 to U+001F and U+007F to U+009F. -/
def isControl (c : Char) : Bool :=
  decide (c.toNat < 0x20) || (decide (0x7f ≤ c.toNat) && decide (c.toNat < 0xa0))

def quotedChar (c : Char) : Text :=
  if c = '\\' then ['\\', '\\']
  else if c = '"' then ['\\', '"']
  else if c = '\n' then ['\\', 'n']
  else if c = '\r' then ['\\', 'r']
  else if c = '\t' then ['\\', 't']
  else if isControl c then ['\\', 'x'] ++ Text.hexPadded 2 c.toNat
  else if c = '\u2028' ∨ c = '\u2029' then ['\\', 'u'] ++ Text.hexPadded 4 c.toNat
  else [c]

/-- A double-quoted literal. -/
def quote (s : Text) : Text := '"' :: s.flatMap quotedChar ++ ['"']

/-- Numbers that have no literal are written as calls. -/
def float (x : Binary64) : Text :=
  if x.isNaN then "float('nan')".toList
  else if x.isInfinite then
    if x.isNegative then "-float('inf')".toList else "float('inf')".toList
  else x.write

end Literal

namespace Arg

/-- Integers that fit a signed word of sixty-four bits are integers, all others are pasted. -/
def ofInt (n : Int) : Arg :=
  if -2 ^ 63 ≤ n ∧ n < 2 ^ 63 then .int n else .raw (Numeral.writeInt n)

mutual

def render : Arg → Text
  | .null => ['N', 'o', 'n', 'e']
  | .bool true => ['T', 'r', 'u', 'e']
  | .bool false => ['F', 'a', 'l', 's', 'e']
  | .int n => Numeral.writeInt n
  | .float x => Literal.float x
  | .str s => Literal.quote s
  | .list items => '[' :: renderItems items ++ [']']
  | .tuple [item] => '(' :: render item ++ [',', ')']
  | .tuple items => '(' :: renderItems items ++ [')']
  | .map entries => '\x7b' :: renderEntries entries ++ ['\x7d']
  | .handle h => h.name
  | .raw source => source

/-- The items with a comma between any two. -/
def renderItems : List Arg → Text
  | [] => []
  | [item] => render item
  | item :: rest => render item ++ ',' :: renderItems rest

def renderEntries : List (Arg × Arg) → Text
  | [] => []
  | [(key, value)] => render key ++ ':' :: ' ' :: render value
  | (key, value) :: rest => render key ++ ':' :: ' ' :: render value ++ ',' :: renderEntries rest

end

mutual

/-- Every handle inside an argument, depth first and with repetitions. -/
def handles : Arg → List Handle
  | .list items => handlesOfItems items
  | .tuple items => handlesOfItems items
  | .map entries => handlesOfEntries entries
  | .handle h => [h]
  | _ => []

def handlesOfItems : List Arg → List Handle
  | [] => []
  | item :: rest => handles item ++ handlesOfItems rest

def handlesOfEntries : List (Arg × Arg) → List Handle
  | [] => []
  | (key, value) :: rest => handles key ++ handles value ++ handlesOfEntries rest

end

end Arg

end RemoteInterpreter
