import RemoteInterpreter.Entries
import RemoteInterpreter.Binary64.Shortest
import RemoteInterpreter.Text.Escaped

/-!
# JSON trees

A number is an integer if it is written as one and fits the machine's words, and a
float otherwise. Objects list their fields by key. Trees are written in the compact
form: no blanks, fields in the order of the tree, and in strings only what must be
escaped is escaped.
-/

namespace RemoteInterpreter

inductive Json.Number where
  | integer (n : Int)
  | float (x : Binary64)
  deriving DecidableEq, Repr

inductive Json where
  | null
  | bool (b : Bool)
  | number (n : Json.Number)
  | string (s : Text)
  | array (items : List Json)
  | object (fields : List (Text × Json))
  deriving Repr, Inhabited

namespace Json

def escape (c : Char) : Text :=
  if c = '"' then ['\\', '"']
  else if c = '\\' then ['\\', '\\']
  else if c = '\x08' then ['\\', 'b']
  else if c = '\x0c' then ['\\', 'f']
  else if c = '\n' then ['\\', 'n']
  else if c = '\r' then ['\\', 'r']
  else if c = '\t' then ['\\', 't']
  else if c.toNat < 0x20 then ['\\', 'u'] ++ Text.hexPadded 4 c.toNat
  else [c]

def quote (s : Text) : Text := '"' :: s.flatMap escape ++ ['"']

/-- Floats are positional from `0.00001` up to below `10 ^ 16`, all others have an exponent with
its sign. A tie goes to the even digit. -/
def floatLayout : Binary64.Layout := ⟨-4, 16, ['e', '+'], ['e', '-'], ['.', '0'], .even⟩

def Number.write : Number → Text
  | .integer n => Numeral.writeInt n
  | .float x => x.writeIn floatLayout

example : (Number.float (Binary64.ofNat 10000000000000000)).write = ['1', 'e', '+', '1', '6'] := by
  decide +kernel

example :
    (Number.float (Binary64.ofRatio false 4503599627370497 4)).write =
      Numeral.write 1125899906842624 ++ ['.', '2'] := by
  decide +kernel

mutual

def write : Json → Text
  | .null => ['n', 'u', 'l', 'l']
  | .bool true => ['t', 'r', 'u', 'e']
  | .bool false => ['f', 'a', 'l', 's', 'e']
  | .number n => n.write
  | .string s => quote s
  | .array items => '[' :: writeItems items ++ [']']
  | .object fields => '\x7b' :: writeFields fields ++ ['\x7d']

def writeItems : List Json → Text
  | [] => []
  | [item] => write item
  | item :: rest => write item ++ ',' :: writeItems rest

def writeFields : List (Text × Json) → Text
  | [] => []
  | [(key, value)] => quote key ++ ':' :: write value
  | (key, value) :: rest => quote key ++ ':' :: write value ++ ',' :: writeFields rest

end

end Json

end RemoteInterpreter
