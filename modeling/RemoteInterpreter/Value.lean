import RemoteInterpreter.Json

/-!
# Values

What the interpreter's answers decode to. Maps list their entries by key. An opaque
value wraps what a custom decoder built; it is equal to its own copies only, which
its identity tells apart. A payload may not become a value, and a value may not fit the
type asked for.
-/

namespace RemoteInterpreter

structure Opaque where
  tag : Text
  content : Text
  identity : Int
  deriving DecidableEq, Repr

def Opaque.shown (o : Opaque) : String := "Opaque(" ++ o.tag.str ++ ")"

inductive Value where
  | null
  | bool (b : Bool)
  | int (n : Int)
  | float (x : Binary64)
  | string (s : Text)
  | list (items : List Value)
  | map (entries : List (Text × Value))
  | opaqueValue (o : Opaque)
  deriving Repr, Inhabited

namespace Value

def kind : Value → Text
  | .null => "null".toList
  | .bool _ => "bool".toList
  | .int _ => "int".toList
  | .float _ => "float".toList
  | .string _ => "string".toList
  | .list _ => "list".toList
  | .map _ => "map".toList
  | .opaqueValue _ => "opaque".toList

def isNull : Value → Bool
  | .null => true
  | _ => false

def asBool? : Value → Option Bool
  | .bool b => some b
  | _ => none

def asInt? : Value → Option Int
  | .int n => some n
  | _ => none

/-- Integers count as floats. -/
def asFloat? : Value → Option Binary64
  | .int n => some (Binary64.ofInt n)
  | .float x => some x
  | _ => none

def asText? : Value → Option Text
  | .string s => some s
  | _ => none

def asList? : Value → Option (List Value)
  | .list items => some items
  | _ => none

def asMap? : Value → Option (Entries Value)
  | .map entries => some entries
  | _ => none

def asOpaque? : Value → Option Opaque
  | .opaqueValue o => some o
  | _ => none

def item? (v : Value) (i : Nat) : Option Value := v.asList?.bind fun items => items[i]?

def entry? (v : Value) (key : Text) : Option Value := v.asMap?.bind (Entries.find? key)

mutual

/-- JSON has no form for opaque values and for floats that are not finite. -/
def toJson? : Value → Option Json
  | .null => some .null
  | .bool b => some (.bool b)
  | .int n => some (.number (.integer n))
  | .float x => if x.isFinite then some (.number (.float x)) else none
  | .string s => some (.string s)
  | .list items => (itemsToJson? items).map .array
  | .map entries => (entriesToJson? entries).map .object
  | .opaqueValue _ => none

def itemsToJson? : List Value → Option (List Json)
  | [] => some []
  | item :: rest => do
    let item ← toJson? item
    let rest ← itemsToJson? rest
    return item :: rest

def entriesToJson? : List (Text × Value) → Option (List (Text × Json))
  | [] => some []
  | (key, value) :: rest => do
    let value ← toJson? value
    let rest ← entriesToJson? rest
    return (key, value) :: rest

end

mutual

/-- Floats are compared as numbers and opaque values by identity. -/
def same : Value → Value → Bool
  | .null, .null => true
  | .bool a, .bool b => a == b
  | .int a, .int b => a == b
  | .float a, .float b => a.same b
  | .string a, .string b => a == b
  | .list a, .list b => sameItems a b
  | .map a, .map b => sameEntries a b
  | .opaqueValue a, .opaqueValue b => a.identity == b.identity
  | _, _ => false

def sameItems : List Value → List Value → Bool
  | [], [] => true
  | a :: as, b :: bs => same a b && sameItems as bs
  | _, _ => false

def sameEntries : List (Text × Value) → List (Text × Value) → Bool
  | [], [] => true
  | (k, a) :: as, (l, b) :: bs => k == l && same a b && sameEntries as bs
  | _, _ => false

end

end Value

/-! Errors -/

/-- Why a value is not what was asked for. -/
inductive Misfit where
  | notAList (json : Text)
  | noJson (kind : Text)
  | otherShape
  deriving DecidableEq, Repr

inductive DecodeError where
  | unregistered (tag : Text)
  | malformed
  | rejected (tag reason : Text)
  | conversion (misfit : Misfit)
  deriving DecidableEq, Repr

def Misfit.message : Misfit → String
  | .notAList json => "cannot convert value: expected a list, got " ++ json.str
  | .noJson kind => "cannot convert value: " ++ kind.str ++ " value has no JSON representation"
  | .otherShape => "cannot convert value"

def DecodeError.message : DecodeError → String
  | .unregistered tag => "no decoder registered for type " ++ tag.str
  | .malformed => "malformed payload"
  | .rejected tag reason => "decoder for " ++ tag.str ++ " rejected value: " ++ reason.str
  | .conversion misfit => misfit.message

end RemoteInterpreter
