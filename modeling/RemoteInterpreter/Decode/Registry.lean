import RemoteInterpreter.Text.Escaped

/-!
# Registries of decoders

An entry pairs the decoder of a type tag with the source of the encoder that the
interpreter uses for that type. A registry is its entries, the latest first, so the
last registration of a tag counts and an earlier registry is not touched by it.
-/

namespace RemoteInterpreter

/-- What a decoder makes of the value inside a wrapper. -/
inductive Decoder where
  | float
  | items
  | complex
  | delegate
  | constant (text : Text)
  | reject (reason : Text)
  | wrapOpaque
  | wrapMap
  deriving DecidableEq, Repr

structure Entry where
  tag : Text
  decoder : Decoder
  encoder : Option Text
  deriving DecidableEq, Repr

abbrev Registry := List Entry

namespace Registry

def register (e : Entry) (r : Registry) : Registry := e :: r

def find? : Registry → Text → Option Entry
  | [], _ => none
  | e :: rest, tag => if e.tag = tag then some e else find? rest tag

def isRegistered (r : Registry) (tag : Text) : Bool := (find? r tag).isSome

@[simp] theorem find?_nil (tag : Text) : find? [] tag = none := rfl

@[simp] theorem find?_register_self (e : Entry) (r : Registry) :
    find? (register e r) e.tag = some e := by simp [register, find?]

theorem find?_register_of_ne {e : Entry} {tag : Text} (h : e.tag ≠ tag) (r : Registry) :
    find? (register e r) tag = find? r tag := by simp [register, find?, h]

/-- The tags in order, each once. -/
def tags (r : Registry) : List Text := (Text.inOrder (r.map Entry.tag)).eraseReps

def shown (r : Registry) : String := "Decoder \x7b types: " ++ Text.shownList r.tags ++ " \x7d"

end Registry

end RemoteInterpreter
