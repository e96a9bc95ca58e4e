import RemoteInterpreter.Decode.Builtin
import RemoteInterpreter.Json.Reader

/-!
# Decoding

A payload is JSON in which a value of a type without a JSON form is wrapped: an
object of exactly the type key, which holds the tag, and the value key. Decoding
replaces every wrapper in place by what the decoder of its tag makes of the inner
value, and keeps the shape of everything else.
-/

namespace RemoteInterpreter

namespace Decode

def typeKey : Text := "%%hopi_t%%".toList

def valueKey : Text := "%%hopi_v%%".toList

/-- A whole number within a signed word is an integer, any other number a float. -/
def number : Json.Number → Value
  | .integer n => if -2 ^ 63 ≤ n ∧ n < 2 ^ 63 then .int n else .float (Binary64.ofInt n)
  | .float x => .float x

def wrapped (tag : Text) (inner : Value) : Value :=
  .map [("inner".toList, inner), ("tag".toList, .string tag)]

mutual

def decode (r : Registry) : Json → Except DecodeError Value
  | .null => .ok .null
  | .bool b => .ok (.bool b)
  | .number n => .ok (number n)
  | .string s => .ok (.string s)
  | .array items => (decodeItems r items).map .list
  | .object fields =>
    match decodeWrapper r fields with
    | some outcome => outcome
    | none => (decodeFields r fields).map .map

def decodeItems (r : Registry) : List Json → Except DecodeError (List Value)
  | [] => .ok []
  | item :: rest => do
    let item ← decode r item
    let rest ← decodeItems r rest
    return item :: rest

def decodeFields (r : Registry) : List (Text × Json) → Except DecodeError (List (Text × Value))
  | [] => .ok []
  | (key, value) :: rest => do
    let value ← decode r value
    let rest ← decodeFields r rest
    return (key, value) :: rest

/-- Nothing, unless the fields are those of a wrapper. -/
def decodeWrapper (r : Registry) : List (Text × Json) → Option (Except DecodeError Value)
  | [(key, .string tag), (key', inner)] =>
    if key = typeKey ∧ key' = valueKey then
      match r.find? tag with
      | none => some (.error (.unregistered tag))
      | some e =>
        match e.decoder with
        | .float => some (specialFloat inner)
        | .items =>
          match inner with
          | .array items => some ((decodeItems r items).map .list)
          | _ => some (.error (.conversion (.notAList inner.write)))
        | .complex =>
          match inner with
          | .array [a, b] => some (do
              let a ← (decode r a).bind complexPart
              let b ← (decode r b).bind complexPart
              return .list [a, b])
          | _ => some (.error (.rejected complexTag "expected [real, imag]".toList))
        | .delegate => some (decode r inner)
        | .constant text => some (.ok (.string text))
        | .reject reason => some (.error (.rejected tag reason))
        | .wrapOpaque => some (.ok (.opaqueValue ⟨tag, inner.write, 0⟩))
        | .wrapMap => some ((decode r inner).map (wrapped tag))
    else none
  | _ => none

end

/-- The value of a payload. -/
def payload (r : Registry) (text : Text) : Except DecodeError Value :=
  match Json.read? text with
  | none => .error .malformed
  | some j => decode r j

end Decode

end RemoteInterpreter
