import RemoteInterpreter.Wire
import RemoteInterpreter.Json.Reader

/-!
# Messages as JSON

A message is an object of three fields; reading also takes an array of the three
values, and a tag that is the one key of an object. Unknown fields are skipped
unread, missing and repeated ones are refused.
-/

namespace RemoteInterpreter

/-- The names of the second and the third field of a message. -/
class FieldNames (τ : Type) where
  tagField : Text
  textField : Text

instance : FieldNames Kind := ⟨['k', 'i', 'n', 'd'], ['s', 'o', 'u', 'r', 'c', 'e']⟩

instance : FieldNames Status :=
  ⟨['s', 't', 'a', 't', 'u', 's'], ['p', 'a', 'y', 'l', 'o', 'a', 'd']⟩

namespace Message

variable {τ : Type} [LineTag τ] [FieldNames τ]

def idField : Text := ['i', 'd']

def toJson (m : Message τ) : Json :=
  .object
    [(idField, .number (.integer m.id)),
     (FieldNames.tagField τ, .string (LineTag.spelling m.tag)),
     (FieldNames.textField τ, .string m.text)]

def json (m : Message τ) : Text := m.toJson.write

def idOfSource? : Json.Source → Option Nat
  | .number f =>
    match f.number? with
    | some (.integer n) => if 0 ≤ n then some n.toNat else none
    | _ => none
  | _ => none

def textOfSource? : Json.Source → Option Text
  | .string pieces => Json.Piece.join? pieces
  | _ => none

def tagOfSource? : Json.Source → Option τ
  | .string pieces => (Json.Piece.join? pieces).bind LineTag.read?
  | .object [(pieces, .null)] => (Json.Piece.join? pieces).bind LineTag.read?
  | _ => none

/-- The fields read so far. -/
structure Draft (τ : Type) where
  id : Option Nat
  tag : Option τ
  text : Option Text

def Draft.read? (d : Draft τ) : List (List Json.Piece × Json.Source) → Option (Draft τ)
  | [] => some d
  | (pieces, value) :: rest => do
    let key ← Json.Piece.join? pieces
    if key = idField then
      if d.id.isSome then none
      else
        let id ← idOfSource? value
        Draft.read? { d with id := some id } rest
    else if key = FieldNames.tagField τ then
      if d.tag.isSome then none
      else
        let tag ← tagOfSource? value
        Draft.read? { d with tag := some tag } rest
    else if key = FieldNames.textField τ then
      if d.text.isSome then none
      else
        let text ← textOfSource? value
        Draft.read? { d with text := some text } rest
    else Draft.read? d rest

def ofSource? : Json.Source → Option (Message τ)
  | .object fields => do
    let d ← Draft.read? (τ := τ) ⟨none, none, none⟩ fields
    return ⟨← d.id, ← d.tag, ← d.text⟩
  | .array [id, tag, text] => do
    return ⟨← idOfSource? id, ← tagOfSource? tag, ← textOfSource? text⟩
  | _ => none

def ofJson? (t : Text) : Option (Message τ) := (Json.Source.read? t).bind ofSource?

end Message

end RemoteInterpreter
