import RemoteInterpreter.Decode.Registry
import RemoteInterpreter.Value

/-!
# Builtin decoders

Floats that JSON cannot write, and complex numbers, have decoders of their own; sets, octet
strings and ranges are decoded as lists. The interpreter wraps floats unasked, so their decoder
has no encoder; all others come with one.
-/

namespace RemoteInterpreter.Decode

def floatTag : Text := "builtins.float".toList

def complexTag : Text := "builtins.complex".toList

/-- The three floats that JSON cannot write come as strings. -/
def specialFloat (inner : Json) : Except DecodeError Value :=
  let refused : Except DecodeError Value :=
    .error (.rejected floatTag ("expected nan, inf or -inf, got ".toList ++ inner.write))
  match inner with
  | .string s =>
    if s = "nan".toList then .ok (.float Binary64.nan)
    else if s = "inf".toList then .ok (.float (Binary64.infinity false))
    else if s = "-inf".toList then .ok (.float (Binary64.infinity true))
    else refused
  | _ => refused

/-- A part of a complex number is a float, or an integer that is taken for one. -/
def complexPart (v : Value) : Except DecodeError Value :=
  match v.asFloat? with
  | some x => .ok (.float x)
  | none => .error (.rejected complexTag ("expected a number, got ".toList ++ v.kind))

/-! The pack -/

def listEncoder : Text := "lambda v: list(v)".toList

def complexEncoder : Text := "lambda v: [v.real, v.imag]".toList

def builtins : List Entry :=
  [⟨floatTag, .float, none⟩,
   ⟨"builtins.set".toList, .items, some listEncoder⟩,
   ⟨"builtins.frozenset".toList, .items, some listEncoder⟩,
   ⟨"builtins.bytes".toList, .items, some listEncoder⟩,
   ⟨"builtins.bytearray".toList, .items, some listEncoder⟩,
   ⟨"builtins.range".toList, .items, some listEncoder⟩,
   ⟨complexTag, .complex, some complexEncoder⟩]

def registerAll (entries : List Entry) (r : Registry) : Registry :=
  entries.foldl (fun r e => r.register e) r

end RemoteInterpreter.Decode
