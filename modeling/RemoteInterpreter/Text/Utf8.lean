import RemoteInterpreter.Text

/-!
# UTF-8 with replacement

Every list of octets reads as text. Where the octets are not UTF-8, the longest
start of a character that is there becomes one replacement character, and reading
goes on at the first octet that did not fit.
-/

namespace RemoteInterpreter.Text

def encode (t : Text) : Octets := t.flatMap String.utf8EncodeChar

@[simp] theorem encode_nil : encode [] = [] := rfl

@[simp] theorem encode_append (t u : Text) : encode (t ++ u) = encode t ++ encode u := by
  simp [encode]

def replacement : Char := '\ufffd'

def continues (b : UInt8) : Bool := 0x80 ≤ b && b ≤ 0xbf

/-- The second octet of a three-octet character excludes overlong forms and surrogates. -/
def secondOfThree (lead b : UInt8) : Bool :=
  if lead = 0xe0 then 0xa0 ≤ b && b ≤ 0xbf
  else if lead = 0xed then 0x80 ≤ b && b ≤ 0x9f
  else continues b

/-- The second octet of a four-octet character excludes overlong forms and what lies past
U+10FFFF. -/
def secondOfFour (lead b : UInt8) : Bool :=
  if lead = 0xf0 then 0x90 ≤ b && b ≤ 0xbf
  else if lead = 0xf4 then 0x80 ≤ b && b ≤ 0x8f
  else continues b

def payload (b : UInt8) : Nat := b.toNat % 64

def decodeLossy : Octets → Text
  | [] => []
  | a :: rest =>
    if a < 0x80 then Char.ofNat a.toNat :: decodeLossy rest
    else if 0xc2 ≤ a && a ≤ 0xdf then
      match rest with
      | [] => [replacement]
      | b :: r =>
        if continues b then Char.ofNat (a.toNat % 32 * 64 + payload b) :: decodeLossy r
        else replacement :: decodeLossy (b :: r)
    else if 0xe0 ≤ a && a ≤ 0xef then
      match rest with
      | [] => [replacement]
      | b :: r =>
        if secondOfThree a b then
          match r with
          | [] => [replacement]
          | c :: r' =>
            if continues c then
              Char.ofNat ((a.toNat % 16 * 64 + payload b) * 64 + payload c) :: decodeLossy r'
            else replacement :: decodeLossy (c :: r')
        else replacement :: decodeLossy (b :: r)
    else if 0xf0 ≤ a && a ≤ 0xf4 then
      match rest with
      | [] => [replacement]
      | b :: r =>
        if secondOfFour a b then
          match r with
          | [] => [replacement]
          | c :: r' =>
            if continues c then
              match r' with
              | [] => [replacement]
              | d :: r'' =>
                if continues d then
                  Char.ofNat (((a.toNat % 8 * 64 + payload b) * 64 + payload c) * 64 + payload d)
                    :: decodeLossy r''
                else replacement :: decodeLossy (d :: r'')
            else replacement :: decodeLossy (c :: r')
        else replacement :: decodeLossy (b :: r)
    else replacement :: decodeLossy rest

@[simp] theorem decodeLossy_nil : decodeLossy [] = [] := rfl

example : decodeLossy [0x61, 0xc3, 0xa9, 0xff] = ['a', 'é', replacement] := by decide

example : decodeLossy [0xe2, 0x82, 0x41] = [replacement, 'A'] := by decide

end RemoteInterpreter.Text
