import RemoteInterpreter.Text.Printable
import RemoteInterpreter.Text.Utf8

/-!
# Names in messages

Tools quote the names in their messages so that it is clear where they end and so that
nothing in them is taken for something else. Octets are held as the characters of the
same number; where texts are UTF-8 its characters may stand in a message.
-/

namespace RemoteInterpreter.Shell.Tool

/-- The characters of a text, each by its octets. What is no character is an octet. -/
def charactersFor : Nat → Text → List Text
  | 0, _ | _, [] => []
  | fuel + 1, c :: rest =>
    let size :=
      if c < '\u0080' then 1
      else
        let isNext (d : Char) : Bool := '\u0080' ≤ d && d ≤ '\u00bf'
        let n := if '\u00c2' ≤ c && c ≤ '\u00df' then 2
          else if '\u00e0' ≤ c && c ≤ '\u00ef' then 3
          else if '\u00f0' ≤ c && c ≤ '\u00f4' then 4 else 1
        let front := (c :: rest).take n
        let octets := front.map fun d => UInt8.ofNat d.toNat
        if front.length = n && (rest.take (n - 1)).all isNext then
          if (Text.decodeLossy octets).length = 1 then n else 1
        else 1
    (c :: rest).take size :: charactersFor fuel ((c :: rest).drop size)

def characters (unicode : Bool) (t : Text) : List Text :=
  if unicode then charactersFor t.length t else t.map fun c => [c]

/-- The code point of a character by its octets, if it is one. -/
def codePoint? (t : Text) : Option Char :=
  match Text.decodeLossy (t.map fun d => UInt8.ofNat d.toNat) with
  | [c] => if c = Text.replacement && t.length ≠ 3 then none else some c
  | _ => none

/-- Whether a character may stand in a message. -/
def isShowable (t : Text) : Bool :=
  match t with
  | [c] => ' ' ≤ c && c ≤ '~'
  | t => (codePoint? t).any Text.isPrintable

/-- Three octal digits. -/
def octal (c : Char) : Text :=
  let digits := Nat.toDigits 8 c.toNat
  '\\' :: (List.replicate (3 - digits.length) '0' ++ digits)

/-- How a character is shown that may not stand in a message. -/
def escapedChar (t : Text) : Text :=
  match t with
  | ['\x07'] => ['\\', 'a']
  | ['\x08'] => ['\\', 'b']
  | ['\x0c'] => ['\\', 'f']
  | ['\n'] => ['\\', 'n']
  | ['\r'] => ['\\', 'r']
  | ['\t'] => ['\\', 't']
  | ['\x0b'] => ['\\', 'v']
  | t => t.flatMap octal

/-- A text between the quotes of the language of messages. -/
def quote (unicode : Bool) (t : Text) : Text :=
  let shown := (characters unicode t).flatMap fun c =>
    if c = ['\\'] then ['\\', '\\']
    else if c = ['\''] && !unicode then ['\\', '\'']
    else if isShowable c then c
    else escapedChar c
  if unicode then "\u00e2\u0080\u0098".toList ++ shown ++ "\u00e2\u0080\u0099".toList
  else '\'' :: shown ++ ['\'']

/-- Characters that mean nothing to a shell. -/
def isPlain (c : Char) : Bool := c.isAlphanum || "%+,-./]_@:".toList.contains c

/-- Characters that mean the same between two kinds of quotes. -/
def isCompatible (c : Char) : Bool :=
  isPlain c || c == ' ' || c == '\'' || c == '#' || c == '~' || c == '\x7b' || c == '\x7d'

/-- Runs of characters that may stand in a message, and of others. -/
def runsOf (unicode : Bool) (t : Text) : List (Bool × List Text) :=
  (characters unicode t).foldr (fun c runs =>
    match runs with
    | (b, cs) :: more =>
      if b = isShowable c then (b, c :: cs) :: more else (isShowable c, [c]) :: runs
    | [] => [(isShowable c, [c])]) []

/-- A text as a shell reads it, in quotes. -/
def quoteFully (unicode : Bool) (t : Text) : Text :=
  if t.contains '\'' && t.all isCompatible then '"' :: t ++ ['"']
  else
    let body := (runsOf unicode t).zipIdx.flatMap fun ((isFine, cs), i) =>
      if isFine then
        let inner := cs.flatMap fun c => if c = ['\''] then "'\\''".toList else c
        '\'' :: inner ++ ['\'']
      else
        (if i = 0 then ['\'', '\''] else []) ++ "$'".toList ++ cs.flatMap escapedChar ++ ['\'']
    if body.isEmpty then ['\'', '\''] else body

/-- Whether a text needs no quotes. -/
def needsNoQuotes (unicode : Bool) (t : Text) : Bool :=
  !t.isEmpty && t ≠ ['\x7b'] && t ≠ ['\x7d'] && t.head? ≠ some '#' && t.head? ≠ some '~' &&
    (characters unicode t).all fun c => match c with
      | [d] => isPlain d || d == '#' || d == '~' || d == '\x7b' || d == '\x7d'
      | c => isShowable c

/-- A text as a shell reads it, in quotes only if it needs them. -/
def quoteIfNeeded (unicode : Bool) (t : Text) : Text :=
  if needsNoQuotes unicode t then t else quoteFully unicode t

/-- The same where a colon stands behind the text. -/
def quoteName (unicode : Bool) (t : Text) : Text :=
  if needsNoQuotes unicode t && !t.contains ':' then t else quoteFully unicode t

end RemoteInterpreter.Shell.Tool
