import RemoteInterpreter.Text.Printable
import RemoteInterpreter.Text.Combining
import RemoteInterpreter.Numeral

/-!
# Escaped text

Text as it is shown in messages: in double quotes, on one line, and with a visible
escape for every character that would not show. Single quotes are kept.
-/

namespace RemoteInterpreter.Text

def hex (n : Nat) : Text := Nat.toDigits 16 n

/-- At least `width` lower-case hexadecimal digits, zeros in front. -/
def hexPadded (width n : Nat) : Text :=
  List.replicate (width - (hex n).length) '0' ++ hex n

def escapedChar (c : Char) : Text :=
  if c = '\x00' then ['\\', '0']
  else if c = '\t' then ['\\', 't']
  else if c = '\n' then ['\\', 'n']
  else if c = '\r' then ['\\', 'r']
  else if c = '"' then ['\\', '"']
  else if c = '\\' then ['\\', '\\']
  else if isCombining c || !isPrintable c then ['\\', 'u', '\x7b'] ++ hex c.toNat ++ ['\x7d']
  else [c]

def escaped (t : Text) : Text := '"' :: t.flatMap escapedChar ++ ['"']

/-- The escaped text as part of a message. -/
def shown (t : Text) : String := (escaped t).str

/-- A list of texts as part of a message. -/
def shownList (texts : List Text) : String :=
  "[" ++ String.intercalate ", " (texts.map shown) ++ "]"

example : escaped ['a', '"', '\n', 'é'] = ['"', 'a', '\\', '"', '\\', 'n', 'é', '"'] := by
  decide +kernel

end RemoteInterpreter.Text
