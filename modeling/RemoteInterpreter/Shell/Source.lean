import RemoteInterpreter.Identifier
import RemoteInterpreter.Numeral
import RemoteInterpreter.Shell.Syntax

/-!
# The source of a script

What is left of a script while it is read, character by character. The text of an alias
stands before the rest; a mark behind it tells where it ends, since an alias does not
stand for itself in its own text.
-/

namespace RemoteInterpreter.Shell

/-- What is looked for in the next token. -/
structure Checks where
  /-- Line ends are skipped. -/
  lines : Bool
  /-- Words may be reserved. -/
  words : Bool
  /-- Words may be aliases. -/
  aliases : Bool
  /-- The word ends a text inside the script, so nothing in it is expanded. -/
  ending : Bool

def Checks.none : Checks := ⟨false, false, false, false⟩

def Checks.command : Checks := ⟨false, true, true, false⟩

def Checks.newCommand : Checks := ⟨true, true, true, false⟩

structure Source where
  rest : Text
  line : Nat
  /-- The end was seen. -/
  ended : Bool
  checks : Checks
  aliases : List (Text × Text)
  /-- The aliases whose texts are being read, the innermost first. -/
  within : List (List Text)
  /-- Aliases whose texts have just ended. -/
  leaving : List Text

/-- Ends the text of an alias. No octet is so great. -/
def aliasEnd : Char := '\u0100'

/-- Ends the text of an alias that ends in a blank. The next word may be an alias, too. -/
def aliasEndBlank : Char := '\u0101'

/-- What stands in a script does not hold the octet zero. -/
def Source.of (aliases : List (Text × Text)) (t : Text) : Source :=
  ⟨t.filter (· ≠ '\x00'), 1, false, .none, aliases, [], []⟩

namespace Source

def leave (blank : Bool) (s : Source) : Source :=
  { s with
    within := s.within.tail
    leaving := s.within.headD [] ++ s.leaving
    checks := { s.checks with aliases := s.checks.aliases || blank } }

def takeFrom (s : Source) : Text → Option Char × Source
  | [] => (none, { s with rest := [], ended := true })
  | c :: t =>
    if c = aliasEnd then takeFrom (s.leave false) t
    else if c = aliasEndBlank then takeFrom (s.leave true) t
    else (some c, { s with rest := t })

/-- The next character; there is none at the end. -/
def take (s : Source) : Option Char × Source := takeFrom { s with leaving := [] } s.rest

def unget (c : Option Char) (s : Source) : Source :=
  match c with
  | some c => { s with rest := c :: s.rest }
  | none => s

def nextLine (s : Source) : Source := { s with line := s.line + 1 }

/-- No script is longer. -/
def longest : Nat := 2 ^ 40

def takeJoinedFor : Nat → Source → Option Char × Source
  | 0, s => s.take
  | fuel + 1, s =>
    match s.take with
    | (some '\\', t) =>
      match t.take with
      | (some '\n', u) => takeJoinedFor fuel u.nextLine
      | _ => (some '\\', t)
    | r => r

/-- The next character, where a backslash at the end of a line joins it to the next one. -/
def takeJoined (s : Source) : Option Char × Source := takeJoinedFor longest s

def skipCommentFor : Nat → Source → Source
  | 0, s => s
  | fuel + 1, s =>
    match s.take with
    | (some '\n', _) => s
    | (none, t) => t
    | (some _, t) => skipCommentFor fuel t

def startFor : Nat → Source → Option Char × Source
  | 0, s => s.takeJoined
  | fuel + 1, s =>
    match s.takeJoined with
    | (some ' ', t) => startFor fuel t
    | (some '\t', t) => startFor fuel t
    | (some '#', t) => startFor fuel (skipCommentFor longest t)
    | r => r

/-- The first character of the next token. -/
def start (s : Source) : Option Char × Source := startFor longest s

def takeWhileFor (p : Char → Bool) : Nat → Text → Source → Text × Option Char × Source
  | 0, before, s => (before.reverse, none, s)
  | fuel + 1, before, s =>
    match s.takeJoined with
    | (some c, t) =>
      if p c then takeWhileFor p fuel (c :: before) t else (before.reverse, some c, t)
    | (none, t) => (before.reverse, none, t)

/-- Characters of a kind, and the one behind them. -/
def takeWhile (p : Char → Bool) (s : Source) : Text × Option Char × Source :=
  takeWhileFor p longest [] s

def isInUse (name : Text) (s : Source) : Bool :=
  s.leaving.contains name || s.within.any (·.contains name)

/-- The text that a word stands for, unless it stands in that text itself. -/
def alias? (name : Text) (s : Source) : Option Text :=
  if s.isInUse name then none else s.aliases.lookup name

/-- The text of an alias is read next. -/
def enter (name t : Text) (s : Source) : Source :=
  match t.getLast? with
  | none => s
  | some c =>
    let mark := if c = ' ' || c = '\t' then aliasEndBlank else aliasEnd
    { s with
      rest := t ++ mark :: s.rest
      within := (name :: s.leaving) :: s.within
      leaving := [] }

end Source

/-- Commands that no function may replace. -/
def specialCommands : List String :=
  [".", ":", "break", "continue", "eval", "exec", "exit", "export", "local", "readonly", "return",
   "set", "shift", "times", "trap", "unset"]

def isSpecial (name : Text) : Bool := specialCommands.contains name.str

/-- The names of parameters that are no letters. -/
def isParameterSign (c : Char) : Bool :=
  c == '#' || c == '?' || c == '$' || c == '@' || c == '*' || c == '-' || c == '!' || c.isDigit

/-- The name that a word assigns to, and the value behind it. -/
def assignedName? (t : Text) : Option (Text × Text) :=
  match t with
  | [] => none
  | c :: _ =>
    if Identifier.isStart c then
      match t.dropWhile Identifier.isPart with
      | '=' :: value => some (t.takeWhile Identifier.isPart, value)
      | _ => none
    else none

end RemoteInterpreter.Shell
