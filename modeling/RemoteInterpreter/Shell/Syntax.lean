import RemoteInterpreter.Text

/-!
# Shell scripts

The shell language: lists of commands, compound commands, redirections, and words with
parameters, commands and arithmetic in them. The shell works on octets; each is held as
the character of the same number.
-/

namespace RemoteInterpreter.Shell

/-- Which part of a value is cut off. -/
inductive Trim where
  | shortestPrefix
  | longestPrefix
  | shortestSuffix
  | longestSuffix
  deriving DecidableEq, Repr

/-- How a redirected file is opened. -/
inductive Opening where
  | reading
  | writing
  /-- Writing to a file that may be there already, whatever the options are. -/
  | replacing
  | appending
  | both
  deriving DecidableEq, Repr

mutual

/-- What is done to the value of a parameter. `empty` tells whether an empty value counts as
none. -/
inductive Operation where
  | plain
  | length
  | trimmed (trim : Trim) (pattern : List Piece)
  | orElse (empty : Bool) (word : List Piece)
  | orAssign (empty : Bool) (word : List Piece)
  | orFail (empty : Bool) (word : List Piece)
  | instead (empty : Bool) (word : List Piece)
  | bad

inductive Piece where
  | literal (quoted : Bool) (text : Text)
  /-- Quotes stood here, so there is a field even if it is empty. -/
  | mark
  | value (quoted : Bool) (name : Text) (operation : Operation)
  | output (quoted : Bool) (c : Command)
  | arithmetic (quoted : Bool) (word : List Piece)

inductive Redirect where
  | file (fd : Nat) (opening : Opening) (name : List Piece)
  | sameAs (fd : Nat) (source : List Piece)
  /-- A text inside the script. -/
  | text (fd : Nat) (word : List Piece)
  /-- A text inside the script that has not been read yet, by its number. -/
  | awaited (fd : Nat) (number : Nat)

inductive Command where
  | nothing
  | simple (line : Nat) (assignments : List (Text × List Piece)) (words : List (List Piece))
      (redirects : List Redirect)
  | both (first second : Command)
  | ifBoth (first second : Command)
  | ifNot (first second : Command)
  | negated (c : Command)
  | pipeline (stages : List Command)
  | background (line : Nat) (c : Command) (redirects : List Redirect)
  | loop (expected : Bool) (condition body : Command)
  | each (line : Nat) (name : Text) (items : Option (List (List Piece))) (body : Command)
  | branch (condition yes no : Command)
  | choice (line : Nat) (subject : List Piece) (arms : List Arm)
  | define (name : Text) (body : Command)
  | subshell (line : Nat) (c : Command) (redirects : List Redirect)
  | group (line : Nat) (c : Command) (redirects : List Redirect)

/-- Commands that are run if one of the patterns matches. -/
inductive Arm where
  | mk (patterns : List (List Piece)) (body : Command)

end

abbrev Word := List Piece

instance : Inhabited Command := ⟨.nothing⟩

/-- The texts inside a script are put where they are awaited. -/
def Redirect.fill (texts : List (Nat × Word)) : Redirect → Redirect
  | .awaited fd number => .text fd ((texts.lookup number).getD [])
  | r => r

mutual

def Command.fill (texts : List (Nat × Word)) : Command → Command
  | .nothing => .nothing
  | .simple line assignments words rs => .simple line assignments words (rs.map (·.fill texts))
  | .both a b => .both (a.fill texts) (b.fill texts)
  | .ifBoth a b => .ifBoth (a.fill texts) (b.fill texts)
  | .ifNot a b => .ifNot (a.fill texts) (b.fill texts)
  | .negated c => .negated (c.fill texts)
  | .pipeline stages => .pipeline (fillAll texts stages)
  | .background line c rs => .background line (c.fill texts) (rs.map (·.fill texts))
  | .loop expected condition body => .loop expected (condition.fill texts) (body.fill texts)
  | .each line name items body => .each line name items (body.fill texts)
  | .branch condition yes no => .branch (condition.fill texts) (yes.fill texts) (no.fill texts)
  | .choice line subject arms => .choice line subject (fillArms texts arms)
  | .define name body => .define name (body.fill texts)
  | .subshell line c rs => .subshell line (c.fill texts) (rs.map (·.fill texts))
  | .group line c rs => .group line (c.fill texts) (rs.map (·.fill texts))

def fillAll (texts : List (Nat × Word)) : List Command → List Command
  | [] => []
  | c :: cs => c.fill texts :: fillAll texts cs

def fillArms (texts : List (Nat × Word)) : List Arm → List Arm
  | [] => []
  | .mk patterns c :: arms => .mk patterns (c.fill texts) :: fillArms texts arms

end

/-- Why a script cannot be read, and the line where that shows. -/
structure SyntaxError where
  line : Nat
  message : Text
  /-- The end of the script was seen. -/
  ended : Bool

end RemoteInterpreter.Shell
