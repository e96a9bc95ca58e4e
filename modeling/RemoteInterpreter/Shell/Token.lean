import RemoteInterpreter.Shell.Source

/-!
# Tokens

The tokens of a script, and how messages name them.
-/

namespace RemoteInterpreter.Shell

inductive Token where
  | ending
  | newline
  | semicolon
  | ampersand
  | and
  | or
  | bar
  | opening
  | closing
  | endOfArm
  | redirection
  | word
  | reserved (name : String)
  deriving DecidableEq, Repr

/-- Words that end the list of commands before them. -/
def closers : List String := ["do", "done", "elif", "else", "esac", "fi", "then", "\x7d"]

def reserved : List String :=
  closers ++ ["!", "case", "for", "if", "in", "until", "while", "\x7b"]

namespace Token

/-- How a message names a token. -/
def shown : Token → String
  | .ending => "end of file"
  | .newline => "newline"
  | .semicolon => "\";\""
  | .ampersand => "\"&\""
  | .and => "\"&&\""
  | .or => "\"||\""
  | .bar => "\"|\""
  | .opening => "\"(\""
  | .closing => "\")\""
  | .endOfArm => "\";;\""
  | .redirection => "redirection"
  | .word => "word"
  | .reserved name => "\"" ++ name ++ "\""

/-- Whether a list of commands may end before a token. -/
def closesList : Token → Bool
  | .ending | .closing | .endOfArm => true
  | .reserved name => closers.contains name
  | _ => false

end Token

end RemoteInterpreter.Shell
