import RemoteInterpreter.Identifier
import RemoteInterpreter.Shell.Source
import RemoteInterpreter.Shell.Strands

/-!
# Arguments of builtin commands

What builtin commands share: their names, options, numbers and quoted texts.
-/

namespace RemoteInterpreter.Shell.Builtin

def ordinary : List String :=
  ["[", "alias", "bg", "cd", "chdir", "command", "echo", "false", "fg", "getopts", "hash", "jobs",
   "kill", "printf", "pwd", "read", "test", "true", "type", "ulimit", "umask", "unalias", "wait"]

def isBuiltin (name : Text) : Bool := isSpecial name || ordinary.contains name.str

/-- Words behind these may be assignments. -/
def declares (name : Text) : Bool := ["export", "local", "readonly"].contains name.str

def illegalNumber {α : Type} (t : Text) : Act α := fail ("Illegal number: ".toList ++ t)

def count (t : Text) : Act Nat := do
  match count? t with
  | some n => return n
  | none => illegalNumber t

def illegalOption {α : Type} (c : Char) : Act α := fail ("Illegal option -".toList ++ [c])

/-- The options before the operands. -/
def options (known : List Char) : List Text → Act (List Char × List Text)
  | [] => return ([], [])
  | ['-', '-'] :: rest => return ([], rest)
  | ('-' :: c :: cs) :: rest => do
    match (c :: cs).find? fun c => !known.contains c with
    | some c => illegalOption c
    | none =>
      let (os, operands) ← options known rest
      return (c :: cs ++ os, operands)
  | operands => return ([], operands)

def ensureName (t : Text) : Act Unit := do
  if !Identifier.isIdentifier t then fail (t ++ ": bad variable name".toList)

def quotedFor : Nat → Text → Text
  | 0, t => t
  | fuel + 1, t =>
    let front := t.takeWhile (· ≠ '\'')
    let rest := t.drop front.length
    let marks := rest.takeWhile (· = '\'')
    let behind := rest.drop marks.length
    let shown := '\'' :: front ++ ['\'']
    if marks.isEmpty then shown
    else
      let shown := shown ++ '"' :: marks ++ ['"']
      if behind.isEmpty then shown else shown ++ quotedFor fuel behind

/-- A text in quotes, as it could stand in a script. -/
def quoted (t : Text) : Text := quotedFor (t.length + 1) t

end RemoteInterpreter.Shell.Builtin
