import RemoteInterpreter.Entries
import RemoteInterpreter.Text.Escaped

/-!
# Configurations

How an interpreter is started and what its session is set up with. Two variables of
the environment choose the interpreter and switch its echo on.
-/

namespace RemoteInterpreter

structure Config where
  interpreter : Text
  args : List Text
  /-- Variables that are set on top of the inherited environment. -/
  env : Entries Text
  /-- The interpreter echoes every command. -/
  debug : Bool
  builtinDecoders : Bool
  stem : Text
  /-- Somebody collects the lines of the standard error. -/
  collectsErrors : Bool
  deriving DecidableEq, Repr

namespace Config

def default : Config :=
  ⟨"python3".toList, [], [], false, true, "_hopi_v".toList, false⟩

def withArg (arg : Text) (c : Config) : Config := { c with args := c.args ++ [arg] }

def withEnv (key value : Text) (c : Config) : Config :=
  { c with env := c.env.insert key value }

/-- The words that switch something on, in any case of their letters. -/
def isYes (flag : Text) : Bool :=
  ["1".toList, "true".toList, "yes".toList].contains ((Text.trim flag).map Char.toLower)

/-- A blank interpreter counts as none. -/
def ofEnvironment (interpreter debug : Option Text) : Config :=
  { default with
    interpreter :=
      match interpreter with
      | some i => if (Text.trim i).isEmpty then default.interpreter else i
      | none => default.interpreter
    debug := debug.any isYes }

def shownEnv (env : Entries Text) : String :=
  "\x7b" ++ String.intercalate ", " (env.map fun e => e.1.shown ++ ": " ++ e.2.shown) ++ "\x7d"

def shown (c : Config) : String :=
  "SessionConfig \x7b interpreter: " ++ c.interpreter.shown ++
    ", args: " ++ Text.shownList c.args ++ ", env: " ++ shownEnv c.env ++
    ", debug: " ++ toString c.debug ++
    ", builtin_decoders: " ++ toString c.builtinDecoders ++
    ", variable_prefix: " ++ c.stem.shown ++
    ", stderr: " ++ (if c.collectsErrors then "Some(\"<callback>\")" else "None") ++ " \x7d"

end Config

end RemoteInterpreter
