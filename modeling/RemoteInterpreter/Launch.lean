import RemoteInterpreter.Config
import RemoteInterpreter.Decode.Builtin
import RemoteInterpreter.Launch.Program
import RemoteInterpreter.Shell
import RemoteInterpreter.Simulation

/-!
# Launching an interpreter

The command line and the environment that a configuration gives the interpreter, and
the session that results. The library takes an interpreter as it comes, and nothing that
holds of sessions depends on which one it is. To have some that can be started, a disk
is laid out with shells and small tools, and whatever else is named as the interpreter
fails to start.
-/

namespace RemoteInterpreter.Launch

/-- The served program comes behind the arguments of the configuration. -/
def arguments (c : Config) : List Text :=
  c.args ++ ["-u".toList, "-c".toList, program] ++ if c.debug then ["--debug".toList] else []

/-- What is set for every interpreter. -/
def standing : Entries Text :=
  [("PYTHONIOENCODING".toList, "utf-8".toList), ("PYTHONUNBUFFERED".toList, ['1'])]

/-- The configuration overrides what is set for every interpreter. -/
def environment (c : Config) : Entries Text :=
  c.env.foldl (fun env v => env.insert v.1 v.2) standing

def hasNul (c : Config) : Bool :=
  (c.interpreter :: c.args ++ c.env.flatMap fun v => [v.1, v.2]).any (·.contains '\x00')

def notStarted (c : Config) (why : String) : ChannelError :=
  .spawn ("failed to start ".toList ++ c.interpreter ++ ": ".toList ++ why.toList)

def encoded (t : Text) : Text := Shell.octetChars (Text.encode t)

/-- No argument may be longer, with the mark at its end. -/
def longestArgument : Nat := 131072

/-- Where an interpreter is started. -/
def directory : Filesystem.Place := ["work".toList]

/-- What interpreters find set. The equals sign that comes first ends a name. -/
def inheritedBy (c : Config) : List (Text × Text) :=
  let inherited : List (Text × Text) :=
    [("HOME".toList, "/root".toList), ("PATH".toList, Filesystem.standardPath)]
  let all := inherited ++ (environment c).map fun v => (encoded v.1, encoded v.2)
  all.foldl (fun vs (name, t) =>
    match Text.cut? '=' name with
    | some (name, front) => Entries.insert name (front ++ '=' :: t) vs
    | none => Entries.insert name t vs) []

/-- A program that is named without a path is searched in the directories of the environment. -/
def spawn (c : Config) : Except ChannelError Interpreter :=
  let name := encoded c.interpreter
  let args := (arguments c).map encoded
  let environment := inheritedBy c
  let path := (environment.lookup "PATH".toList).getD []
  if hasNul c then .error (notStarted c "nul byte found in provided data")
  else if (name :: args).any fun a => longestArgument ≤ a.length then
    .error (notStarted c "Argument list too long (os error 7)")
  else
    match Filesystem.command .fresh path directory name with
    | .ok (path, x) => .ok (Shell.interpreter path x name args environment directory)
    | .error e =>
      .error (notStarted c (e.message ++ " (os error " ++ (Numeral.write e.number).str ++ ")"))

/-- What comes of starting a session. -/
inductive Started where
  | refused (e : Session.Error)
  /-- The builtin decoders could not be installed, and the interpreter was killed. -/
  | abandoned (e : Session.Error) (w : Simulation)
  | running (w : Simulation)

/-- What there is after a start. An interpreter that was killed is still there. -/
def Started.simulation? : Started → Option Simulation
  | .refused _ => none
  | .abandoned _ w | .running w => some w

/-- The stem is checked before anything is started. -/
def start (c : Config) : Started :=
  match Session.opened 0 c.stem c.debug with
  | .error e => .refused (.usage e)
  | .ok s =>
    match spawn c with
    | .error e => .refused (.channel e)
    | .ok interpreter =>
      let w := Simulation.empty.addSession (s.act .attach) (.interpreter interpreter)
      if !c.builtinDecoders then .running w
      else
        let (w, n) := w.begin 0 (.install Decode.builtins)
        let w := w.await 0 n
        match w.result? 0 n with
        | some (.error e) => .abandoned e (w.act 0 .kill).settle
        | _ => .running (w.drop 0 n)

/-- The lines on the standard error, awaited until there are so many. -/
def errorLinesFor : Nat → Nat → Simulation → List Text
  | fuel, wanted, w =>
    match (w.sites[0]?).bind Simulation.Site.output? with
    | none => []
    | some output =>
      let lines := Interpreter.linesAndRest output.errEnded output.err
      match fuel, w.letTimePass with
      | fuel + 1, some later =>
        if wanted ≤ lines.length then lines else errorLinesFor fuel wanted later.settle
      | _, _ => lines

def errorLines (wanted : Nat) (w : Simulation) : List Text := errorLinesFor 100 wanted w

end RemoteInterpreter.Launch
