import RemoteInterpreter.Shell.Builtin.Basic
import RemoteInterpreter.Shell.Token

/-!
# Names of commands

The builtin commands that tell what a name stands for: a reserved word, an alias, a
function, a builtin command or a program that is searched.
-/

namespace RemoteInterpreter.Shell.Builtin

/-! Aliases -/

def showAlias (name t : Text) : Act Unit := print (name ++ '=' :: quoted t ++ ['\n'])

/-- An equals sign at the beginning belongs to the name. -/
def aliasParts (t : Text) : Text × Option Text :=
  match t with
  | [] => ([], none)
  | c :: rest =>
    match Text.cut? '=' rest with
    | some (front, value) => (c :: front, some value)
    | none => (t, none)

def defineAliases (args : List Text) : Act Unit := do
  setStatus 0
  match args with
  | [] =>
    for (name, t) in inRows (← strand).aliases do
      showAlias name t
  | args =>
    for arg in args do
      match aliasParts arg with
      | (name, some t) => changeStrand fun s => { s with aliases := put name t s.aliases }
      | (name, none) =>
        match (← strand).aliases.lookup name with
        | some t => showAlias name t
        | none =>
          writeError ("alias: ".toList ++ name ++ " not found\n".toList)
          setStatus 1

def unalias (args : List Text) : Act Unit := do
  let (os, names) ← options ['a'] args
  setStatus 0
  if os.contains 'a' then changeStrand fun s => { s with aliases := [] }
  else
    for name in names do
      if ((← strand).aliases.lookup name).isSome then
        changeStrand fun s => { s with aliases := without name s.aliases }
      else
        writeError ("unalias: ".toList ++ name ++ " not found\n".toList)
        setStatus 1

/-! Programs -/

/-- Where a command is found that is named without a slash. -/
def trackedPath? (name : Text) : Act (Option Text) := do
  let s ← strand
  match s.tracked.lookup name with
  | some path => return some path
  | none =>
    match Filesystem.command (← world).disk s.searchPath s.directory name with
    | .ok (path, _) => return some path
    | .error _ => return none

def track (name path : Text) : Act Unit := do
  if !name.contains '/' then
    changeStrand fun s => { s with tracked := put name path s.tracked }

/-- Tells what a name stands for. -/
def describeOne (verbose : Bool) (name : Text) : Act Unit := do
  let say (brief : Text) (kind : String) : Act Unit :=
    print ((if verbose then name ++ " is ".toList ++ kind.toList else brief) ++ ['\n'])
  let s ← strand
  if reserved.contains name.str then say name "a shell keyword"
  else
    match s.aliases.lookup name with
    | some t =>
      if verbose then print (name ++ " is an alias for ".toList ++ t ++ ['\n'])
      else
        print "alias ".toList
        showAlias name t
    | none =>
      if (s.functions.lookup name).isSome then say name "a shell function"
      else if isSpecial name then say name "a special shell builtin"
      else if isBuiltin name then say name "a shell builtin"
      else
        let isTracked := (s.tracked.lookup name).isSome
        match ← trackedPath? name with
        | some path =>
          let kind := if isTracked then "a tracked alias for ".toList else []
          print ((if verbose then name ++ " is ".toList ++ kind ++ path else path) ++ ['\n'])
          track name path
        | none =>
          if verbose then print (name ++ ": not found\n".toList)
          setStatus 127

def describe (verbose : Bool) (names : List Text) : Act Unit := do
  setStatus 0
  names.forM (describeOne verbose)

/-- The options that tell what a name stands for. -/
def describeNamed (args : List Text) : Act Unit := do
  let (os, names) ← options ['p', 'v', 'V'] args
  setStatus 0
  if os.contains 'v' || os.contains 'V' then describe (os.contains 'V') (names.take 1)

/-- Where a script is found that is run in the same shell. -/
def scriptPath (path : Text) : Act Text := do
  if path.contains '/' then return path
  else
    let s ← strand
    let disk := (← world).disk
    let isFile (t : Text) : Bool := match disk.find s.directory t with
      | .ok (_, ⟨.file _, _, _⟩) | .ok (_, ⟨.program _, _, _⟩) => true
      | _ => false
    let candidates := (Text.splitAt ':' s.searchPath).map fun d =>
      if d.isEmpty then path else d ++ '/' :: path
    match candidates.find? isFile with
    | some t => return t
    | none => fail (path ++ ": not found".toList)

def hash (args : List Text) : Act Unit := do
  let (os, names) ← options ['r'] args
  setStatus 0
  if os.contains 'r' then changeStrand fun s => { s with tracked := [] }
  else if names.isEmpty then
    for (_, path) in inRows ((← strand).tracked) do
      print (path ++ ['\n'])
  else
    for name in names do
      if !name.contains '/' && !isBuiltin name then
        match ← trackedPath? name with
        | some path => track name path
        | none =>
          complain (name ++ ": not found".toList)
          setStatus 1

end RemoteInterpreter.Shell.Builtin
