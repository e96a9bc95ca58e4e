import RemoteInterpreter.Shell.Builtin.Variables

/-!
# The beginning of a shell

The variables that a shell begins with, and what it keeps of the strand that it begins
in.
-/

namespace RemoteInterpreter.Shell

/-- How long it takes until a program has taken the place of another one, in nanoseconds. What was
put aside is closed only then. -/
def startingTime : Nat := 1000000

def ownVariables : Variables :=
  [("IFS", blanks), ("PATH", Filesystem.standardPath), ("PS1", "# ".toList), ("PS2", "> ".toList),
   ("PS4", "+ ".toList), ("OPTIND", ['1'])].map fun (name, t) =>
    (name.toList, ⟨some t, false, false⟩)

/-- A shell takes its variables from the environment, but neither the separators nor the word whose
options are got. -/
def initialVariables (environment : List (Text × Text)) : Variables :=
  let taken := environment.filter fun v => Identifier.isIdentifier v.1
  let vs := taken.foldl (fun vs (name, t) => put name (⟨some t, true, false⟩ : Variable) vs)
    ownVariables
  let restore (name : String) (t : Text) (vs : Variables) : Variables :=
    let v := (vs.lookup name.toList).getD .unset
    put name.toList { v with value := some t } vs
  restore "PPID" ['1'] (restore "OPTIND" ['1'] (restore "IFS" blanks vs))

/-- The path by which the directory was entered, if the environment tells it rightly. -/
def pathOfStart (d : Disk) (s : Strand) : Text :=
  let told := (s.value? "PWD".toList).filter fun t =>
    Filesystem.isAbsolute t && (match d.find s.directory t with
      | .ok (place, _) => place = s.directory
      | .error _ => false)
  told.getD (Filesystem.pathOf s.directory)

/-- A shell that begins in a strand. -/
def Strand.asShell (d : Disk) (name : Text) (s : Strand) : Strand :=
  let path := pathOfStart d s
  let vars := initialVariables s.environment
  { s.withoutTraps with
    shell := s.number, name := name, params := [], functions := [], aliases := [], frames := []
    vars := put "PWD".toList ⟨some path, true, false⟩ vars
    options := [], pending := [], aside := [], status := 0, saved := none, substituted := 0
    line := 0, inputLine := 0, command := none, loops := 0, depth := 0, path := path
    lastJob := none, optionWord := 1, optionsGot := none, tracked := [], isTracing := false }

/-- The options of a shell, of which one announces a script. -/
def shellOptions : Nat → Bool → List Text → Act (Bool × List Text)
  | 0, announced, words => return (announced, words)
  | _ + 1, announced, [] => return (announced, [])
  | fuel + 1, announced, word :: rest => do
    let own (c : Char) : Bool := c = 'c' || c = 'l'
    match word with
    | ['-'] | ['-', '-'] => return (announced, rest)
    | '-' :: cs =>
      let rest ← Builtin.setWord true (cs.filter fun c => !own c) rest
      shellOptions fuel (announced || cs.contains 'c') rest
    | '+' :: cs =>
      let rest ← Builtin.setWord false (cs.filter fun c => !own c) rest
      shellOptions fuel (announced || cs.contains 'c') rest
    | _ => return (announced, word :: rest)

/-- The interpreter that the first line of a script names, and an argument for it. -/
def announced? (t : Text) : Option (Text × List Text) :=
  match t with
  | '#' :: '!' :: rest =>
    let isBlank (c : Char) : Bool := c = ' ' || c = '\t'
    let line := (rest.takeWhile (· ≠ '\n')).dropWhile isBlank
    let path := line.takeWhile fun c => !isBlank c
    let argument := ((line.drop path.length).dropWhile isBlank).reverse.dropWhile isBlank
    if path.isEmpty then none
    else some (path, if argument.isEmpty then [] else [argument.reverse])
  | _ => none

end RemoteInterpreter.Shell
