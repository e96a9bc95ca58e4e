import RemoteInterpreter.Filesystem
import RemoteInterpreter.Shell.Fields

/-!
# Names of files by patterns

A field in which a pattern stands for names of files becomes those names, in order. Names
that begin with a dot are meant only if the dot is told.
-/

namespace RemoteInterpreter.Shell.Glob

/-- Whether a set that was opened is closed. -/
def closesSet (p : List Mark) : Bool :=
  let p := match p with
    | ('!', false) :: p => p
    | p => p
  p.tail.any (· = (']', false))

/-- Whether a pattern stands for more than one name. -/
def isPattern : List Mark → Bool
  | [] => false
  | ('*', false) :: _ | ('?', false) :: _ => true
  | ('[', false) :: p => closesSet p || isPattern p
  | ('\\', false) :: _ :: p => isPattern p
  | _ :: p => isPattern p

/-- The parts between the slashes. -/
def parts (p : List Mark) : List (List Mark) :=
  p.foldr (fun m ps =>
    if m.1 = '/' then [] :: ps
    else
      match ps with
      | [] => [[m]]
      | part :: ps => (m :: part) :: ps) [[]]

def textOf (p : List Mark) : Text := (withoutEscapes p).map Prod.fst

section

variable (d : Disk) (directory : Filesystem.Place)

/-- The names in the directory that a path leads to, and those of the directory itself and of the
one around it. -/
def namesAt (path : Text) : List Text :=
  match d.find directory (if path.isEmpty then ['.'] else path) with
  | .ok (place, ⟨.directory, _, _⟩) => ['.'] :: ['.', '.'] :: d.namesIn place
  | _ => []

def isThere (path : Text) : Bool :=
  match d.resolve false directory path with
  | .ok (_, some _) => true
  | _ => false

/-- The paths that a pattern stands for, behind a path that leads up to it. -/
def pathsFrom (front : Text) (begun : Bool) : List (List Mark) → List Text
  | [] => if begun && isThere d directory front then [front] else []
  | p :: rest =>
    if !isPattern p then
      let path := front ++ textOf p
      match rest with
      | [] => if begun && isThere d directory path then [path] else []
      | _ => pathsFrom (path ++ ['/']) begun rest
    else
      let startsDotted := (withoutEscapes p).head?.any (·.1 = '.')
      let found := (namesAt d directory front).filter fun n =>
        (startsDotted || n.head? ≠ some '.') && matchesText p n
      match rest with
      | [] => found.map (front ++ ·)
      | _ => found.flatMap fun n => pathsFrom (front ++ n ++ ['/']) true rest

/-- The names that a field stands for; one that stands for none is itself. -/
def names (field : List Mark) : List Text :=
  let p := field.filter fun m => m.1 ≠ bound
  if !(parts p).any isPattern then [unmarked field]
  else
    match pathsFrom d directory [] false (parts p) with
    | [] => [unmarked field]
    | paths => Text.inOrder paths

end

end RemoteInterpreter.Shell.Glob
