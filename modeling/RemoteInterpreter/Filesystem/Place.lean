import RemoteInterpreter.Text.Utf8

/-!
# Places

Names that lead from the root of a file system to a place, and paths as they are
written. Octets are held as the characters of the same number.
-/

namespace RemoteInterpreter.Filesystem

/-- The names that lead from the root to a place. -/
abbrev Place := List Text

def components (path : Text) : List Text := Text.splitAt '/' path

def names (path : Text) : Place := (components path).filter fun c => !c.isEmpty

def pathOf (p : Place) : Text := if p.isEmpty then ['/'] else p.flatMap fun c => '/' :: c

def isAbsolute (path : Text) : Bool := path.head? == some '/'

/-- The place of a path, without a look at what is there. -/
def follow (directory : Place) (path : Text) : Place :=
  (components path).foldl
    (fun place c =>
      if c.isEmpty || c = ['.'] then place
      else if c = ['.', '.'] then place.dropLast
      else place ++ [c])
    (if isAbsolute path then [] else directory)

/-- A path without the slashes at its end; what consists of slashes keeps one. -/
def withoutEnd (path : Text) : Text :=
  match (path.reverse.dropWhile (· = '/')).reverse with
  | [] => if path.isEmpty then [] else ['/']
  | t => t

/-- The last name of a path. -/
def lastName (path : Text) : Text :=
  let t := withoutEnd path
  if t = ['/'] then t else (components t).getLastD []

/-- A path without its last name. -/
def parentPath (path : Text) : Text :=
  let t := withoutEnd path
  if t = ['/'] then t
  else
    let front := t.take (t.length - ((components t).getLastD []).length)
    if front.isEmpty then ['.'] else withoutEnd front

/-- A name in a directory. -/
def join (directory name : Text) : Text :=
  if directory.isEmpty || directory.getLast? = some '/' then directory ++ name
  else directory ++ '/' :: name

/-- The longest name, and the longest path with the mark at its end. -/
def longestName : Nat := 255

def longestPath : Nat := 4096

end RemoteInterpreter.Filesystem
