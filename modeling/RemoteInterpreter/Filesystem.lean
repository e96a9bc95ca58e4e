import RemoteInterpreter.Filesystem.Standard

/-!
# File systems

How a path leads to a place, what is there, and how the program is found that a
configuration names as its interpreter. Changes lie above the standard files.
-/

namespace RemoteInterpreter

namespace Filesystem

/-- Why a path leads nowhere. -/
inductive Fault where
  | missing
  | notADirectory
  | tooLong
  | denied
  | tooManyLinks
  | isADirectory
  /-- There is no such descriptor. -/
  | closed
  deriving DecidableEq, Repr

def Fault.message : Fault → String
  | .missing => "No such file or directory"
  | .notADirectory => "Not a directory"
  | .tooLong => "File name too long"
  | .denied => "Permission denied"
  | .tooManyLinks => "Too many levels of symbolic links"
  | .isADirectory => "Is a directory"
  | .closed => "Bad file descriptor"

def Fault.number : Fault → Nat
  | .missing => 2
  | .notADirectory => 20
  | .tooLong => 36
  | .denied => 13
  | .tooManyLinks => 40
  | .isADirectory => 21
  | .closed => 9

end Filesystem

open Filesystem

/-- What was changed since the beginning. -/
structure Disk where
  /-- What is at a place now, the latest change first. -/
  changes : List (Place × Option Occupant)
  /-- What is in files now, the latest change first. -/
  contents : List (Nat × Text)
  /-- How many files there have been. -/
  count : Nat

namespace Disk

def fresh : Disk := ⟨[], [], files.length⟩

def entry? (d : Disk) (p : Place) : Option Occupant :=
  match d.changes.lookup p with
  | some e => e
  | none => standard? p

def content (d : Disk) (number : Nat) : Text :=
  match d.contents.lookup number with
  | some t => t
  | none => standardContent number

def set (p : Place) (e : Option Occupant) (d : Disk) : Disk :=
  { d with changes := (p, e) :: d.changes.filter (·.1 ≠ p) }

def setContent (number : Nat) (t : Text) (d : Disk) : Disk :=
  { d with contents := (number, t) :: d.contents.filter (·.1 ≠ number) }

/-- The names in a directory, in the order of their octets. -/
def namesIn (d : Disk) (p : Place) : List Text :=
  let made := d.changes.filterMap fun c =>
    if c.1.dropLast = p && !c.1.isEmpty && c.2.isSome then c.1.getLast? else none
  let kept := (standardNames p).filter fun n =>
    match d.changes.lookup (p ++ [n]) with
    | some none => false
    | some (some _) => false
    | none => true
  Text.inOrder (made ++ kept)

/-- How many links a path may lead through. -/
def mostLinks : Nat := 40

/-- Goes from a directory on by names. What is missing behind the last directory is no fault. -/
def walk (d : Disk) (followsLast : Bool) :
    Nat → Nat → Place → List Text → Except Fault (Place × Option Occupant)
  | 0, _, _, _ => .error .tooManyLinks
  | _ + 1, _, here, [] => .ok (here, d.entry? here)
  | fuel + 1, links, here, name :: rest =>
    if name.isEmpty || name = ['.'] then walk d followsLast fuel links here rest
    else if name = ['.', '.'] then walk d followsLast fuel links here.dropLast rest
    else if longestName < name.length then .error .tooLong
    else
      let there := here ++ [name]
      match d.entry? there with
      | none => if rest.all List.isEmpty then .ok (there, none) else .error .missing
      | some e =>
        match e.node with
        | .link target =>
          if rest.isEmpty && !followsLast then .ok (there, some e)
          else if mostLinks ≤ links then .error .tooManyLinks
          else
            walk d followsLast fuel (links + 1) (if isAbsolute target then [] else here)
              (components target ++ rest)
        | .directory => walk d followsLast fuel links there rest
        | _ => if rest.isEmpty then .ok (there, some e) else .error .notADirectory

/-- The place that a path leads to from a directory, and what is there. -/
def resolve (d : Disk) (followsLast : Bool) (directory : Place) (path : Text) :
    Except Fault (Place × Option Occupant) :=
  if path.isEmpty then .error .missing
  else if longestPath ≤ path.length then .error .tooLong
  else
    let start := if isAbsolute path then [] else directory
    walk d followsLast (2 * path.length + 64 * mostLinks) 0 start (components path)

/-- What a path leads to. -/
def find (d : Disk) (directory : Place) (path : Text) : Except Fault (Place × Occupant) :=
  match d.resolve true directory path with
  | .ok (p, some e) => .ok (p, e)
  | .ok (_, none) => .error .missing
  | .error e => .error e

/-- A new file in a place. -/
def create (p : Place) (mode stamp : Nat) (t : Text) (d : Disk) : Disk :=
  { (d.set p (some ⟨.file d.count, mode, stamp⟩)).setContent d.count t with count := d.count + 1 }

/-- The entries of a file are changed together. -/
def changeFile (number : Nat) (change : Occupant → Occupant) (d : Disk) : Disk :=
  let isIt (e : Occupant) : Bool := e.node = .file number
  let made := d.changes.map fun c => match c.2 with
    | some e => if isIt e then (c.1, some (change e)) else c
    | none => c
  match files[number]? with
  | none => { d with changes := made }
  | some path =>
    let p := names path.toList
    match d.changes.lookup p, standard? p with
    | none, some e => { d with changes := (p, some (change e)) :: made }
    | _, _ => { d with changes := made }

def setMode (p : Place) (mode : Nat) (d : Disk) : Disk :=
  match d.entry? p with
  | some ⟨.file n, _, _⟩ => d.changeFile n fun e => { e with mode := mode }
  | some e => d.set p (some { e with mode := mode })
  | none => d

def setStamp (p : Place) (stamp : Nat) (d : Disk) : Disk :=
  match d.entry? p with
  | some ⟨.file n, _, _⟩ => d.changeFile n fun e => { e with stamp := stamp }
  | some e => d.set p (some { e with stamp := stamp })
  | none => d

/-- A file is written. -/
def write (number : Nat) (stamp : Nat) (t : Text) (d : Disk) : Disk :=
  (d.setContent number t).changeFile number fun e => { e with stamp := stamp }

/-- Takes away what is at a place. -/
def remove (p : Place) (d : Disk) : Disk := d.set p none

/-- Takes away what is at a place and below it. -/
def removeAll (p : Place) (d : Disk) : Disk :=
  let below := d.changes.filter fun c => !p.isPrefixOf c.1
  { d with changes := (p, none) :: below }

/-- What is at a place, and below it, is at another one from now on. -/
def move (p q : Place) (d : Disk) : Disk :=
  let changes := d.changes.filter fun c => !q.isPrefixOf c.1
  let moved := changes.map fun c => if p.isPrefixOf c.1 then (q ++ c.1.drop p.length, c.2) else c
  let moved := if changes.any fun c => c.1 = p then moved else (q, d.entry? p) :: moved
  { d with changes := (p, none) :: moved }

end Disk

namespace Filesystem

/-- What can be run. -/
inductive Executable where
  | program (name : Text)
  | script (text : Text)
  deriving DecidableEq, Repr

def isExecutable (e : Occupant) : Bool := e.mode &&& 0o111 ≠ 0

/-- What a path leads to that can be run. -/
def executable (d : Disk) (directory : Place) (path : Text) : Except Fault Executable :=
  match d.find directory path with
  | .error e => .error e
  | .ok (_, e) =>
    match e.node with
    | .program name => if isExecutable e then .ok (.program name) else .error .denied
    | .file n => if isExecutable e then .ok (.script (d.content n)) else .error .denied
    | _ => .error .denied

/-- Where programs are searched that are named without a path. -/
def standardPath : Text := "/usr/local/sbin:/usr/local/bin:/usr/sbin:/usr/bin:/sbin:/bin".toList

/-- The directories are tried one after the other. Those that do not have the program do not
matter, if a later one has it; the last fault counts, and that access was denied before. The
result tells by which path it was found. -/
def search (d : Disk) (directory : Place) (name : Text) :
    List Text → Fault → Except Fault (Text × Executable)
  | [], fault => .error fault
  | dir :: rest, fault =>
    let path := if dir.isEmpty then name else dir ++ '/' :: name
    match executable d directory path with
    | .ok x => .ok (path, x)
    | .error .tooLong => .error .tooLong
    | .error e => search d directory name rest (if fault = .denied then .denied else e)

/-- The program of a name, which is a path if there is a slash in it. -/
def command (d : Disk) (path : Text) (directory : Place) (name : Text) :
    Except Fault (Text × Executable) :=
  if name.isEmpty then .error .missing
  else if name.contains '/' then (executable d directory name).map fun x => (name, x)
  else search d directory name (Text.splitAt ':' path) .missing

end Filesystem

end RemoteInterpreter
