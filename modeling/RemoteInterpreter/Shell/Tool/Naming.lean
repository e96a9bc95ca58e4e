import RemoteInterpreter.Shell.Tool.Intake

/-!
# Names of files

Tools that take paths apart, that follow links, and that tell where programs are.
-/

namespace RemoteInterpreter.Shell.Tool

open Filesystem (Fault)

def withoutSuffix (suffix t : Text) : Text :=
  if t ≠ suffix && suffix.isSuffixOf t then t.take (t.length - suffix.length) else t

def basename (called : Text) (args : List Text) : Act Unit := do
  let all := known [('a', "multiple"), ('z', "zero")] [('s', "suffix")]
  let (os, operands) ← optionsOr 1 called all false args
  let mark := if has os 'z' then '\x00' else '\n'
  let isMany := has os 'a' || has os 's'
  match operands with
  | [] => misuse called "missing operand".toList 1
  | _ :: _ :: t :: _ =>
    if !isMany then misuse called ("extra operand ".toList ++ (← quoted t)) 1
  | _ => pure ()
  let say (suffix t : Text) : Act Unit := do
    let name := Filesystem.lastName t
    put ((if name = ['/'] then name else withoutSuffix suffix name) ++ [mark])
  match isMany, operands with
  | false, [t, suffix] => say suffix t
  | _, operands =>
    for t in operands do
      say ((valueOf? os 's').getD []) t

def dirname (called : Text) (args : List Text) : Act Unit := do
  let (os, operands) ← optionsOr 1 called (known [('z', "zero")] []) false args
  let mark := if has os 'z' then '\x00' else '\n'
  if operands.isEmpty then misuse called "missing operand".toList 1
  for t in operands do
    put (Filesystem.parentPath t ++ [mark])

/-! Links -/

/-- How much of a path has to be there. -/
inductive Existing where
  | all
  | allButLast
  | nothing
  deriving DecidableEq

/-- The place of a path, behind all links. -/
def canonical? (how : Existing) (path : Text) : Act (Except Fault Filesystem.Place) := do
  if path.isEmpty then return .error .missing
  match ← resolve true path with
  | .ok (place, some e) =>
    if path.getLast? = some '/' && e.node ≠ .directory then
      return if how = .nothing then .ok place else .error .notADirectory
    else return .ok place
  | .ok (place, none) => return if how = .all then .error .missing else .ok place
  | .error e =>
    if how = .nothing then return .ok (Filesystem.follow (← strand).directory path)
    else return .error e

def readlink (called : Text) (args : List Text) : Act Unit := do
  let all := known [('f', "canonicalize"), ('e', "canonicalize-existing"),
    ('m', "canonicalize-missing"), ('n', "no-newline"), ('q', "quiet"), ('s', "silent"),
    ('v', "verbose"), ('z', "zero")] []
  let (os, operands) ← optionsOr 1 called all false args
  if operands.isEmpty then misuse called "missing operand".toList 1
  let mark : Text := if has os 'n' && operands.length = 1 then [] else if has os 'z' then ['\x00']
    else ['\n']
  let fails (path : Text) (why : String) : Act Unit := do
    setStatus 1
    if has os 'v' then warn called ((← quotedName path) ++ ": ".toList ++ why.toList)
  for path in operands do
    match lastOf? os ['f', 'e', 'm'] with
    | some c =>
      let how : Existing := if c = 'f' then .allButLast else if c = 'e' then .all else .nothing
      match ← canonical? how path with
      | .ok place => put (Filesystem.pathOf place ++ mark)
      | .error e => fails path e.message
    | none =>
      match ← resolve false path with
      | .ok (_, some ⟨.link target, _, _⟩) => put (target ++ mark)
      | .ok (_, some _) => fails path "Invalid argument"
      | .ok (_, none) => fails path Fault.missing.message
      | .error e => fails path e.message

/-- The way from one place to another. -/
def wayBetween (start target : Filesystem.Place) : Text :=
  let shared := ((start.zip target).takeWhile fun (a, b) => a = b).length
  let names := List.replicate (start.length - shared) ['.', '.'] ++ target.drop shared
  if names.isEmpty then ['.'] else (names.intersperse ['/']).flatten

def realpath (called : Text) (args : List Text) : Act Unit := do
  let all := known [('e', "canonicalize-existing"), ('m', "canonicalize-missing"),
    ('L', "logical"), ('P', "physical"), ('q', "quiet"), ('s', "strip"), ('s', "no-symlinks"),
    ('z', "zero")] [('α', "relative-to"), ('β', "relative-base")]
  let (os, operands) ← optionsOr 1 called all false args
  if operands.isEmpty then misuse called "missing operand".toList 1
  let mark := if has os 'z' then '\x00' else '\n'
  let how : Existing := match lastOf? os ['e', 'm'] with
    | some 'e' => .all
    | some _ => .nothing
    | none => .allButLast
  let placeOf (path : Text) : Act (Except Fault Filesystem.Place) := do
    if has os 's' then return .ok (Filesystem.follow (← strand).directory path)
    else canonical? how path
  let start ← match valueOf? os 'α' with
    | none => pure none
    | some path =>
      match ← placeOf path with
      | .ok p => pure (some p)
      | .error e => die called ((← quotedName path) ++ ": ".toList ++ e.message.toList) 1
  for path in operands do
    match ← placeOf path with
    | .ok place =>
      let shown := match start with
        | some s => wayBetween s place
        | none => Filesystem.pathOf place
      put (shown ++ [mark])
    | .error e =>
      setStatus 1
      if !has os 'q' then warn called ((← quotedName path) ++ ": ".toList ++ e.message.toList)

/-! Programs -/

/-- All paths by which a program is found. -/
def pathsOf (name : Text) : Act (List Text) := do
  let s ← strand
  let disk := (← world).disk
  let isFine (path : Text) : Bool := match Filesystem.executable disk s.directory path with
    | .ok _ => true
    | .error _ => false
  if name.contains '/' then return if isFine name then [name] else []
  else
    let dirs := Text.splitAt ':' s.searchPath
    return (dirs.map fun dir => (if dir.isEmpty then ['.'] else dir) ++ '/' :: name).filter isFine

def which (args : List Text) : Act Unit := do
  match parse (known [('a', ""), ('s', "")] []) false args with
  | .error _ =>
    let letter := (args.findSome? fun w => (w.drop 1).find? fun c => c ≠ 'a' && c ≠ 's').getD '?'
    writeError ("Illegal option -".toList ++ [letter, '\n'])
    put "Usage: /usr/bin/which [-as] args\n".toList
    setStatus 2
  | .ok (os, names) =>
    if names.isEmpty then setStatus 1
    for name in names do
      let paths ← pathsOf name
      if paths.isEmpty then setStatus 1
      if !has os 's' then
        for path in (if has os 'a' then paths else paths.take 1) do
          putLine path

/-! Who and where -/

def extraOperand {α : Type} (called t : Text) : Act α := do
  misuse called ("extra operand ".toList ++ (← quoted t)) 1

/-- Tells one thing, without operands. -/
def tells (called : Text) (args : List Text) (t : String) : Act Unit := do
  let (_, operands) ← optionsOr 1 called [] true args
  match operands with
  | o :: _ => extraOperand called o
  | [] => putLine t.toList

def identity (called : Text) (args : List Text) : Act Unit := do
  let all := known [('a', ""), ('g', "group"), ('G', "groups"), ('n', "name"), ('r', "real"),
    ('u', "user"), ('z', "zero"), ('Z', "context")] []
  let (os, operands) ← optionsOr 1 called all true args
  for name in operands do
    if name ≠ "root".toList && name ≠ ['0'] then
      die called ((← quoted name) ++ ": no such user".toList) 1
  let chosen := (['u', 'g', 'G'].filter (has os))
  if 1 < chosen.length then
    die called "cannot print \"only\" of more than one choice".toList 1
  if chosen.isEmpty then
    if has os 'n' || has os 'r' then
      die called "printing only names or real IDs requires -u, -g, or -G".toList 1
    putLine "uid=0(root) gid=0(root) groups=0(root)".toList
  else putLine (if has os 'n' then "root".toList else ['0'])

def uname (called : Text) (args : List Text) : Act Unit := do
  let all := known [('a', "all"), ('s', "kernel-name"), ('n', "nodename"),
    ('r', "kernel-release"), ('v', "kernel-version"), ('m', "machine"), ('p', "processor"),
    ('i', "hardware-platform"), ('o', "operating-system")] []
  let (os, operands) ← optionsOr 1 called all true args
  match operands with
  | o :: _ => extraOperand called o
  | [] => pure ()
  let parts := [('s', "Linux"), ('n', "localhost"), ('r', "6.1.0"), ('v', "#1 SMP"),
    ('m', "x86_64"), ('p', "x86_64"), ('i', "x86_64"), ('o', "GNU/Linux")]
  let wanted := if os.isEmpty then parts.take 1
    else parts.filter fun p => has os 'a' || has os p.1
  putLine ((wanted.map fun p => p.2.toList).intersperse [' ']).flatten

/-- No terminal is there. -/
def tty (called : Text) (args : List Text) : Act Unit := do
  let (os, operands) ← optionsOr 2 called (known [('s', "silent"), ('s', "quiet")] []) true args
  match operands with
  | t :: _ => misuse called ("extra operand ".toList ++ (← quoted t)) 2
  | [] => pure ()
  if !has os 's' then putLine "not a tty".toList
  setStatus 1

def stty (called : Text) (args : List Text) : Act Unit := do
  let all := known [('a', "all"), ('g', "save")] [('F', "file")]
  let (_, _) ← optionsOr 1 called all true args
  die called "'standard input': Inappropriate ioctl for device".toList 1

/-- Nobody has logged in. -/
def logname (called : Text) (args : List Text) : Act Unit := do
  let (_, operands) ← optionsOr 1 called [] true args
  match operands with
  | t :: _ => extraOperand called t
  | [] => die called "no login name".toList 1

def groups (called : Text) (args : List Text) : Act Unit := do
  let (_, operands) ← optionsOr 1 called [] true args
  if operands.isEmpty then putLine "root".toList
  for name in operands do
    if name = "root".toList then putLine "root : root".toList
    else lack called ((← quoted name) ++ ": no such user".toList) 1

/-- Tells its directory. -/
def pwd (called : Text) (args : List Text) : Act Unit := do
  let all := known [('L', "logical"), ('P', "physical")] []
  let (os, operands) ← optionsOr 1 called all true args
  if !operands.isEmpty then warn called "ignoring non-option arguments".toList
  let s ← strand
  let physical := Filesystem.pathOf s.directory
  match s.value? "PWD".toList with
  | some t =>
    let isFine := Filesystem.isAbsolute t &&
      !(Filesystem.components t).any fun c => c = ['.'] || c = ['.', '.']
    let leads := match ← locate t with
      | .ok (place, _) => place = s.directory
      | .error _ => false
    putLine (if lastOf? os ['L', 'P'] = some 'L' && isFine && leads then t else physical)
  | none => putLine physical

end RemoteInterpreter.Shell.Tool
