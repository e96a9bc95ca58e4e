import RemoteInterpreter.Shell.Builtin.Basic
import RemoteInterpreter.Shell.Printf
import RemoteInterpreter.Shell.Test

/-!
# Input, output and conditions

The builtin commands that read lines, print texts and judge conditions.
-/

namespace RemoteInterpreter.Shell.Builtin

/-- Segments of a line: what is escaped is not cut. The characters of each are backward. -/
abbrev Line := List Segment

def Line.add (c : Char) (l : Line) : Line :=
  match l with
  | ⟨.atSeparators, marks⟩ :: rest => ⟨.atSeparators, (c, false) :: marks⟩ :: rest
  | l => ⟨.atSeparators, [(c, false)]⟩ :: l

def Line.keep (t : Text) (l : Line) : Line :=
  ⟨.atSeparators, []⟩ :: ⟨.nowhere, t.map fun c => (c, true)⟩ :: l

def Line.segments (l : Line) : List Segment :=
  l.reverse.map fun s => { s with marks := s.marks.reverse }

/-- The next octet for a line. A signal with a trap ends the wait for it. -/
def nextOctet : Act (Option Char) := do
  let d := (← strand).descriptor? 0
  if (← world).signals.isEmpty then readOctetFrom d
  else
    match ← interruption? (← readyAt? d) with
    | some t =>
      reach t
      return none
    | none => readOctetFrom d

/-- Reads up to the end of a line. The result tells whether there was one. -/
def readLine (raw : Bool) : Act (Line × Bool) :=
  iterate ([] : Line) fun l => do
    match ← nextOctet with
    | none => return .ok (l, false)
    | some '\n' => return .ok (l, true)
    | some '\x00' => return .error l
    | some '\\' =>
      if raw then return .error (Line.add '\\' l)
      else
        match ← nextOctet with
        | none => return .ok (l, false)
        | some '\n' => return .error (Line.keep [] l)
        | some c => return .error (Line.keep [c] l)
    | some c => return .error (Line.add c l)

def assignAll : List Text → List Text → Act Unit
  | [], _ => pure ()
  | name :: names, fields => do
    ensureName name
    assign name (fields.headD [])
    assignAll names fields.tail

/-- The options of the reading command: the one with a value tells a prompt. -/
def readOptions : List Text → Bool → Act (Bool × List Text)
  | ['-', '-'] :: rest, raw => return (raw, rest)
  | ['-', 'p'] :: _ :: rest, raw => readOptions rest raw
  | ('-' :: c :: cs) :: rest, raw =>
    match (c :: cs).find? fun c => c ≠ 'r' with
    | some 'p' => readOptions rest (raw || c = 'r')
    | some c => illegalOption c
    | none => readOptions rest true
  | names, raw => return (raw, names)

def read (args : List Text) : Act Unit := do
  let (raw, names) ← readOptions args false
  if names.isEmpty then fail "arg count".toList
  else
    let (line, isWhole) ← readLine raw
    let fields := breakUp (← strand).separators (some names.length) line.segments
    assignAll names (fields.map unmarked)
    setStatus (if isWhole then 0 else 1)

def echo (args : List Text) : Act Unit := do
  setStatus 0
  let (hasEnd, args) := match args with
    | ['-', 'n'] :: args => (false, args)
    | args => (true, args)
  let (t, stops) := echoed args
  print (if hasEnd && !stops then t ++ ['\n'] else t)

def printFormatted (args : List Text) : Act Unit := do
  let (_, args) ← options [] args
  match args with
  | [] => fail "usage: printf format [arg ...]".toList
  | format :: args =>
    let p := printf format args
    for w in p.warnings do
      complain w
    setStatus (if p.warnings.isEmpty then 0 else 1)
    match p.failure with
    | none => print p.text
    | some why =>
      complain why
      print p.text
      setStatus 2
      throw .failed

/-- What an open descriptor is like. -/
def describeDescriptor (w : World) (d : Descriptor) : Test.Found :=
  match d with
  | .file n =>
    let file := ((w.opened[n]?).map Opened.file).getD 0
    ⟨(file + 1, []), .file, 0o644, 0, (w.disk.content file).length⟩
  | .directory => ⟨(0, []), .directory, 0o755, 0, 4096⟩
  | .nothing | .zeros | .full => ⟨(0, ["dev".toList]), .device, 0o666, 0, 0⟩
  | _ => ⟨(0, ["pipe".toList]), .pipe, 0o600, 0, 0⟩

/-- What a path leads to, for a condition. -/
def describePath (w : World) (s : Strand) (follows : Bool) (path : Text) : Option Test.Found :=
  match (if follows then descriptorPath? path else none) with
  | some fd => (s.descriptor? fd).map (describeDescriptor w)
  | none =>
    match w.disk.resolve follows s.directory path with
    | .ok (place, some e) =>
      some (match e.node with
        | .directory => ⟨(0, place), .directory, e.mode, e.stamp, 4096⟩
        | .file n => ⟨(n + 1, []), .file, e.mode, e.stamp, (w.disk.content n).length⟩
        | .device => ⟨(0, place), .device, e.mode, e.stamp, 0⟩
        | .program _ => ⟨(0, place), .file, e.mode, e.stamp, 35208⟩
        | .link target => ⟨(0, place), .link, e.mode, e.stamp, target.length⟩)
    | _ => none

def test (args : List Text) : Act Unit := do
  let w ← world
  let s ← strand
  match Test.judge (describePath w s) args with
  | .ok b => setStatus (if b then 0 else 1)
  | .error why => fail why

def testInBrackets (args : List Text) : Act Unit := do
  match args.getLast? with
  | some (']' :: _) => test args.dropLast
  | _ => fail "missing ]".toList

end RemoteInterpreter.Shell.Builtin
