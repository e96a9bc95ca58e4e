import RemoteInterpreter.Shell.Strands

/-!
# The outside of tools

What every tool does with the rest of the world: it prints, complains, comes to an end,
and may run other programs. What it prints is put out in blocks, and at its end.
-/

namespace RemoteInterpreter.Shell.Tool

/-- How other programs are run. -/
structure Launcher where
  /-- Runs a command by its name in place of the tool. The result tells why that is not possible, or
  nothing if the command has come to its end. -/
  exec : Text → List Text → Act (Option Filesystem.Fault)

/-- How much is printed before it is put out. -/
def blockSize : Nat := 4096

/-- When what is printed is put out. -/
inductive Buffering where
  | blocks
  | lines
  | none
  deriving DecidableEq

def bufferingOf (s : Strand) : Buffering :=
  match s.value? "_STDBUF_O".toList with
  | some ['L'] => .lines
  | some ['0'] => .none
  | _ => .blocks

/-- Puts out a text. What cannot be put out is lost. -/
def putOut (t : Text) : Act Unit := do
  match ← write 1 t with
  | none => pure ()
  | some why => changeStrand fun s => { s with fault := some (s.fault.getD why) }

/-- Puts out what has been printed. -/
def flush : Act Unit := do
  let s ← strand
  if !s.unflushed.isEmpty then
    changeStrand fun s => { s with unflushed := [], unflushedSize := 0 }
    putOut s.unflushed.reverse.flatten

/-- Prints a text. -/
def put (t : Text) : Act Unit := do
  changeStrand fun s =>
    { s with unflushed := t :: s.unflushed, unflushedSize := s.unflushedSize + t.length }
  let s ← strand
  if s.unflushedSize < blockSize && s.vars.isEmpty then pure ()
  else
    match bufferingOf s with
    | .none => flush
    | .lines => if t.contains '\n' then flush
    | .blocks =>
      if blockSize ≤ s.unflushedSize then
        let all := s.unflushed.reverse.flatten
        let n := all.length - all.length % blockSize
        let rest := all.drop n
        changeStrand fun s => { s with unflushed := [rest], unflushedSize := rest.length }
        putOut (all.take n)

def putLine (t : Text) : Act Unit := do
  put t
  put ['\n']

/-- Prints a message on the standard error, behind what was printed before. -/
def warn (called message : Text) : Act Unit := do
  flush
  writeError (called ++ ": ".toList ++ message ++ ['\n'])

/-- The tool comes to its end. -/
def quit {α : Type} (status : Nat) : Act α := do
  setStatus status
  throw .exited

def die {α : Type} (called message : Text) (status : Nat) : Act α := do
  warn called message
  quit status

def hint (called : Text) : Text :=
  "Try '".toList ++ called ++ " --help' for more information.\n".toList

/-- A tool that cannot be used in this way. -/
def misuse {α : Type} (called message : Text) (status : Nat) : Act α := do
  warn called message
  writeError (hint called)
  quit status

/-- Whether the texts of messages may hold more than the simplest characters. -/
def isUnicode (s : Strand) : Bool :=
  let value := ["LC_ALL", "LC_CTYPE", "LANG"].findSome? fun (name : String) =>
    (s.value? name.toList).filter (!·.isEmpty)
  match value with
  | some t =>
    ["c.utf-8", "c.utf8"].contains (Text.str (t.map Char.toLower))
  | none => false

/-- Runs another program beside the tool. The result tells how it went, if it could be run. -/
def launch (l : Launcher) (prepare : Strand → Strand) (name : Text) (args : List Text) :
    Act (Except Filesystem.Fault Outcome) := do
  let (o, fault) ← inStrandFor (fun s => prepare { s with status := 0 }) (l.exec name args)
  match fault with
  | some (some e) => return .error e
  | _ => return .ok o

/-- What a shell command prints, and how it went, when it has come to its end. -/
def overhear (l : Launcher) (shell : String) (command : Text) : Act (Text × Option Outcome) := do
  flush
  let n ← addStream .pipe
  match ← launch l (fun s => s.setDescriptor 1 (some (.sink n))) shell.toList
      ["-c".toList, command] with
  | .error _ => return ([], none)
  | .ok o =>
    if o.status.isNone then starve
    reach o.clock
    match (← world).stream? n with
    | none => return ([], some o)
    | some x => return (x.octets.map Prod.snd, some o)

/-- What a shell command prints. -/
def capture (l : Launcher) (command : Text) : Act Text := do return (← overhear l "sh" command).1

end RemoteInterpreter.Shell.Tool
