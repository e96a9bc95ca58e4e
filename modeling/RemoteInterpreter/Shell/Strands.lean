import RemoteInterpreter.Shell.State

/-!
# Strands

Strands that are started and awaited, signals between them, and the files that their
descriptors lead to.
-/

namespace RemoteInterpreter.Shell

/-- The action, and how it ends, without ending what comes behind it. -/
def attempt {α : Type} (a : Act α) : Act (Except Stop α) := fun s =>
  match a s with
  | (r, s) => (.ok r, s)

/-- How a strand went. -/
structure Outcome where
  /-- There is no status as long as it stands still. -/
  status : Option Nat
  clock : Instant
  signal : Option Nat

def World.hold (s : Strand) (w : World) : World :=
  { w with held := (s.fds.map Prod.snd ++ s.aside).map (fun d => (s.number, d)) ++ w.held }

/-- Strands that have ended hold nothing and do not sleep. -/
def World.release (first limit : Nat) (w : World) : World :=
  let belongs (k : Nat) : Bool := first ≤ k && k < limit
  { w with
    wakes := w.wakes.filter fun k => !belongs k.1
    held := w.held.filter fun k => !belongs k.1 }

/-- How much a pipe holds. -/
def pipeRoom : Nat := 65536

/-- When a writer ends because nobody reads any more: when it writes next, or when it has written
more than there is room for. -/
def Stream.brokenAt? (x : Stream) (readerEnd : Instant) : Option Instant :=
  match x.octets.find? fun o => readerEnd < o.1 with
  | some o => some o.1
  | none => if pipeRoom < x.octets.length then some readerEnd else none

/-- Runs an action in a strand of its own. The result is there if it came to its end. -/
def inStrandFor {α : Type} (prepare : Strand → Strand) (a : Act α) :
    Act (Outcome × Option α) := do
  let parent ← strand
  let number := (← world).strands
  changeWorld fun w => { w with strands := w.strands + 1 }
  changeStrand fun s =>
    prepare { s with
      number := number, born := s.clock, pending := [], unflushed := []
      unflushedSize := 0, answers := [], fault := none }
  let r ← attempt a
  let child ← strand
  changeStrand fun _ => parent
  match r with
  | .error .starved =>
    changeWorld (World.hold child)
    return (⟨none, child.clock, none⟩, none)
  | .error (.killed n) => return (⟨some (128 + n), child.clock, some n⟩, none)
  | .error _ => return (⟨some child.status, child.clock, none⟩, none)
  | .ok x => return (⟨some child.status, child.clock, none⟩, some x)

def inStrand (prepare : Strand → Strand) (a : Act Unit) : Act Outcome := do
  return (← inStrandFor prepare a).1

/-- Only signals that are ignored are so in another strand, too. -/
def Strand.withoutTraps (s : Strand) : Strand :=
  { s with traps := s.traps.filter fun t => t.2.isEmpty && t.1 ≠ "EXIT".toList }

/-- What a program keeps of the shell that runs it. -/
def Strand.forProgram (s : Strand) : Strand :=
  { s.withoutTraps with
    aside := [], vars := s.exported.map fun (name, t) => (name, ⟨some t, true, false⟩) }

/-- What is said of a command that was killed. -/
def killedMessage (n : Nat) : Text :=
  match n with
  | 1 => "Hangup\n".toList
  | 2 | 13 => []
  | 3 => "Quit\n".toList
  | 6 => "Aborted\n".toList
  | 9 => "Killed\n".toList
  | 10 => "User defined signal 1\n".toList
  | 11 => "Segmentation fault\n".toList
  | 12 => "User defined signal 2\n".toList
  | 14 => "Alarm clock\n".toList
  | 15 => "Terminated\n".toList
  | n => "Unknown signal ".toList ++ Numeral.write n ++ ['\n']

/-- Goes on when a strand has ended. -/
def awaitEnd (o : Outcome) : Act Unit := do
  match o.status with
  | none => starve
  | some n =>
    reach o.clock
    match o.signal with
    | some k => writeError (killedMessage k)
    | none => pure ()
    setStatus n

/-! Signals -/

/-- A job ends of a signal at an instant. What it would have done behind is undone. -/
def endJob (j : Job) (t : Instant) (n : Nat) : Act Unit := do
  let belongs (k : Nat) : Bool := j.strand ≤ k && k < j.limit
  let job : Job := { j with ended := some (t, 128 + n) }
  changeWorld fun w =>
    { w.release j.strand j.limit with
      events := w.events.filter fun e => !(belongs e.strand && t < e.instant)
      jobs := w.jobs.map fun k => if k.strand = j.strand then job else k }

/-- The result tells whether there is a strand of that number. -/
def sendSignal (target n : Nat) : Act Bool := do
  let s ← strand
  match (← world).jobs.find? fun j => processNumber j.strand = target with
  | some j =>
    let goesOn := match j.ended with
      | none => true
      | some (t, _) => s.clock < t
    if goesOn && !Signal.isQuiet n && n ≠ 19 then endJob j s.clock n
    return goesOn
  | none =>
    if target = processNumber s.number || target = processNumber s.shell ||
        target = processNumber 0 then
      if n ≠ 0 then
        changeWorld fun w =>
          { w with signals := ⟨target - processNumber 0, s.clock, n, false⟩ :: w.signals }
      return true
    else return false

/-- Signals in the order of their numbers, each once. -/
def inSignalOrder (names : List Text) : List Text :=
  Signal.names.filterMap fun (name, _) =>
    if names.contains name.toList then some name.toList else none

/-- Signals that have come: the strand ends, or a trap is due. -/
def takeSignals : Act Unit := do
  let s ← get
  match s.end? s.strand.clock with
  | some k => dieOf k
  | none =>
    let isMine (k : Signal) : Bool :=
      !k.isGroup && k.isFor s.strand.number s.strand.born && k.instant ≤ s.strand.clock
    let isDue (k : Signal) : Bool :=
      k.isFor s.strand.number s.strand.born && k.instant ≤ s.strand.clock &&
      !(k.isGroup && s.strand.heard.contains k.instant)
    let due := (s.world.signals.filter isDue).filterMap fun k =>
      match s.strand.traps.lookup (Signal.nameOf k.number) with
      | some action => if action.isEmpty then none else some (Signal.nameOf k.number)
      | none => none
    if s.world.signals.any isDue then
      changeWorld fun w => { w with signals := w.signals.filter fun k => !isMine k }
      let heard := (s.world.signals.filter fun k => isDue k && k.isGroup).map Signal.instant
      changeStrand fun s =>
        { s with pending := inSignalOrder (due ++ s.pending), heard := heard ++ s.heard }

/-- The first signal with a trap that comes behind the clock, but before an instant. -/
def interruption? (before : Option Instant) : Act (Option Instant) := do
  let s ← get
  if s.world.signals.isEmpty then return none
  else
    let limit := before.getD (s.world.elapsed + 1)
    let comes (k : Signal) : Bool :=
      k.isFor s.strand.number s.strand.born && s.strand.clock < k.instant && k.instant < limit &&
        (match s.strand.traps.lookup (Signal.nameOf k.number) with
          | some action => !action.isEmpty
          | none => false)
    return ((s.world.signals.filter comes).map Signal.instant).min?

/-! Files -/

def openText (t : Text) : Act Descriptor := do return .source (← addStream (.ofText t))

/-- A path that stands for an open descriptor. -/
def descriptorPath? (path : Text) : Option Nat :=
  match path.str with
  | "/dev/stdin" => some 0
  | "/dev/stdout" => some 1
  | "/dev/stderr" => some 2
  | _ =>
    ["/dev/fd/", "/proc/self/fd/"].findSome? fun (front : String) =>
      if front.toList.isPrefixOf path then Numeral.read? (path.drop front.length) else none

/-- Where a path leads from the directory of the strand. -/
def resolve (followsLast : Bool) (path : Text) :
    Act (Except Filesystem.Fault (Filesystem.Place × Option Filesystem.Occupant)) := do
  return (← world).disk.resolve followsLast (← strand).directory path

/-- What a path leads to. -/
def locate (path : Text) :
    Act (Except Filesystem.Fault (Filesystem.Place × Filesystem.Occupant)) := do
  return (← world).disk.find (← strand).directory path

def changeDisk (f : Disk → Disk) : Act Unit := changeWorld fun w => { w with disk := f w.disk }

def addOpened (o : Opened) : Act Descriptor := do
  let n := (← world).opened.size
  changeWorld fun w => { w with opened := w.opened.push o }
  return .file n

/-- The device of a name. -/
def deviceOf (name : Text) : Descriptor :=
  match name.str with
  | "zero" => .zeros
  | "full" => .full
  | _ => .nothing

/-- What a path leads to that is read. -/
def openForReading (path : Text) : Act (Except Filesystem.Fault Descriptor) := do
  match descriptorPath? path with
  | some fd =>
    match (← strand).descriptor? fd with
    | some d => return .ok d
    | none => return .error .missing
  | none =>
    match ← locate path with
    | .error e => return .error e
    | .ok (place, e) =>
      match e.node with
      | .directory => return .ok .directory
      | .device => return .ok (deviceOf (place.getLastD []))
      | .file n => return .ok (← addOpened ⟨n, 0, false, true, false, none⟩)
      | _ => return .ok .nothing

/-- How a file is opened that is written. -/
structure Writing where
  appends : Bool
  truncates : Bool
  /-- It is read, too. -/
  reads : Bool
  /-- It must not be there before. -/
  isNew : Bool

/-- Why a file cannot be written. -/
inductive WriteFault where
  | path (e : Filesystem.Fault)
  | exists
  deriving DecidableEq

/-- What a path leads to that is written. A file that is missing is made. -/
def openForWriting (how : Writing) (path : Text) : Act (Except WriteFault Descriptor) := do
  match descriptorPath? path with
  | some fd =>
    match (← strand).descriptor? fd with
    | some d => return .ok d
    | none => return .error (.path .missing)
  | none =>
    match ← resolve true path with
    | .error e => return .error (.path e)
    | .ok (place, none) =>
      if path.getLast? = some '/' then return .error (.path .isADirectory)
      else
        let s ← strand
        let n := (← world).disk.count
        changeDisk (Disk.create place (0o666 - (0o666 &&& s.mask)) s.clock [])
        return .ok (← addOpened ⟨n, 0, how.appends, how.reads, true, none⟩)
    | .ok (place, some e) =>
      match e.node with
      | .directory => return .error (.path .isADirectory)
      | .device => return .ok (deviceOf (place.getLastD []))
      | .file n =>
        if how.isNew then return .error .exists
        else
          let now := (← strand).clock
          if how.truncates then
            changeWorld fun w =>
              { w with
                disk := w.disk.write n now []
                opened := w.opened.map fun p => if p.file = n then { p with ahead := none } else p }
          return .ok (← addOpened ⟨n, 0, how.appends, how.reads, true, none⟩)
      | _ => return .ok .nothing

def openFile (o : Opening) (path : Text) : Act Descriptor := do
  let cannotOpen {α : Type} (why : String) : Act α :=
    fail ("cannot open ".toList ++ path ++ ": ".toList ++ why.toList)
  let cannotCreate {α : Type} (why : String) : Act α :=
    fail ("cannot create ".toList ++ path ++ ": ".toList ++ why.toList)
  let create (how : Writing) : Act Descriptor := do
    match ← openForWriting how path with
    | .ok d => return d
    | .error .exists => cannotCreate "File exists"
    | .error (.path .isADirectory) =>
      if how.isNew then cannotOpen "Is a directory" else cannotCreate "Is a directory"
    | .error (.path .missing) => cannotCreate "Directory nonexistent"
    | .error (.path .notADirectory) => cannotCreate "Directory nonexistent"
    | .error (.path e) => cannotCreate e.message
  match o with
  | .writing => create ⟨false, true, false, (← strand).has 'C'⟩
  | .replacing => create ⟨false, true, false, false⟩
  | .appending => create ⟨true, false, false, false⟩
  | .both => create ⟨false, false, true, false⟩
  | .reading =>
    match ← openForReading path with
    | .ok d => return d
    | .error e =>
      let why := match e with
        | .missing | .notADirectory => "No such file"
        | e => e.message
      cannotOpen why

end RemoteInterpreter.Shell
