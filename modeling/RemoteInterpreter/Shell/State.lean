import RemoteInterpreter.Entries
import RemoteInterpreter.Filesystem
import RemoteInterpreter.Shell.Fields

/-!
# The state of a shell

A shell consists of strands: the shell itself, its subshells, and the programs that it
runs. Every strand has its own variables, descriptors and clock. Streams and files
belong to all of them. What is written carries the time of its writer, so that strands
that run side by side can be followed one after the other.
-/

namespace RemoteInterpreter.Shell

/-- Nanoseconds since the interpreter was started. -/
abbrev Instant := Nat

/-- Octets that come one after the other, each at its instant. -/
structure Stream where
  octets : List (Instant × Char)
  /-- What was written behind them, the latest first. -/
  written : List (Instant × Text)
  /-- When it ended, if nothing more will come. -/
  ended : Option Instant

/-- What a descriptor leads to. -/
inductive Descriptor where
  /-- Reading from a stream. -/
  | source (stream : Nat)
  /-- Writing to a stream. -/
  | sink (stream : Nat)
  | out
  | err
  /-- An opened file, by its number. -/
  | file (number : Nat)
  /-- Nothing can be read, and what is written is lost. -/
  | nothing
  /-- Zeros without end can be read, and what is written is lost. -/
  | zeros
  /-- Zeros without end can be read, and there is no room to write. -/
  | full
  | directory
  deriving DecidableEq, Repr

/-- A file that was opened. -/
structure Opened where
  file : Nat
  offset : Nat
  appends : Bool
  reads : Bool
  writes : Bool
  /-- What is behind the offset, if that is known. -/
  ahead : Option Text

structure Variable where
  /-- A variable without a value may have attributes. -/
  value : Option Text
  isExported : Bool
  isReadonly : Bool

def Variable.unset : Variable := ⟨none, false, false⟩

abbrev Variables := List (Text × Variable)

/-- What comes back when a function ends. -/
structure Frame where
  vars : Variables
  options : Option (List Char)

def Frame.empty : Frame := ⟨[], none⟩

/-- Something written to an output. -/
structure Event where
  strand : Nat
  instant : Instant
  isError : Bool
  text : Text

structure Signal where
  /-- The strand that gets it. -/
  strand : Nat
  instant : Instant
  number : Nat
  /-- All strands that have been started since that one get it. -/
  isGroup : Bool

def Signal.isFor (strand : Nat) (born : Instant) (k : Signal) : Bool :=
  if k.isGroup then k.strand ≤ strand && born < k.instant else k.strand = strand

/-- A strand in the background. -/
structure Job where
  strand : Nat
  /-- The number of the first strand that does not belong to it. -/
  limit : Nat
  /-- The strand that started it. -/
  owner : Nat
  /-- Its number among the jobs of that strand. -/
  number : Nat
  /-- When it ended and with which status, if it has. -/
  ended : Option (Instant × Nat)
  /-- Somebody has learnt of its end. -/
  isKnown : Bool

structure Strand where
  number : Nat
  /-- The strand of the shell that it belongs to. -/
  shell : Nat
  clock : Instant
  /-- When it was started. -/
  born : Instant
  name : Text
  params : List Text
  vars : Variables
  functions : List (Text × Command)
  aliases : List (Text × Text)
  /-- What the local names of each function that is being run are outside of it. -/
  frames : List Frame
  options : List Char
  traps : List (Text × Text)
  /-- Signals with a trap that has not been run yet. -/
  pending : List Text
  /-- When signals came for many strands that this one has got. -/
  heard : List Instant
  fds : List (Nat × Descriptor)
  /-- Descriptors put aside while others take their places. -/
  aside : List Descriptor
  status : Nat
  /-- The status before the commands of a trap that are being run. -/
  saved : Option Nat
  /-- The status of the last command whose output was taken into this one. -/
  substituted : Nat
  line : Nat
  /-- The line up to which the script was read. -/
  inputLine : Nat
  /-- The builtin command in whose name messages are printed. -/
  command : Option Text
  /-- How many loops are being run. -/
  loops : Nat
  /-- How many functions are being run. -/
  depth : Nat
  directory : Filesystem.Place
  /-- The path by which the directory was entered. -/
  path : Text
  /-- The rights that files are made without. -/
  mask : Nat
  niceness : Int
  lastJob : Option Nat
  /-- The word whose options are got next, counted from one. -/
  optionWord : Nat
  /-- How many options of the word before that were got, if there are more in it. -/
  optionsGot : Option Nat
  /-- What a program has printed and not put out, the latest first. -/
  unflushed : List Text
  unflushedSize : Nat
  /-- What a tool has read of answers and not used. -/
  answers : Text
  /-- Why something could not be put out. -/
  fault : Option String
  /-- Where commands were found. -/
  tracked : List (Text × Text)
  /-- A command is being traced. -/
  isTracing : Bool

/-- What all strands share. -/
structure World where
  /-- How much time has passed. -/
  elapsed : Instant
  strands : Nat
  streams : Array Stream
  disk : Disk
  opened : Array Opened
  /-- The latest first. -/
  events : List Event
  /-- When strands that sleep go on. -/
  wakes : List (Nat × Instant)
  /-- Descriptors of strands that stand still. -/
  held : List (Nat × Descriptor)
  jobs : List Job
  signals : List Signal
  /-- How many turns of loops are left. -/
  turns : Nat
  /-- How many octets are left that can be read from files without an end. -/
  endless : Nat

structure State where
  strand : Strand
  world : World

/-- Why the commands behind are not run. -/
inductive Stop where
  | exited
  /-- An error, which ends the shell unless an ordinary builtin command ran into it. -/
  | failed
  | killed (signal : Nat)
  /-- What the strand waits for has not come yet. -/
  | starved
  | broken (levels : Nat)
  | continued (levels : Nat)
  | returned
  deriving DecidableEq, Repr

abbrev Act := ExceptT Stop (StateM State)

def strand : Act Strand := do return (← get).strand

def world : Act World := do return (← get).world

def changeStrand (f : Strand → Strand) : Act Unit :=
  modify fun s => { s with strand := f s.strand }

def changeWorld (f : World → World) : Act Unit := modify fun s => { s with world := f s.world }

def setStatus (n : Nat) : Act Unit := changeStrand fun s => { s with status := n }

/-! Variables -/

def Strand.variableOf? (name : Text) (s : Strand) : Option Variable := s.vars.lookup name

def Strand.value? (name : Text) (s : Strand) : Option Text :=
  (s.variableOf? name).bind Variable.value

/-- A name keeps its place; a new one is the last. -/
def put {α : Type} (name : Text) (a : α) : List (Text × α) → List (Text × α)
  | [] => [(name, a)]
  | (n, b) :: rest => if n = name then (n, a) :: rest else (n, b) :: put name a rest

def without {α : Type} (name : Text) (all : List (Text × α)) : List (Text × α) :=
  all.filter (·.1 ≠ name)

def Strand.putVariable (name : Text) (v : Variable) (s : Strand) : Strand :=
  { s with vars := put name v s.vars }

/-- The separators of fields; without a value they are the blanks. -/
def Strand.separators (s : Strand) : Text := (s.value? "IFS".toList).getD blanks

/-- What stands between all parameters in one text. -/
def Strand.joint (s : Strand) : Text :=
  match s.value? "IFS".toList with
  | none => [' ']
  | some t => t.take 1

def Strand.searchPath (s : Strand) : Text := (s.value? "PATH".toList).getD []

def Strand.has (option : Char) (s : Strand) : Bool := s.options.contains option

/-- Names are kept in so many rows. -/
def rowCount : Nat := 39

/-- The row that a name is kept in. -/
def rowOf (name : Text) : Nat :=
  ((name.headD '\x00').toNat * 16 + (name.map Char.toNat).sum) % rowCount

/-- Row by row; within a row as they came. -/
def inRows {α : Type} (all : List (Text × α)) : List (Text × α) :=
  (List.range rowCount).flatMap fun n => all.filter fun a => rowOf a.1 = n

/-- The variables that programs get from a shell. -/
def Strand.exported (s : Strand) : List (Text × Text) :=
  (inRows s.vars).filterMap fun (name, v) =>
    if v.isExported then v.value.map fun t => (name, t) else none

/-- The variables that a program has got. -/
def Strand.environment (s : Strand) : List (Text × Text) :=
  s.vars.filterMap fun (name, v) =>
    if v.isExported then v.value.map fun t => (name, t) else none

/-- The number by which a strand is known to others. -/
def processNumber (strand : Nat) : Nat := strand + 4000

def Strand.special? (s : Strand) : Text → Option Text
  | ['#'] => some (Numeral.write s.params.length)
  | ['?'] => some (Numeral.write s.status)
  | ['$'] => some (Numeral.write (processNumber s.shell))
  | ['!'] => s.lastJob.map fun n => Numeral.write (processNumber n)
  | ['-'] => some s.options.reverse
  | _ => none

/-- The value of a parameter or a variable. -/
def Strand.lookup? (name : Text) (s : Strand) : Option Text :=
  match name with
  | ['@'] | ['*'] =>
    if s.params.isEmpty then none else some (s.params.intersperse s.joint).flatten
  | name =>
    if (name.head?).any Char.isDigit then
      match Numeral.value name with
      | 0 => some s.name
      | n + 1 => s.params[n]?
    else (s.special? name).orElse fun _ => s.value? name

/-! Time -/

def Signal.names : List (String × Nat) :=
  [("EXIT", 0), ("HUP", 1), ("INT", 2), ("QUIT", 3), ("ILL", 4), ("TRAP", 5), ("ABRT", 6),
   ("BUS", 7), ("FPE", 8), ("KILL", 9), ("USR1", 10), ("SEGV", 11), ("USR2", 12), ("PIPE", 13),
   ("ALRM", 14), ("TERM", 15), ("STKFLT", 16), ("CHLD", 17), ("CONT", 18), ("STOP", 19),
   ("TSTP", 20), ("TTIN", 21), ("TTOU", 22), ("URG", 23), ("XCPU", 24), ("XFSZ", 25),
   ("VTALRM", 26), ("PROF", 27), ("WINCH", 28), ("IO", 29), ("PWR", 30), ("SYS", 31)] ++
  [("RTMIN", 34)] ++ ((List.range 15).map fun n => (s!"RTMIN+{n + 1}", 35 + n)) ++
  ((List.range 14).map fun n => (s!"RTMAX-{14 - n}", 50 + n)) ++ [("RTMAX", 64)]

def Signal.nameOf (n : Nat) : Text :=
  match Signal.names.find? (·.2 = n) with
  | some (name, _) => name.toList
  | none => Numeral.write n

/-- Signals that are of no effect unless there is a trap. -/
def Signal.isQuiet (n : Nat) : Bool := [0, 17, 18, 23, 28].contains n

/-- Whether a signal ends a strand. -/
def Strand.diesOf (s : Strand) (n : Nat) : Bool :=
  n = 9 || (!Signal.isQuiet n && (s.traps.lookup (Signal.nameOf n)).isNone)

/-- The first signal that ends the strand up to an instant. -/
def State.end? (s : State) (until_ : Instant) : Option Signal :=
  let due := s.world.signals.filter fun k =>
    k.isFor s.strand.number s.strand.born && k.instant ≤ until_ && s.strand.diesOf k.number
  due.foldl (fun (first : Option Signal) k =>
    match first with
    | some j => if k.instant < j.instant then some k else first
    | none => some k) none

def dieOf {α : Type} (k : Signal) : Act α := do
  changeStrand fun s => { s with clock := max s.clock k.instant, status := 128 + k.number }
  throw (.killed k.number)

/-- The clock goes on to an instant, unless the strand is killed before. -/
def reach (t : Instant) : Act Unit := do
  match (← get).end? (max t (← strand).clock) with
  | some k => dieOf k
  | none => changeStrand fun s => { s with clock := max s.clock t }

/-- Nothing happens any more in the time that has passed. -/
def starve {α : Type} : Act α := do
  match (← get).end? (← world).elapsed with
  | some k => dieOf k
  | none => throw .starved

def sleepUntil (t : Instant) : Act Unit := do
  if t ≤ (← world).elapsed then reach t
  else
    let number := (← strand).number
    changeWorld fun w => { w with wakes := (number, t) :: w.wakes }
    starve

/-- Does an action again and again, until it has a result. -/
def iterateFor {σ α : Type} (step : σ → Act (Except σ α)) :
    Nat → σ → State → Except Stop α × State
  | 0, _, s => starve s
  | n + 1, x, s =>
    match step x s with
    | (.ok (.error x), s) => iterateFor step n x s
    | (.ok (.ok a), s) => (.ok a, s)
    | (.error stop, s) => (.error stop, s)

/-- Nothing is done more often. -/
def mostTurns : Nat := 2 ^ 40

def iterate {σ α : Type} (x : σ) (step : σ → Act (Except σ α)) : Act α :=
  iterateFor step mostTurns x

/-- A strand that has used up the turns of loops that are left stands still. -/
def spendTurn : Act Unit := do
  match (← world).turns with
  | 0 => starve
  | n + 1 => changeWorld fun w => { w with turns := n }

/-- Octets of a file without an end. When none are left the strand stands still. -/
def endlessOctets (wanted : Nat) : Act Text := do
  match (← world).endless with
  | 0 => starve
  | n =>
    let count := min n wanted
    changeWorld fun w => { w with endless := n - count }
    return List.replicate count '\x00'

/-! Streams and files -/

def Strand.descriptor? (fd : Nat) (s : Strand) : Option Descriptor := s.fds.lookup fd

def Strand.setDescriptor (fd : Nat) (d : Option Descriptor) (s : Strand) : Strand :=
  let others := s.fds.filter (·.1 ≠ fd)
  { s with fds := match d with
      | some d => (fd, d) :: others
      | none => others }

def addStream (x : Stream) : Act Nat := do
  let n := (← world).streams.size
  changeWorld fun w => { w with streams := w.streams.push x }
  return n

def setStream (n : Nat) (x : Stream) : Act Unit :=
  changeWorld fun w => { w with streams := w.streams.setIfInBounds n x }

def changeStream (n : Nat) (f : Stream → Stream) : Act Unit :=
  changeWorld fun w => { w with streams := w.streams.modify n f }

/-- A stream with all that will ever come. -/
def Stream.ofText (t : Text) : Stream := ⟨t.map fun c => (0, c), [], some 0⟩

def Stream.empty : Stream := ⟨[], [], some 0⟩

/-- A stream that is going to be written. -/
def Stream.pipe : Stream := ⟨[], [], none⟩

/-- What was written is ready to be read. -/
def Stream.settled (x : Stream) : Stream :=
  if x.written.isEmpty then x
  else
    { x with
      octets := x.octets ++ x.written.reverse.flatMap fun (t, u) => u.map fun c => (t, c)
      written := [] }

def World.stream? (n : Nat) (w : World) : Option Stream := (w.streams[n]?).map Stream.settled

/-- How a text is changed by another one that is written at an offset. -/
def overwritten (offset : Nat) (new old : Text) : Text :=
  let gap := List.replicate (offset - old.length) '\x00'
  old.take offset ++ gap ++ new ++ old.drop (offset + new.length)

/-- Writes to an opened file. -/
def writeOpened (n : Nat) (t : Text) : Act (Option String) := do
  let w ← world
  match w.opened[n]? with
  | none => return some "Bad file descriptor"
  | some o =>
    if !o.writes then return some "Bad file descriptor"
    else
      let old := w.disk.content o.file
      let offset := if o.appends then old.length else o.offset
      let now := (← strand).clock
      changeWorld fun w =>
        { w with
          disk := w.disk.write o.file now (overwritten offset t old)
          opened := (w.opened.map fun p => if p.file = o.file then { p with ahead := none } else p)
            |>.setIfInBounds n { o with offset := offset + t.length, ahead := none } }
      return none

/-- Writes a text. The result tells why it could not be written, if so. -/
def writeTo (d : Option Descriptor) (t : Text) : Act (Option String) := do
  let event (isError : Bool) : Act (Option String) := do
    let s ← strand
    changeWorld fun w => { w with events := ⟨s.number, s.clock, isError, t⟩ :: w.events }
    return none
  if t.isEmpty then return none
  match d with
  | none | some (.source _) | some .directory => return some "Bad file descriptor"
  | some .nothing | some .zeros => return none
  | some .full => return some "No space left on device"
  | some .out => event false
  | some .err => event true
  | some (.sink n) =>
    let clock := (← strand).clock
    changeStream n fun x => { x with written := (clock, t) :: x.written }
    return none
  | some (.file n) => writeOpened n t

def write (fd : Nat) (t : Text) : Act (Option String) := do
  writeTo ((← strand).descriptor? fd) t

/-- Writes a message to the standard error. -/
def writeError (t : Text) : Act Unit := do
  let _ ← write 2 t

/-- What is behind the offset of an opened file. -/
def aheadOf (n : Nat) : Act Text := do
  let w ← world
  match w.opened[n]? with
  | none => return []
  | some o =>
    match o.ahead with
    | some t => return t
    | none => return (w.disk.content o.file).drop o.offset

/-- So much of an opened file was read. -/
def advance (n count : Nat) (rest : Text) : Act Unit :=
  changeWorld fun w =>
    { w with opened := w.opened.modify n fun o =>
        { o with offset := o.offset + count, ahead := some rest } }

/-- The next octet, as soon as it comes. There is none at the end. -/
def readOctetFrom (d : Option Descriptor) : Act (Option Char) := do
  match d with
  | some (.source k) =>
    match (← world).stream? k with
    | none => return none
    | some x =>
      match x.octets, x.ended with
      | (t, c) :: rest, _ =>
        reach t
        setStream k { x with octets := rest }
        return some c
      | [], some t =>
        reach t
        return none
      | [], none => starve
  | some (.file n) =>
    match ← aheadOf n with
    | c :: rest =>
      advance n 1 rest
      return some c
    | [] => return none
  | some .zeros | some .full => return (← endlessOctets 1).head?
  | _ => return none

/-- When something can be read, if that is known. -/
def readyAt? (d : Option Descriptor) : Act (Option Instant) := do
  let s ← get
  match d with
  | some (.source k) =>
    match s.world.stream? k with
    | none => return some s.strand.clock
    | some x =>
      match x.octets with
      | (t, _) :: _ => return some t
      | [] => return x.ended
  | _ => return some s.strand.clock

def readOctet (fd : Nat) : Act (Option Char) := do readOctetFrom ((← strand).descriptor? fd)

/-- Whether a descriptor can be read. -/
def isReadable (d : Descriptor) : Act (Except Filesystem.Fault Bool) := do
  match d with
  | .directory => return .error .isADirectory
  | .sink _ | .out | .err => return .ok false
  | .file n => return .ok (((← world).opened[n]?).any Opened.reads)
  | _ => return .ok true

/-- What has come by the time that something has come, no more than wanted. At the end there is
nothing. -/
def readBlock (d : Descriptor) (wanted : Nat) : Act Text := do
  match d with
  | .source k =>
    match (← world).stream? k with
    | none => return []
    | some x =>
      match x.octets, x.ended with
      | (t, _) :: _, _ =>
        reach t
        let now := (← strand).clock
        let block := (x.octets.take wanted).takeWhile fun o => o.1 ≤ now
        setStream k { x with octets := x.octets.drop block.length }
        return block.map Prod.snd
      | [], some t =>
        reach t
        return []
      | [], none => starve
  | .file n =>
    let t ← aheadOf n
    let block := t.take wanted
    advance n block.length (t.drop wanted)
    return block
  | .zeros | .full => endlessOctets wanted
  | _ => return []

/-! Messages -/

def complain (message : Text) : Act Unit := do
  let s ← strand
  let command : Text := match s.command with
    | some c => c ++ ": ".toList
    | none => []
  writeError (s.name ++ ": ".toList ++ Numeral.write s.line ++ ": ".toList ++ command ++
    message ++ ['\n'])

/-- An error that ends the command. -/
def fail {α : Type} (message : Text) : Act α := do
  complain message
  setStatus 2
  throw .failed

/-- Prints on the standard output. -/
def print (t : Text) : Act Unit := do
  match ← write 1 t with
  | none => return ()
  | some _ =>
    complain (((← strand).command.getD []) ++ ": I/O error".toList)
    setStatus 1

/-! Assignments -/

def ensureWritable (name : Text) : Act Unit := do
  if ((← strand).variableOf? name).any Variable.isReadonly then
    fail (name ++ ": is read only".toList)

/-- With the option for it every variable that is assigned is exported. -/
def setVariable (name value : Text) : Act Unit := do
  ensureWritable name
  changeStrand fun s =>
    let v := (s.variableOf? name).getD .unset
    s.putVariable name { v with value := some value, isExported := v.isExported || s.has 'a' }

/-- What depends on the value of a variable: commands are searched anew, and options are got from
another word on. -/
def assign (name value : Text) : Act Unit := do
  setVariable name value
  match name.str with
  | "PATH" => changeStrand fun s => { s with tracked := [] }
  | "OPTIND" =>
    let n := if !value.isEmpty && value.all Char.isDigit then Numeral.value value else 0
    changeStrand fun s => { s with optionWord := max 1 n, optionsGot := none }
  | _ => pure ()

def exportVariable (name : Text) : Act Unit :=
  changeStrand fun s =>
    s.putVariable name { (s.variableOf? name).getD .unset with isExported := true }

/-- What a name is now comes back when the function ends. -/
def makeLocal (name : Text) : Act Unit :=
  changeStrand fun s =>
    match s.frames with
    | [] => s
    | frame :: frames =>
      if (frame.vars.lookup name).isSome then s
      else
        let v := (s.variableOf? name).getD .unset
        { s with frames := { frame with vars := (name, v) :: frame.vars } :: frames }

/-- The options are now those of the function. -/
def makeOptionsLocal : Act Unit :=
  changeStrand fun s =>
    match s.frames with
    | [] => s
    | frame :: frames =>
      { s with frames := { frame with options := some (frame.options.getD s.options) } :: frames }

def Strand.dropFrame (s : Strand) : Strand :=
  match s.frames with
  | [] => s
  | frame :: frames =>
    let s := { s with frames := frames, options := frame.options.getD s.options }
    frame.vars.foldl (fun s (name, v) =>
      if v.value.isNone && !v.isExported && !v.isReadonly then
        { s with vars := without name s.vars }
      else s.putVariable name v) s

end RemoteInterpreter.Shell
