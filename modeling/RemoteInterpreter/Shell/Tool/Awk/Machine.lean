import RemoteInterpreter.Shell.Tool.Awk.Format
import RemoteInterpreter.Shell.Tool.Awk.Syntax
import RemoteInterpreter.Shell.Tool.Intake
import Std.Data.HashMap

/-!
# The machine that runs scripts

Variables and tables, the record and its fields, and what is read and written. The record
falls apart into its fields when one of them is needed, and is put together again when one
of them was changed.
-/

namespace RemoteInterpreter.Shell.Tool.Awk

/-- What a parameter of a function stands for. -/
inductive Local where
  | value (v : Value)
  | table (n : Nat)

/-- Something that records are read from. -/
structure Feed where
  name : Text
  /-- It is a command and not a file. -/
  isCommand : Bool
  intake : Intake
  status : Nat

inductive Target where
  | standard
  | error
  | file (d : Descriptor)
  | command

/-- Something that is written to, what was written last first. -/
structure Outlet where
  name : Text
  target : Target
  waiting : List Text

structure Machine where
  values : Std.HashMap String Value
  /-- The tables that names stand for. -/
  tableNames : Std.HashMap String Nat
  tables : Array Table
  locals : List (String × Local)
  record : Value
  /-- Nothing if the record has not yet fallen apart. -/
  fields : Option (Array Value)
  feeds : List Feed
  outlets : List Outlet
  /-- What the records come from. -/
  main : Option Intake
  /-- The argument that is next. -/
  nextArgument : Nat
  /-- A file was among the arguments. -/
  hadFile : Bool
  ended : Bool
  /-- The ranges that are open. -/
  ranges : List Nat
  seed : Value
  random : Nat

/-- How a script leaves what it is doing. -/
inductive Leave where
  | broken
  | continued
  | next
  | nextFile
  | exit
  | returned (v : Value)
  /-- It cannot go on at all. -/
  | dead

abbrev Run := ExceptT Leave (StateT Machine Act)

/-- What does not change. -/
structure Setting where
  called : Text
  launcher : Launcher
  program : Program

/-! Messages -/

def globalValue (name : String) : Run Value := do
  return ((← get).values[name]?).getD .nothing

def setGlobal (name : String) (v : Value) : Run Unit :=
  modify fun m => { m with values := m.values.insert name v }

def globalText (name : String) : Run Text := do
  match ← globalValue name with
  | .text t | .input t => return t
  | v => return v.show "%.6g".toList

/-- The script ends with an error that is told. -/
def collapse {α : Type} (message : Text) : Run α := do
  writeError (message ++ ['\n'])
  setStatus 2
  throw .dead

/-- An error that comes up while the script runs. -/
def crash {α : Type} (s : Setting) (message : Text) : Run α := do
  let number (name : String) : Run Text := do
    return Format.simple (← globalValue name).amount
  collapse (s.called ++ ": run time error: ".toList ++ message ++ "\n\tFILENAME=\"".toList ++
    (← globalText "FILENAME") ++ "\" FNR=".toList ++ (← number "FNR") ++ " NR=".toList ++
    (← number "NR"))

/-! Texts -/

def conversion : Run Text := globalText "CONVFMT"

def textOf (v : Value) : Run Text := do
  match v with
  | .nothing => return []
  | .text t | .input t => return t
  | .number x =>
    match Amount.whole? x with
    | some n => return Numeral.writeInt n
    | none => return numberText (← conversion) x

/-- An expression that is put together while the script runs. -/
def patternOf (s : Setting) (t : Text) : Run Matcher := do
  match Pattern.read t with
  | .ok m => return m
  | .error why => crash s (Pattern.message why t)

/-- What stands between the parts of a text. -/
inductive Separator where
  | blanks
  | nothing
  | mark (c : Char)
  | pattern (m : Matcher)

def separatorOf (s : Setting) (t : Text) : Run Separator := do
  match t with
  | [] => return .nothing
  | [' '] => return .blanks
  | [c] => return .mark c
  | t => return .pattern (← patternOf s t)

/-- The parts between what fits. What fits but is empty separates nothing. -/
def partsBetween (m : Matcher) : Nat → Text → Regex.Spot → List Text
  | 0, before, _ => [before.reverse]
  | fuel + 1, before, s =>
    match m.from? s with
    | none => [before.reverse ++ s.rest]
    | some (a, b) =>
      let between := s.rest.take (a.position - s.position)
      if a.position = b.position then
        match a.rest with
        | [] => [before.reverse ++ between]
        | c :: _ => partsBetween m fuel (c :: between.reverse ++ before) (a.advance 1)
      else (before.reverse ++ between) :: partsBetween m fuel [] b

def wordsOf : Nat → Text → List Text
  | 0, _ => []
  | fuel + 1, t =>
    let isBlank (c : Char) : Bool := c == ' ' || c == '\t' || c == '\n'
    match t.dropWhile isBlank with
    | [] => []
    | t =>
      let word := t.takeWhile fun c => !isBlank c
      word :: wordsOf fuel (t.drop word.length)

def Separator.split (p : Separator) (t : Text) : List Text :=
  if t.isEmpty then []
  else
    match p with
    | .blanks => wordsOf (t.length + 1) t
    | .nothing => t.map fun c => [c]
    | .mark c => Text.splitAt c t
    | .pattern m => partsBetween m (t.length + 1) [] (.of t)

/-! Fields -/

/-- The fields of the record. -/
def fieldsOf (s : Setting) : Run (Array Value) := do
  let m ← get
  match m.fields with
  | some fs => return fs
  | none =>
    let p ← separatorOf s (← globalText "FS")
    let fs := ((p.split (← textOf m.record)).map Value.input).toArray
    modify fun m => { m with fields := some fs }
    return fs

def setRecord (v : Value) : Run Unit := modify fun m => { m with record := v, fields := none }

/-- Changes the fields, and puts the record together again. -/
def setFields (fs : Array Value) : Run Unit := do
  let joint ← globalText "OFS"
  let ts ← fs.toList.mapM textOf
  modify fun m =>
    { m with record := .input (ts.intersperse joint).flatten, fields := some fs }

def resized (n : Nat) (fs : Array Value) : Array Value :=
  if n ≤ fs.size then fs.extract 0 n
  else fs ++ Array.replicate (n - fs.size) (Value.text [])

def setField (s : Setting) (n : Nat) (v : Value) : Run Unit := do
  if n = 0 then
    setRecord (match v with
      | .nothing => .text []
      | v => v)
  else
    let fs ← fieldsOf s
    let fs := if fs.size < n then resized n fs else fs
    setFields (fs.setIfInBounds (n - 1) v)

def field (s : Setting) (n : Nat) : Run Value := do
  if n = 0 then return (← get).record
  else return ((← fieldsOf s)[n - 1]?).getD .nothing

/-- The number of a field. -/
def fieldNumber (s : Setting) (v : Value) : Run Nat := do
  let x := Amount.clipped (-(2 ^ 31)) (2 ^ 31 - 1) v.amount
  if x < 0 then crash s ("negative field index $".toList ++ Numeral.writeInt x)
  else return x.toNat

/-! Variables -/

def getVariable (s : Setting) (name : String) : Run Value := do
  match (← get).locals.lookup name with
  | some (.value v) => return v
  | some (.table _) => return .nothing
  | none =>
    if name = "NF" then return .number (.ofNat (← fieldsOf s).size)
    else globalValue name

def setVariable (s : Setting) (name : String) (v : Value) : Run Unit := do
  let m ← get
  if (m.locals.lookup name).isSome then
    modify fun m =>
      { m with locals := m.locals.map fun (x, l) => (x, if x = name then .value v else l) }
  else if name = "NF" then
    let n := Amount.clipped 0 (2 ^ 31 - 1) v.amount
    setFields (resized n.toNat (← fieldsOf s))
  else
    if name = "FS" then
      let _ ← fieldsOf s
    setGlobal name v

def newTable (t : Table) : Run Nat := do
  let n := (← get).tables.size
  modify fun m => { m with tables := m.tables.push t }
  return n

/-- The table that a name stands for. -/
def tableOf (name : String) : Run Nat := do
  let m ← get
  match m.locals.lookup name with
  | some (.table n) => return n
  | _ =>
    match m.tableNames[name]? with
    | some n => return n
    | none =>
      let n ← newTable .empty
      modify fun m => { m with tableNames := m.tableNames.insert name n }
      return n

/-- Does something with a table. -/
def withTable {α : Type} (n : Nat) (f : Table → α × Table) : Run α := do
  let (x, t) := f (((← get).tables[n]?).getD .empty)
  modify fun m => { m with tables := m.tables.setIfInBounds n t }
  return x

def changeTable (n : Nat) (f : Table → Table) : Run Unit := withTable n fun t => ((), f t)

/-! Output -/

def emptyOutlet (o : Outlet) : Act Unit := do
  let t := o.waiting.reverse.flatten
  match o.target with
  | .standard => flush
  | .error => pure ()
  | .file d =>
    if !t.isEmpty then
      let _ ← writeTo (some d) t
  | .command => pure ()

/-- Puts out all that has been printed, except for what waits for commands. -/
def flushAll : Run Unit := do
  (← get).outlets.forM fun o => emptyOutlet o
  flush
  modify fun m =>
    { m with outlets := m.outlets.map fun o =>
        match o.target with
        | .command => o
        | _ => { o with waiting := [] } }

/-- The status of a command as scripts see it. -/
def statusOf (o : Outcome) : Nat :=
  match o.signal with
  | some n => 256 + n
  | none => o.status.getD 0

/-- Runs a command, and waits for it. -/
def runCommand (s : Setting) (command : Text) (prepare : Strand → Strand) : Act Nat := do
  match ← launch s.launcher prepare "/bin/sh".toList ["-c".toList, command] with
  | .error _ => return 127
  | .ok o =>
    if o.status.isNone then starve
    reach o.clock
    return statusOf o

/-- Brings what is written to its end. -/
def closeOutlet (s : Setting) (o : Outlet) : Act Nat := do
  match o.target with
  | .command =>
    let d ← openText o.waiting.reverse.flatten
    runCommand s o.name fun x => x.setDescriptor 0 (some d)
  | _ =>
    emptyOutlet o
    return 0

/-- Brings all to its end that is written. -/
def finishOutlets (s : Setting) : Run Unit := do
  let all := (← get).outlets
  modify fun m => { m with outlets := [] }
  all.forM fun o => do
    let _ ← closeOutlet s o
  flush

def addOutlet (name : Text) (t : Target) : Run Unit :=
  modify fun m => { m with outlets := ⟨name, t, []⟩ :: m.outlets }

/-- Opens what is to be written to, and puts it to the front. -/
def openOutlet (s : Setting) (k : OutletKind) (name : Text) : Run Unit := do
  let m ← get
  let isCommand (t : Target) : Bool := match t with
    | .command => true
    | _ => false
  let isIt (o : Outlet) : Bool := o.name == name && isCommand o.target == (k == .command)
  match m.outlets.find? isIt with
  | some o => set { m with outlets := o :: m.outlets.filter fun o => !isIt o }
  | none =>
    match k with
    | .command =>
      flushAll
      addOutlet name .command
    | k =>
      if name = "/dev/stdout".toList then addOutlet name .standard
      else if name = "/dev/stderr".toList then addOutlet name .error
      else
        match ← openForWriting ⟨k = .appended, k = .file, false, false⟩ name with
        | .ok d => addOutlet name (.file d)
        | .error why =>
          let message := match why with
            | .path e => e.message.toList
            | .exists => "File exists".toList
          collapse (s.called ++ ": cannot open \"".toList ++ name ++ "\" for output (".toList ++
            message ++ [')'])

/-- Prints a text. -/
def emit (s : Setting) (out : Option (OutletKind × Text)) (t : Text) : Run Unit := do
  match out with
  | none => put t
  | some (k, name) =>
    openOutlet s k name
    match (← get).outlets with
    | [] => pure ()
    | o :: rest =>
      match o.target with
      | .standard => put t
      | .error => writeError t
      | _ => modify fun m => { m with outlets := { o with waiting := t :: o.waiting } :: rest }

/-! Input -/

/-- How much is read at a time, if there is so much. -/
def bufferSize : Nat := 4096

/-- Waits until there is enough to go on with, or the end. -/
def fillUp (i : Intake) : Act Intake := do
  iterate (([] : List Text), 0) fun (before, n) => do
    let t ← readBlock i.source (bufferSize - n)
    let n := n + t.length
    let before := t :: before
    if t.isEmpty || bufferSize ≤ n then
      return .ok { i with ahead := i.ahead ++ before.reverse.flatten, ended := t.isEmpty }
    else return .error (before, n)

/-- How records end. -/
inductive RecordEnd where
  | mark (c : Char)
  /-- Lines that are empty. -/
  | emptyLine
  | pattern (m : Matcher)

def recordEnd (s : Setting) : Run RecordEnd := do
  match ← globalText "RS" with
  | [] => return .emptyLine
  | [c] => return .mark c
  | t => return .pattern (← patternOf s t)

/-- Up to two ends of lines or more, and what stands behind. -/
def paragraph : Nat → Text → Text → Option (Text × Text)
  | 0, _, _ | _ + 1, _, [] => none
  | fuel + 1, before, c :: t =>
    match c, t with
    | '\n', '\n' :: rest =>
      match rest.dropWhile (· = '\n') with
      | [] => none
      | rest => some (before.reverse, rest)
    | c, t => paragraph fuel (c :: before) t

def withoutFinal (t : Text) : Text :=
  (t.reverse.dropWhile (· = '\n')).reverse

/-- The next record. -/
def nextRecord (e : RecordEnd) (i : Intake) : Act (Option Text × Intake) := do
  iterate i fun i => do
    let last (t : Text) : Option Text × Intake :=
      (if t.isEmpty then none else some t, { i with ahead := [] })
    match e with
    | .mark c =>
      match Text.cut? c i.ahead with
      | some (t, rest) => return .ok (some t, { i with ahead := rest })
      | none => if i.ended then return .ok (last i.ahead) else return .error (← fillUp i)
    | .emptyLine =>
      let ahead := i.ahead.dropWhile (· = '\n')
      match paragraph (ahead.length + 1) [] ahead with
      | some (t, rest) => return .ok (some t, { i with ahead := rest })
      | none =>
        if i.ended then return .ok (last (withoutFinal ahead))
        else return .error (← fillUp { i with ahead := ahead })
    | .pattern m =>
      let found := (m.search i.ahead).filter fun (a, b) => a.position < b.position
      match found with
      | some (a, b) =>
        if b.rest.isEmpty && !i.ended then return .error (← fillUp i)
        else return .ok (some (i.ahead.take a.position), { i with ahead := b.rest })
      | none => if i.ended then return .ok (last i.ahead) else return .error (← fillUp i)

/-- Assigns a value to a variable as an argument tells. -/
def assignArgument (s : Setting) (t : Text) : Run Bool := do
  match Text.cut? '=' t with
  | some (name, value) =>
    if name.head?.any isNameStart && name.all isNamePart then
      setVariable s (Text.str name) (.input (withoutEscapesIn value))
      return true
    else return false
  | none => return false

/-- Opens a file that records are read from. -/
def openMain (s : Setting) (path : Text) : Run Intake := do
  let fault {α : Type} (e : Filesystem.Fault) : Run α :=
    collapse (s.called ++ ": cannot open \"".toList ++ path ++ "\" (".toList ++
      e.message.toList ++ [')'])
  match ← openOperand (if path = "/dev/stdin".toList then ['-'] else path) with
  | .error e => fault e
  | .ok d =>
    match ← readFault? d with
    | some e =>
      collapse (s.called ++ ": read error (".toList ++ e.message.toList ++ [')'])
    | none =>
      setGlobal "FILENAME" (.text path)
      setGlobal "FNR" (.number Amount.zero)
      return Intake.of d

/-- The next file of the arguments, or the standard input if there is none among them. -/
def nextFile (s : Setting) : Nat → Run (Option Intake)
  | 0 => return none
  | fuel + 1 => do
    let m ← get
    let count := Amount.clipped 0 (2 ^ 31) (← globalValue "ARGC").amount
    if count ≤ m.nextArgument then
      if m.hadFile then return none
      else
        modify fun m => { m with hadFile := true }
        return some (← openMain s ['-'])
    else
      modify fun m => { m with nextArgument := m.nextArgument + 1 }
      let n ← tableOf "ARGV"
      let key : Key := .integer m.nextArgument
      if !(← withTable n (Table.has key)) then nextFile s fuel
      else
        let t ← textOf (← withTable n (Table.get key))
        if t.isEmpty then nextFile s fuel
        else if ← assignArgument s t then nextFile s fuel
        else
          modify fun m => { m with hadFile := true }
          return some (← openMain s t)

/-- The next record of the input. -/
def readMain (s : Setting) : Nat → Run (Option Text)
  | 0 => return none
  | fuel + 1 => do
    let m ← get
    if m.ended then return none
    else
      match m.main with
      | none =>
        let most := Amount.clipped 0 (2 ^ 31) (← globalValue "ARGC").amount
        match ← nextFile s (most.toNat + 2) with
        | none =>
          modify fun m => { m with ended := true }
          return none
        | some i =>
          modify fun m => { m with main := some i }
          readMain s fuel
      | some i =>
        match ← nextRecord (← recordEnd s) i with
        | (none, _) =>
          modify fun m => { m with main := none }
          readMain s fuel
        | (some t, i) =>
          modify fun m => { m with main := some i }
          for name in ["NR", "FNR"] do
            let x := (← globalValue name).amount
            setGlobal name (.number (Amount.lift₂ (· + ·) x Amount.one))
          return some t

/-- Whether something is read already, or can be read. -/
def openFeed (s : Setting) (isCommand : Bool) (name : Text) : Run Bool := do
  let isIt (f : Feed) : Bool := f.name == name && f.isCommand == isCommand
  if (← get).feeds.any isIt then return true
  else
    let add (i : Intake) (status : Nat) : Run Bool := do
      modify fun m => { m with feeds := ⟨name, isCommand, i, status⟩ :: m.feeds }
      return true
    if isCommand then
      flushAll
      let (t, o) ← overhear s.launcher "/bin/sh" name
      add (.of (← openText t)) ((o.map statusOf).getD 127)
    else
      match ← openOperand (if name = "/dev/stdin".toList then ['-'] else name) with
      | .error _ => return false
      | .ok d =>
        match ← readFault? d with
        | some e =>
          collapse (s.called ++ ": read error (".toList ++ e.message.toList ++ [')'])
        | none => add (.of d) 0

/-- The next record of a file or of a command, and whether there is one: less than zero if it
cannot be read. -/
def readFeed (s : Setting) (isCommand : Bool) (name : Text) : Run (Int × Text) := do
  if !(← openFeed s isCommand name) then return (-1, [])
  else
    let isIt (f : Feed) : Bool := f.name == name && f.isCommand == isCommand
    match (← get).feeds.find? isIt with
    | none => return (-1, [])
    | some f =>
      let (t, i) ← nextRecord (← recordEnd s) f.intake
      modify fun m =>
        { m with feeds := m.feeds.map fun f => if isIt f then { f with intake := i } else f }
      match t with
      | some t => return (1, t)
      | none => return (0, [])

/-- Closes what has a name. -/
def close (s : Setting) (name : Text) : Run Int := do
  let m ← get
  let (outs, outlets) := m.outlets.partition fun o => o.name == name
  let (ins, feeds) := m.feeds.partition fun f => f.name == name
  set { m with outlets := outlets, feeds := feeds }
  let fromOutlets ← outs.mapM fun o => closeOutlet s o
  match fromOutlets.getLast?, ins.getLast? with
  | some n, _ => return n
  | none, some f => return f.status
  | none, none => return -1

end RemoteInterpreter.Shell.Tool.Awk
