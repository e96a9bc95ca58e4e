import RemoteInterpreter.Shell.Real
import RemoteInterpreter.Shell.Tool.Intake

/-!
# Running other programs

Tools that change something for another program, and then run it in their own place, and
tools that wait.
-/

namespace RemoteInterpreter.Shell.Tool

/-- Waits for so many nanoseconds. -/
def sleep (called : Text) (args : List Text) : Act Unit := do
  let (_, times) ← optionsOr 1 called [] true args
  if times.isEmpty then misuse called "missing operand".toList 1
  let bad := times.filter fun t => (nanoseconds? t).isNone
  if bad.isEmpty then sleepUntil ((← strand).clock + (times.filterMap nanoseconds?).sum)
  else
    for t in bad do
      warn called ("invalid time interval ".toList ++ (← quoted t))
    writeError (hint called)
    quit 1

/-- The status of a tool if a program cannot be run. -/
def failureStatus (e : Filesystem.Fault) : Nat := if e = .missing then 127 else 126

/-- Runs a program in place of the tool. -/
def runInPlace (l : Launcher) (called : Text) (complaint : String) (name : Text)
    (args : List Text) : Act Unit := do
  flush
  match ← l.exec name args with
  | none => pure ()
  | some e =>
    die called (complaint.toList ++ (← quoted name) ++ ": ".toList ++ e.message.toList)
      (failureStatus e)

/-! The environment -/

def setEnvironment (name value : Text) : Act Unit :=
  changeStrand fun s => s.putVariable name ⟨some value, true, false⟩

def printEnvironment (mark : Char) : Act Unit := do
  for (name, t) in (← strand).environment do
    put (name ++ '=' :: t ++ [mark])

/-- A text falls apart into words at blanks, but not where it is quoted. -/
def splitWords (environment : List (Text × Text)) : Nat → Option Text → Text → List Text
  | 0, word, _ => word.toList.map List.reverse
  | fuel + 1, word, t =>
    let add (cs : Text) (t : Text) : List Text :=
      splitWords environment fuel (some (cs.reverse ++ word.getD [])) t
    match t with
    | [] => word.toList.map List.reverse
    | '\'' :: rest =>
      let inner := rest.takeWhile (· ≠ '\'')
      add inner (rest.drop (inner.length + 1))
    | '"' :: rest =>
      let inner := rest.takeWhile (· ≠ '"')
      add inner (rest.drop (inner.length + 1))
    | '$' :: '\x7b' :: rest =>
      let name := rest.takeWhile (· ≠ '\x7d')
      add ((environment.lookup name).getD []) (rest.drop (name.length + 1))
    | '\\' :: '_' :: rest => word.toList.map List.reverse ++ splitWords environment fuel none rest
    | '\\' :: 'c' :: _ => word.toList.map List.reverse
    | '\\' :: 'n' :: rest => add ['\n'] rest
    | '\\' :: 't' :: rest => add ['\t'] rest
    | '\\' :: c :: rest => add [c] rest
    | c :: rest =>
      if isBlank c then word.toList.map List.reverse ++ splitWords environment fuel none rest
      else if c = '#' && word.isNone then []
      else add [c] rest

def envOptions : List Known :=
  known [('i', "ignore-environment"), ('0', "null"), ('v', "debug")]
    [('u', "unset"), ('C', "chdir"), ('S', "split-string"), ('a', "argv0")] ++
  [⟨'α', "block-signal", .maybe⟩, ⟨'β', "default-signal", .maybe⟩,
   ⟨'γ', "ignore-signal", .maybe⟩]

/-- Words that are to fall apart do so before the options are read. -/
def unfolded (s : Strand) : List Text → List Text
  | [] => []
  | word :: rest =>
    let words (t : Text) : List Text := splitWords s.environment (2 * t.length + 2) none t
    match word, rest with
    | ['-', 'S'], t :: rest => words t ++ rest
    | '-' :: 'S' :: t, rest => words t ++ rest
    | ['-', 'v', 'S'], t :: rest => words t ++ rest
    | '-' :: 'v' :: 'S' :: t, rest => words t ++ rest
    | _, rest =>
      match Text.cut? '=' word with
      | some (name, t) => if name = "--split-string".toList then words t ++ rest else word :: rest
      | none => word :: rest

def env (l : Launcher) (called : Text) (args : List Text) : Act Unit := do
  let args := unfolded (← strand) args
  let (os, words) ← optionsOr 125 called envOptions false args
  let (os, words) := match words with
    | ['-'] :: rest => (('i', []) :: os, rest)
    | words => (os, words)
  if has os 'i' then changeStrand fun s => { s with vars := [] }
  for (c, name) in os do
    if c = 'u' then
      if name.isEmpty || name.contains '=' then
        die called ("cannot unset ".toList ++ (← quoted name) ++ ": Invalid argument".toList) 125
      changeStrand fun s => { s with vars := without name s.vars }
  let assignments := words.takeWhile (·.contains '=')
  for t in assignments do
    match Text.cut? '=' t with
    | some (name, value) => setEnvironment name value
    | none => pure ()
  match words.drop assignments.length with
  | [] =>
    if has os 'C' then misuse called "must specify command with --chdir (-C)".toList 125
    printEnvironment (if has os '0' then '\x00' else '\n')
  | name :: rest =>
    if has os '0' then misuse called "cannot specify --null (-0) with command".toList 125
    match valueOf? os 'C' with
    | none => pure ()
    | some path =>
      let cannot (e : Filesystem.Fault) : Act Unit := do
        die called ("cannot change directory to ".toList ++
          quoteFully (isUnicode (← strand)) path ++ ": ".toList ++ e.message.toList) 125
      match ← locate path with
      | .ok (place, ⟨.directory, _, _⟩) =>
        changeStrand fun s => { s with directory := place, path := Filesystem.pathOf place }
      | .ok _ => cannot .notADirectory
      | .error e => cannot e
    runInPlace l called "" name rest

def printenv (called : Text) (args : List Text) : Act Unit := do
  let (os, names) ← optionsOr 2 called (known [('0', "null")] []) false args
  let mark := if has os '0' then '\x00' else '\n'
  let environment := (← strand).environment
  if names.isEmpty then printEnvironment mark
  else
    for name in names do
      match environment.lookup name with
      | some t => put (t ++ [mark])
      | none => setStatus 1

/-! Changed circumstances -/

/-- An adjustment may be told by a word that is a number behind a hyphen. -/
def withAdjustment : List Text → List Text
  | ('-' :: cs) :: rest =>
    let digits := match cs with
      | '-' :: ds | '+' :: ds => ds
      | ds => ds
    if Numeral.isNumeral digits then ['-', 'n'] :: cs :: rest else ('-' :: cs) :: rest
  | words => words

def nice (l : Launcher) (called : Text) (args : List Text) : Act Unit := do
  let all := known [] [('n', "adjustment")]
  let (os, words) ← optionsOr 125 called all false (withAdjustment args)
  let adjustment ← match valueOf? os 'n' with
    | none => pure 10
    | some t =>
      let a := integerAhead false t
      if a.isMissing || !a.behind.isEmpty then
        die called ("invalid adjustment ".toList ++ (← quoted t)) 125
      else pure a.value
  match words with
  | [] =>
    if has os 'n' then misuse called "a command must be given with an adjustment".toList 125
    putLine (Numeral.writeInt (← strand).niceness)
  | name :: rest =>
    changeStrand fun s => { s with niceness := max (-20) (min 19 (s.niceness + adjustment)) }
    runInPlace l called "" name rest

def nohup (l : Launcher) (called : Text) (args : List Text) : Act Unit := do
  let (_, words) ← optionsOr 125 called [] false args
  match words with
  | [] => misuse called "missing operand".toList 125
  | name :: rest =>
    changeStrand fun s => { s with traps := Shell.put "HUP".toList [] s.traps }
    runInPlace l called "failed to run command " name rest

def setsid (l : Launcher) (called : Text) (args : List Text) : Act Unit := do
  let all := known [('c', "ctty"), ('f', "fork"), ('w', "wait")] []
  let (_, words) ← optionsOr 1 called all false args
  match words with
  | [] => misuse called "no command specified".toList 1
  | name :: rest =>
    flush
    match ← l.exec name rest with
    | none => pure ()
    | some e =>
      die called ("failed to execute ".toList ++ name ++ ": ".toList ++ e.message.toList)
        (failureStatus e)

/-- How a stream is buffered. -/
def isBufferMode (t : Text) : Bool :=
  t = ['L'] ||
    let digits := t.takeWhile Char.isDigit
    !digits.isEmpty &&
      ["", "K", "M", "G", "k", "KB", "MB", "kB", "B"].contains (Text.str (t.drop digits.length))

def stdbuf (l : Launcher) (called : Text) (args : List Text) : Act Unit := do
  let all := known [] [('i', "input"), ('o', "output"), ('e', "error")]
  let (os, words) ← optionsOr 125 called all false args
  for (c, mode) in os do
    if c = 'i' && mode = ['L'] then
      misuse called "line buffering stdin is meaningless".toList 125
    if !isBufferMode mode then die called ("invalid mode ".toList ++ (← quoted mode)) 125
  match words with
  | [] => misuse called "missing operand".toList 125
  | name :: rest =>
    if os.isEmpty then misuse called "you must specify a buffering mode option".toList 125
    for (c, mode) in os do
      setEnvironment ("_STDBUF_".toList ++ [c.toUpper]) mode
    runInPlace l called "failed to run command " name rest

/-! Limited time -/

/-- A signal by its number or its name, which may begin in the usual way. -/
def signalNamed? (t : Text) : Option Nat :=
  let upper := t.map Char.toUpper
  let name := if "SIG".toList.isPrefixOf upper then upper.drop 3 else upper
  match Numeral.read? t with
  | some n => if n < 65 then some n else none
  | none => (Signal.names.find? fun s => s.1.toList = name).map Prod.snd

def timeout (l : Launcher) (called : Text) (args : List Text) : Act Unit := do
  let all := known [('p', "preserve-status"), ('f', "foreground"), ('v', "verbose")]
    [('k', "kill-after"), ('s', "signal")]
  let (os, words) ← optionsOr 125 called all false args
  let time (t : Text) : Act Nat := do
    match nanoseconds? t with
    | some n => return n
    | none => misuse called ("invalid time interval ".toList ++ (← quoted t)) 125
  let patience ← match valueOf? os 'k' with
    | some t => some <$> time t
    | none => pure none
  let signal ← match valueOf? os 's' with
    | some t =>
      match signalNamed? t with
      | some n => pure n
      | none => misuse called ((← quoted t) ++ ": invalid signal".toList) 125
    | none => pure 15
  match words with
  | [] | [_] =>
    writeError (hint called)
    quit 125
  | limit :: name :: rest =>
    let limit ← time limit
    let own := (← strand).number
    let deadline := (← strand).clock + limit
    let child := (← world).strands
    let due : List Signal := if limit = 0 then [] else
      ⟨child, deadline, signal, true⟩ ::
        ((patience.filter (0 < ·)).map fun n => ⟨child, deadline + n, 9, true⟩).toList
    changeWorld fun w =>
      { w with
        signals := due ++ w.signals
        wakes := due.map (fun k => (own, k.instant)) ++ w.wakes }
    match ← launch l id name rest with
    | .error e =>
      die called ("failed to run command ".toList ++ (← quoted name) ++ ": ".toList ++
        e.message.toList) (failureStatus e)
    | .ok o =>
      match o.status with
      | none => starve
      | some status =>
        changeWorld fun w =>
          { w with
            signals := w.signals.filter fun k => !(k.isGroup && k.strand = child)
            wakes := w.wakes.filter fun k => k.1 ≠ own }
        reach o.clock
        let isLate := limit ≠ 0 && deadline ≤ o.clock
        if isLate then
          if has os 'v' then
            warn called ("sending signal ".toList ++ Signal.nameOf signal ++
              " to command ".toList ++ (← quoted name))
          if o.signal = some 9 && !has os 'f' then throw (.killed 9)
          quit (if has os 'p' || o.signal = some 9 then status else 124)
        else
          match o.signal with
          | some n => throw (.killed n)
          | none => quit status

end RemoteInterpreter.Shell.Tool
