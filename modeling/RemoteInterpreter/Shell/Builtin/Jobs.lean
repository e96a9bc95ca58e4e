import RemoteInterpreter.Shell.Builtin.Basic

/-!
# Loops, signals and jobs

The builtin commands that leave loops and functions, send and trap signals, and look
after commands in the background.
-/

namespace RemoteInterpreter.Shell.Builtin

/-! Loops and functions -/

def exit (args : List Text) : Act Unit := do
  match args with
  | [] =>
    match (← strand).saved with
    | some n => setStatus n
    | none => pure ()
  | t :: _ => setStatus ((← count t) % 256)
  throw .exited

def leaveFunction (args : List Text) : Act Unit := do
  match args with
  | [] => pure ()
  | t :: _ => setStatus (← count t)
  throw .returned

/-- How many loops are meant, but not more than there are. -/
def levels (args : List Text) : Act Nat := do
  match args with
  | [] => return min 1 (← strand).loops
  | t :: _ =>
    let n ← count t
    if n = 0 then illegalNumber t else return min n (← strand).loops

def leave (stop : Nat → Stop) (args : List Text) : Act Unit := do
  let n ← levels args
  setStatus 0
  if n ≠ 0 then throw (stop n)

/-! Signals -/

/-- A signal by its number or its name. -/
def signal? (t : Text) : Option Nat :=
  match Numeral.read? t with
  | some n => if n < 65 then some n else none
  | none => (Signal.names.find? fun s => s.1.toList = t.map Char.toUpper).map Prod.snd

def trap (args : List Text) : Act Unit := do
  let (_, args) ← options [] args
  let change (action : Option Text) (signals : List Text) : Act Unit := do
    setStatus 0
    for t in signals do
      match signal? t with
      | none =>
        writeError ("trap: ".toList ++ t ++ ": bad trap\n".toList)
        setStatus 1
      | some n =>
        let name := Signal.nameOf n
        changeStrand fun s =>
          { s with traps := match action with
              | some a => put name a s.traps
              | none => without name s.traps }
  match args with
  | [] =>
    let traps := (← strand).traps
    for (name, _) in Signal.names do
      match traps.lookup name.toList with
      | some action =>
        print ("trap -- ".toList ++ quoted action ++ ' ' :: name.toList ++ ['\n'])
      | none => pure ()
    setStatus 0
  | [t] => change none [t]
  | ['-'] :: signals => change none signals
  | action :: signals =>
    if Numeral.isNumeral action then change none args else change (some action) signals

/-! Jobs -/

/-- The jobs that this strand has started, the latest first. -/
def ownJobs : Act (List Job) := do
  let number := (← strand).number
  return (← world).jobs.filter fun j => j.owner = number

/-- A job of this strand by its sign. -/
def jobOf (t : Text) : Act Job := do
  let jobs ← ownJobs
  let noCurrent {α : Type} : Act α := fail "No current job".toList
  match t with
  | ['%'] | ['%', '%'] | ['%', '+'] =>
    match jobs with
    | j :: _ => return j
    | [] => noCurrent
  | ['%', '-'] =>
    match jobs with
    | _ :: j :: _ => return j
    | _ => fail "No previous job".toList
  | t =>
    let found := if Numeral.isNumeral t.tail then
      jobs.find? fun j => j.number = Numeral.value t.tail else none
    match found with
    | some j => return j
    | none => fail ("No such job: ".toList ++ t)

def markKnown (j : Job) : Act Unit :=
  changeWorld fun w =>
    { w with jobs := w.jobs.map fun k =>
        if k.strand = j.strand then { k with isKnown := true } else k }

def dropJob (j : Job) : Act Unit :=
  changeWorld fun w => { w with jobs := w.jobs.filter fun k => k.strand ≠ j.strand }

/-- What is said of how a job is going. -/
def stateOf (now : Instant) (j : Job) : Text × Bool :=
  match j.ended with
  | none => ("Running".toList, false)
  | some (t, n) =>
    if now < t then ("Running".toList, false)
    else if n = 0 then ("Done".toList, true)
    else if 128 < n then ((killedMessage (n - 128)).dropLast, true)
    else ("Done(".toList ++ Numeral.write n ++ [')'], true)

def listJobs (args : List Text) : Act Unit := do
  let (os, operands) ← options ['l', 'p'] args
  let jobs ← ownJobs
  let wanted ← if operands.isEmpty then pure jobs.reverse else operands.mapM jobOf
  let now := (← strand).clock
  for j in wanted do
    let pid := Numeral.write (processNumber j.strand)
    if os.getLast? = some 'p' then print (pid ++ ['\n'])
    else
      let sign := if (jobs.head?.map Job.strand) = some j.strand then '+'
        else if (jobs.tail.head?.map Job.strand) = some j.strand then '-' else ' '
      let (state, isOver) := stateOf now j
      let front := '[' :: Numeral.write j.number ++ "] ".toList ++ [sign, ' ']
      let front := if os.contains 'l' then front ++ pid ++ [' '] else front
      let t := front ++ state
      print (t ++ List.replicate (max 1 (33 - t.length)) ' ' ++ ['\n'])
      if isOver then dropJob j
  setStatus 0

def killUsage : Text :=
  "Usage: kill [-s sigspec | -signum | -sigspec] [pid | job]... or\nkill -l [exitstatus]".toList

def kill (args : List Text) : Act Unit := do
  let send (n : Nat) (targets : List Text) : Act Unit := do
    if targets.isEmpty then fail killUsage
    else
      setStatus 0
      for t in targets do
        let sent ← if t.head? = some '%' then
            let _ ← jobOf t
            pure false
          else
            match decimal? t with
            | some k => sendSignal k.natAbs n
            | none => illegalNumber t
        if !sent then
          complain "No such process\n".toList
          setStatus 1
  match args with
  | [] => fail killUsage
  | ['-', 'l'] :: [] =>
    for (name, n) in Signal.names do
      if n ≠ 0 then print (name.toList ++ ['\n'])
    setStatus 0
  | ['-', 'l'] :: t :: _ =>
    let n ← count t
    print (Signal.nameOf (if 128 < n then n - 128 else n) ++ ['\n'])
    setStatus 0
  | ['-', 's'] :: name :: targets =>
    match signal? name with
    | some n => send n targets
    | none => fail ("invalid signal number or name: ".toList ++ name)
  | ['-', '-'] :: targets => send 15 targets
  | ('-' :: name) :: targets =>
    match signal? name with
    | some n => send n targets
    | none => illegalOption (name.headD '-')
  | targets => send 15 targets

/-- The clock goes on to the end of a job. A signal with a trap ends the wait; the result tells
whether none did, and the status. -/
def awaitJob (j : Job) : Act (Bool × Nat) := do
  match ← interruption? (j.ended.map Prod.fst) with
  | some t =>
    let number? := (← world).signals.find? fun k => k.instant = t
    reach t
    return (false, 128 + (number?.map Signal.number).getD 0)
  | none =>
    match j.ended with
    | none => starve
    | some (t, n) =>
      reach t
      markKnown j
      return (true, n)

def awaitJobs : List Job → Act Unit
  | [] => setStatus 0
  | j :: rest => do
    match ← awaitJob j with
    | (true, _) => awaitJobs rest
    | (false, n) => setStatus n

def wait (args : List Text) : Act Unit := do
  let (_, args) ← options [] args
  match args with
  | [] => awaitJobs (← ownJobs).reverse
  | args =>
    setStatus 127
    for t in args do
      let job? ← if t.head? = some '%' then some <$> jobOf t
        else
          let n ← count t
          pure ((← ownJobs).find? fun j => processNumber j.strand = n)
      match job? with
      | some j =>
        let (ended, status) ← awaitJob j
        if ended && 128 < status then writeError (killedMessage (status - 128))
        setStatus status
      | none => pure ()

end RemoteInterpreter.Shell.Builtin
