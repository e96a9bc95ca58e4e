import RemoteInterpreter.Shell.Expansion
import RemoteInterpreter.Shell.Parser
import RemoteInterpreter.Shell.Start
import RemoteInterpreter.Shell.Tool

/-!
# Running commands

Words are expanded and commands are run in turn, since a word may contain commands. The
fuel bounds how deep that goes; a strand without fuel stands still.
-/

namespace RemoteInterpreter.Shell

/-- How a command is run. -/
structure Manner where
  /-- Its failure is looked at, and does not end the shell. -/
  isTested : Bool
  /-- Nothing is run behind it, so that a program takes the place of the shell. -/
  isLast : Bool

def Manner.ordinary : Manner := ⟨false, false⟩

def Manner.tested : Manner := ⟨true, false⟩

def Manner.final : Manner := ⟨false, true⟩

/-- Something is done behind the command. -/
def Manner.inner (m : Manner) : Manner := { m with isLast := false }

/-! Loops -/

/-- Whether a loop goes on behind a turn of it. -/
inductive Turn where
  | again
  | finished
  | stopped (s : Stop)

def turnOf : Except Stop Unit → Turn
  | .ok () => .again
  | .error (.broken n) => if n ≤ 1 then .finished else .stopped (.broken (n - 1))
  | .error (.continued n) => if n ≤ 1 then .again else .stopped (.continued (n - 1))
  | .error stop => .stopped stop

def changeLoops (f : Nat → Nat) : Act Unit := changeStrand fun s => { s with loops := f s.loops }

def leaveLoop {α : Type} (stop : Stop) : Act α := do
  changeLoops (· - 1)
  throw stop

/-! Redirections -/

/-- A redirection whose words have been expanded. -/
inductive Target where
  | file (fd : Nat) (opening : Opening) (path : Text)
  /-- What another descriptor leads to; nothing, if there is none. -/
  | sameAs (fd : Nat) (source : Option Nat)
  | text (fd : Nat) (word : Word)

def Target.fd : Target → Nat
  | .file fd _ _ | .sameAs fd _ | .text fd _ => fd

/-- The number of a descriptor, or a sign that there is none. -/
def descriptorNumber (t : Text) : Act (Option Nat) := do
  match t with
  | ['-'] => return none
  | [c] => if c.isDigit then return some (Numeral.value [c]) else bad
  | _ => bad
where
  bad : Act (Option Nat) := do
    changeStrand fun s => { s with line := s.inputLine }
    fail "Syntax error: Bad fd number".toList

/-! Jobs -/

/-- The lowest number from some on that is not among others. -/
def freeNumber (taken : List Nat) : Nat → Nat → Nat
  | 0, n => n
  | fuel + 1, n => if taken.contains n then freeNumber taken fuel (n + 1) else n

/-- A strand is a job from now on. It takes the number of one that is known to have ended. -/
def addJob (first limit : Nat) (o : Outcome) : Act Unit := do
  let owner := (← strand).number
  changeWorld fun w =>
    let own := w.jobs.filter fun j => j.owner = owner
    let taken := (own.filter fun j => !(j.isKnown && j.ended.isSome)).map Job.number
    let number := freeNumber taken taken.length 1
    let others := w.jobs.filter fun j => !(j.owner = owner && j.number = number)
    let ended := o.status.map fun n => (o.clock, n)
    { w with jobs := ⟨first, limit, owner, number, ended, false⟩ :: others }
  changeStrand fun s => { s with lastJob := some first }

/-- Goes on when all commands of a pipeline have ended. The last one tells the status. -/
def awaitStages (outcomes : List Outcome) : Act Unit := do
  if outcomes.any fun o => o.status.isNone then starve
  else outcomes.forM awaitEnd

/-! Commands -/

/-- What a simple command is when its words are known. -/
structure Called where
  name : Text
  args : List Text
  /-- No function is meant. -/
  byName : Bool
  /-- It is searched in the standard directories. -/
  isStandard : Bool

/-- The options of the command that runs another one by its name. Nothing comes of those that do
not run it. -/
def namedBy : List Text → Bool → Option (List Text × Bool)
  | [], _ => none
  | ['-', '-'] :: rest, standard => if rest.isEmpty then none else some (rest, standard)
  | ['-'] :: rest, standard => some (['-'] :: rest, standard)
  | ('-' :: cs) :: rest, _ => if cs.all (· = 'p') then namedBy rest true else none
  | words, standard => some (words, standard)

/-- A command that is named by another one is no function. -/
def calledFor (functions : List (Text × Command)) : Nat → Called → Called
  | 0, c => c
  | fuel + 1, c =>
    if c.name ≠ "command".toList || (!c.byName && (functions.lookup c.name).isSome) then c
    else
      match namedBy c.args c.isStandard with
      | some (name :: args, standard) => calledFor functions fuel ⟨name, args, true, standard⟩
      | _ => c

def calledBy (s : Strand) (name : Text) (args : List Text) : Called :=
  calledFor s.functions (args.length + 1) ⟨name, args, false, false⟩

/-- Whether words behind some others may be assignments. -/
def declares (s : Strand) (before : List Text) : Bool :=
  match before with
  | [] => false
  | name :: args => Builtin.declares (calledBy s name args).name

/-- Why a program is not run. -/
def notRun (e : Filesystem.Fault) : Text :=
  match e with
  | .missing | .notADirectory => "not found".toList
  | e => e.message.toList

/-- The status if a program is not run. -/
def notRunStatus (e : Filesystem.Fault) : Nat :=
  match e with
  | .denied | .isADirectory => 126
  | _ => 127

/-- How deep functions may call functions. -/
def deepest : Nat := 1000

/-- How much of a script is read at a time. -/
def scriptBlock : Nat := 8192

/-- Whether something is done when a signal comes or the shell ends. -/
def Strand.hasTraps (s : Strand) : Bool := s.traps.any fun t => !t.2.isEmpty

/-- Prints what a command is made of before it is run. -/
def traced (err : Option Descriptor) (front : Text) (shown : List Text) : Act Unit := do
  let _ ← writeTo err (front ++ (shown.intersperse [' ']).flatten ++ ['\n'])

/-- With the option for it a command that fails ends the shell. -/
def checkStatus (m : Manner) : Act Unit := do
  let s ← strand
  if !m.isTested && s.status ≠ 0 && s.has 'e' then throw .exited

mutual

/-- The segments of a word. Inside the word of a parameter unquoted text may be cut, too. -/
def expand : Nat → Bool → Bool → Word → Act (List Segment)
  | 0, _, _, _ => starve
  | fuel + 1, splits, inside, w => do
    let parts ← w.mapM (expandPiece fuel splits inside)
    return parts.flatten

def expandPiece : Nat → Bool → Bool → Piece → Act (List Segment)
  | 0, _, _, _ => starve
  | fuel + 1, splits, inside, piece => do
    match piece with
    | .literal quoted t =>
      return [⟨if quoted || !inside then .nowhere else .atSeparators, t.map fun c => (c, quoted)⟩]
    | .mark => return [quoteMark]
    | .value quoted name operation => expandValue fuel splits quoted name operation
    | .output quoted c => return [segmentOf quoted (← substitute fuel c)]
    | .arithmetic quoted w =>
      let t := unmarked (wholeWord (← expand fuel false false w))
      return [segmentOf quoted (← reckonText t)]

def expandValue : Nat → Bool → Bool → Text → Operation → Act (List Segment)
  | 0, _, _, _, _ => starve
  | fuel + 1, splits, quoted, name, operation => do
    let s ← strand
    let value? := s.lookup? name
    let isThere (empty : Bool) : Bool := value?.any fun t => !empty || !t.isEmpty
    match operation with
    | .bad => fail "Bad substitution".toList
    | .plain =>
      ensureSet name
      return s.segments quoted splits name
    | .length =>
      ensureSet name
      return [segmentOf quoted (Numeral.write (value?.getD []).length)]
    | .trimmed trim pattern =>
      ensureSet name
      let p ← patternOf fuel pattern
      return [segmentOf quoted (trim.apply p (value?.getD []))]
    | .orElse empty w =>
      if isThere empty then return s.segments quoted splits name
      else expand fuel splits true (s.withHome false w)
    | .instead empty w =>
      if isThere empty then expand fuel splits true (s.withHome false w) else return []
    | .orAssign empty w =>
      if isThere empty then return s.segments quoted splits name
      else
        let t ← textOf fuel false w
        if !Identifier.isIdentifier name then fail (name ++ ": bad variable name".toList)
        else
          assign name t
          return [segmentOf quoted t]
    | .orFail empty w =>
      if isThere empty then return s.segments quoted splits name
      else if w.isEmpty then
        fail (name ++ ": parameter not set".toList ++ if empty then " or null".toList else [])
      else fail (name ++ ": ".toList ++ (← textOf fuel false w))

/-- A word as one text. -/
def textOf : Nat → Bool → Word → Act Text
  | 0, _, _ => starve
  | fuel + 1, assigned, w => do
    let w := (← strand).withHome assigned w
    return unmarked (wholeWord (← expand fuel false false w))

def patternOf : Nat → Word → Act (List Mark)
  | 0, _ => starve
  | fuel + 1, w => do
    let w := (← strand).withHome false w
    return wholeWord (← expand fuel false false w)

/-- The fields of a word. A word that declares something is one field if it is an assignment. -/
def fieldsOf : Nat → Bool → Word → Act (List Text)
  | 0, _, _ => starve
  | fuel + 1, declares, w => do
    if declares && isAssignment w then return [← textOf fuel true w]
    else
      let s ← strand
      let segments ← expand fuel true false (s.withHome false w)
      let fields := breakUp (← strand).separators none segments
      let names ← fields.mapM filesOf
      return names.flatten

/-- The first fields tell what the words behind them are. -/
def allFields : Nat → List Text → List Word → Act (List Text)
  | 0, _, _ => starve
  | _ + 1, before, [] => return before
  | fuel + 1, before, w :: ws => do
    let fields ← fieldsOf fuel (declares (← strand) before) w
    allFields fuel (before ++ fields) ws

/-- What a command prints, without the line ends behind it. -/
def substitute : Nat → Command → Act Text
  | 0, _ => starve
  | fuel + 1, c => do
    let k ← addStream .pipe
    let o ← inStrand (fun s => s.withoutTraps.setDescriptor 1 (some (.sink k)))
      (shellRun fuel (run fuel .final c))
    if (← world).held.any fun h => h.2 = .sink k then starve
    else
      let kept := (← strand).status
      awaitEnd o
      changeStrand fun s => { s with status := kept, substituted := s.status }
      let octets := (((← world).stream? k).map Stream.octets).getD []
      setStream k .empty
      return withoutFinalLines (octets.map Prod.snd)

def targetOf : Nat → Redirect → Act Target
  | 0, _ => starve
  | fuel + 1, r => do
    match r with
    | .file fd o w => return .file fd o (← textOf fuel false w)
    | .sameAs fd w =>
      match ← fieldsOf fuel false w with
      | [] => fail "redir error".toList
      | t :: _ => return .sameAs fd (← descriptorNumber t)
    | .text fd w => return .text fd w
    | .awaited fd _ => return .text fd []

def redirect : Nat → Target → Act Unit
  | 0, _ => starve
  | fuel + 1, t => do
    let d : Option Descriptor ← match t with
      | .file _ o path => pure (some (← openFile o path))
      | .sameAs _ none => pure none
      | .sameAs fd (some n) =>
        match (← strand).descriptor? n with
        | some d => pure (some d)
        | none =>
          if n = fd then pure none
          else fail (Numeral.write n ++ ": Bad file descriptor".toList)
      | .text _ w => pure (some (← openText (unmarked (wholeWord (← expand fuel false false w)))))
    changeStrand fun s => s.setDescriptor t.fd d

/-- Runs an action with redirections. The result tells whether those could be made. -/
def redirected : Nat → Bool → List Target → Act Unit → Act Bool
  | 0, _, _, _ => starve
  | fuel + 1, stays, ts, a => do
    if ts.isEmpty then
      a
      return true
    else
      let before ← strand
      let numbers := ts.map Target.fd
      let others := before.fds.filter fun d => numbers.contains d.1
      let restore : Act Unit := changeStrand fun s =>
        { numbers.foldl (fun s fd => s.setDescriptor fd (before.descriptor? fd)) s with
          aside := before.aside }
      changeStrand fun s => { s with aside := others.map Prod.snd ++ s.aside }
      match ← attempt (ts.forM (redirect fuel)) with
      | .error .failed =>
        restore
        return false
      | .error stop => throw stop
      | .ok () =>
        if stays then changeStrand fun s => { s with aside := before.aside }
        match ← attempt a with
        | .error .starved => throw .starved
        | r =>
          if !stays then restore
          match r with
          | .ok () => return true
          | .error stop => throw stop

def run : Nat → Manner → Command → Act Unit
  | 0, _, _ => starve
  | fuel + 1, m, c => do
    if (← strand).has 'n' then return ()
    match c with
    | .nothing => pure ()
    | .simple line assignments words redirects =>
      changeStrand fun s => { s with line := line, substituted := 0 }
      simple fuel m assignments words redirects
      runTraps fuel
      checkStatus m
    | .both first second =>
      run fuel m.inner first
      run fuel m second
    | .ifBoth first second =>
      run fuel .tested first
      if (← strand).status = 0 then run fuel m second
    | .ifNot first second =>
      run fuel .tested first
      if (← strand).status ≠ 0 then run fuel m second
    | .negated c =>
      run fuel .tested c
      let status := (← strand).status
      setStatus (if status = 0 then 1 else 0)
    | .pipeline stages =>
      awaitStages (← stagesFrom fuel { m with isLast := true } none stages)
      runTraps fuel
      checkStatus m
    | .background line c redirects =>
      if line ≠ 0 then changeStrand fun s => { s with line := line }
      let targets ← redirects.mapM (targetOf fuel)
      let first := (← world).strands
      let prepare (s : Strand) : Strand :=
        { s.withoutTraps.setDescriptor 0 (some .nothing) with clock := s.clock + 1 }
      let o ← inStrand prepare (shellRun fuel (withTargets fuel .final targets c))
      addJob first (← world).strands o
      setStatus 0
    | .loop expected condition body => loop fuel m.inner expected condition body
    | .each line name items body =>
      changeStrand fun s => { s with line := line }
      let values ← match items with
        | some ws => allFields fuel [] ws
        | none => pure (← strand).params
      eachOf fuel m.inner name body values
    | .branch condition yes no =>
      run fuel .tested condition
      if (← strand).status = 0 then run fuel m yes
      else
        match no with
        | .nothing => setStatus 0
        | no => run fuel m no
    | .choice line subject arms =>
      changeStrand fun s => { s with line := line }
      let t ← textOf fuel false subject
      choose fuel m t arms
    | .define name body =>
      changeStrand fun s => { s with functions := put name body s.functions, status := 0 }
    | .subshell line c redirects =>
      changeStrand fun s => { s with line := line }
      let targets ← redirects.mapM (targetOf fuel)
      let o ← inStrand Strand.withoutTraps
        (shellRun fuel (withTargets fuel { m with isLast := true } targets c))
      awaitEnd o
      runTraps fuel
      checkStatus m
    | .group line c redirects =>
      changeStrand fun s => { s with line := line }
      let targets ← redirects.mapM (targetOf fuel)
      if !(← redirected fuel false targets (run fuel m.inner c)) then setStatus 2

/-- Runs a command in a strand of its own, with redirections that stay. -/
def withTargets : Nat → Manner → List Target → Command → Act Unit
  | 0, _, _, _ => starve
  | fuel + 1, m, ts, c => do
    if !(← redirected fuel true ts (run fuel m c)) then
      setStatus 2
      throw .exited

/-- The status of a loop is that of the last turn. -/
def loop : Nat → Manner → Bool → Command → Command → Act Unit
  | 0, _, _, _, _ => starve
  | fuel + 1, m, expected, condition, body => do
    changeLoops (· + 1)
    let status ← iterate 0 fun status => do
      spendTurn
      match ← attempt (run fuel .tested condition) with
      | .ok () =>
        if ((← strand).status = 0) ≠ expected then return .ok status
        else
          match turnOf (← attempt (run fuel m body)) with
          | .again => return .error (← strand).status
          | .finished => return .ok (← strand).status
          | .stopped stop => leaveLoop stop
      | r =>
        match turnOf r with
        | .again => return .error status
        | .finished => return .ok status
        | .stopped stop => leaveLoop stop
    changeLoops (· - 1)
    setStatus status

def eachOf : Nat → Manner → Text → Command → List Text → Act Unit
  | 0, _, _, _, _ => starve
  | fuel + 1, m, name, body, values => do
    changeLoops (· + 1)
    let status ← iterate (0, values) fun (status, values) => do
      match values with
      | [] => return .ok status
      | value :: values =>
        spendTurn
        assign name value
        match turnOf (← attempt (run fuel m body)) with
        | .again => return .error ((← strand).status, values)
        | .finished => return .ok (← strand).status
        | .stopped stop => leaveLoop stop
    changeLoops (· - 1)
    setStatus status

/-- The first arm with a pattern that matches is run. -/
def choose : Nat → Manner → Text → List Arm → Act Unit
  | 0, _, _, _ => starve
  | _ + 1, _, _, [] => setStatus 0
  | fuel + 1, m, t, .mk patterns c :: arms => do
    if ← anyMatches fuel t patterns then
      match c with
      | .nothing => setStatus 0
      | c => run fuel m c
    else choose fuel m t arms

def anyMatches : Nat → Text → List Word → Act Bool
  | 0, _, _ => starve
  | _ + 1, _, [] => return false
  | fuel + 1, t, w :: ws => do
    if matchesText (← patternOf fuel w) t then return true else anyMatches fuel t ws

/-- Each command of a pipeline reads what the one before it writes. -/
def stagesFrom : Nat → Manner → Option Nat → List Command → Act (List Outcome)
  | 0, _, _, _ => starve
  | _ + 1, _, _, [] => return []
  | fuel + 1, m, input, c :: cs => do
    let reads (s : Strand) : Strand := match input with
      | some k => s.withoutTraps.setDescriptor 0 (some (.source k))
      | none => s.withoutTraps
    if cs.isEmpty then return [← inStrand reads (shellRun fuel (run fuel m c))]
    else
      let k ← addStream .pipe
      let first := (← world).strands
      let o ← inStrand (fun s => (reads s).setDescriptor 1 (some (.sink k)))
        (shellRun fuel (run fuel m c))
      let limit := (← world).strands
      if !(← world).held.any fun h => h.2 = .sink k then
        changeStream k fun x => { x.settled with ended := some o.clock }
      let written := (← world).stream? k
      let others ← stagesFrom fuel m (some k) cs
      let reader? := others.head?.bind fun r => r.status.map fun _ => r.clock
      match o.status, reader?, written with
      | none, some e, some x =>
        match x.brokenAt? e with
        | some t =>
          changeWorld (World.release first limit)
          return ⟨some 141, t, none⟩ :: others
        | none => return o :: others
      | _, _, _ => return o :: others

/-- Runs an action as a shell of its own, with what is trapped at its end. -/
def shellRun : Nat → Act Unit → Act Unit
  | 0, _ => starve
  | fuel + 1, a => do
    match ← attempt a with
    | .error .starved => throw .starved
    | .error (.killed n) => throw (.killed n)
    | _ =>
      let s ← strand
      match s.traps.lookup "EXIT".toList with
      | none => pure ()
      | some action =>
        changeStrand fun s =>
          { s with traps := without "EXIT".toList s.traps, loops := 0, saved := some s.status }
        match ← attempt (evaluate fuel .ordinary action) with
        | .error .starved => throw .starved
        | .error (.killed n) => throw (.killed n)
        | .error .exited | .error .failed => pure ()
        | _ => setStatus s.status

/-- Runs the commands of a text, each before the next one is read. -/
def evaluate : Nat → Manner → Text → Act Unit
  | 0, _, _ => starve
  | fuel + 1, m, t => do
    let hasRun ← iterate (Reader.of [] t, false) fun (r, hasRun) => do
      let aliases := (← strand).aliases
      match Script.next { r with source := { r.source with aliases := aliases } } with
      | .error e =>
        changeStrand fun s => { s with line := e.line, inputLine := e.line }
        fail e.message
      | .ok (none, _) => return .ok hasRun
      | .ok (some c, r) =>
        changeStrand fun s => { s with inputLine := r.source.line }
        match c with
        | .nothing => return .error (r, hasRun)
        | c =>
          run fuel { m with isLast := m.isLast && r.source.ended } c
          return .error (r, true)
    if !hasRun then setStatus 0

/-- Runs the commands that are read from a descriptor, as they come. -/
def evaluateFrom : Nat → Descriptor → Act Unit
  | 0, _ => starve
  | fuel + 1, d => do
    iterate (Reader.of [] [], false) fun (r, isOver) => do
      let aliases := (← strand).aliases
      let r := { r with source := { r.source with aliases := aliases } }
      let more : Act (Except (Reader × Bool) Unit) := do
        let t ← readBlock d scriptBlock
        let rest := r.source.rest ++ t.filter (· ≠ '\x00')
        return .error ({ r with source := { r.source with rest := rest } }, t.isEmpty)
      match Script.next r with
      | .error e =>
        if e.ended && !isOver then more
        else
          changeStrand fun s => { s with line := e.line, inputLine := e.line }
          fail e.message
      | .ok (c?, next) =>
        if next.source.ended && !isOver then more
        else
          match c? with
          | none => return .ok ()
          | some c =>
            changeStrand fun s => { s with inputLine := next.source.line }
            match c with
            | .nothing => pure ()
            | c => run fuel .ordinary c
            return .error (next, isOver)

/-- What is trapped is done between commands, and leaves no status. -/
def runTraps : Nat → Act Unit
  | 0 => starve
  | fuel + 1 => do
    if !(← world).signals.isEmpty then takeSignals
    let s ← strand
    match s.pending with
    | [] => pure ()
    | name :: rest =>
      changeStrand fun s => { s with pending := rest, saved := some (s.saved.getD s.status) }
      evaluate fuel .ordinary ((s.traps.lookup name).getD [])
      changeStrand fun t => { t with saved := s.saved, status := s.status }
      runTraps fuel

/-- The values are found and assigned one after the other. -/
def assignWords : Nat → Bool → List (Text × Word) → Act (List Text)
  | 0, _, _ => starve
  | _ + 1, _, [] => return []
  | fuel + 1, isTemporary, (name, w) :: rest => do
    let value ← textOf fuel true w
    if isTemporary then makeLocal name
    assign name value
    if isTemporary then exportVariable name
    return (name ++ '=' :: value) :: (← assignWords fuel isTemporary rest)

/-- With the option for it commands are shown before they are run. -/
def trace : Nat → Option Descriptor → List Text → Act Unit
  | 0, _, _ => starve
  | fuel + 1, err, shown => do
    let s ← strand
    if s.has 'x' && !s.isTracing then
      let value := (s.value? "PS4".toList).getD []
      changeStrand fun s => { s with isTracing := true }
      let front ← match Script.textWord s.aliases value with
        | .ok w =>
          match ← attempt (expand fuel false false w) with
          | .ok segments => pure (unmarked (wholeWord segments))
          | .error .failed => pure value
          | .error stop => throw stop
        | .error _ => pure value
      changeStrand fun s => { s with isTracing := false }
      traced err front shown

/-- The words are expanded first, then those of the redirections; the assignments come last. -/
def simple : Nat → Manner → List (Text × Word) → List Word → List Redirect → Act Unit
  | 0, _, _, _, _ => starve
  | fuel + 1, m, assignments, words, redirects => do
    let args ← allFields fuel [] words
    let targets ← redirects.mapM (targetOf fuel)
    let s ← strand
    let err := s.descriptor? 2
    match args with
    | [] =>
      let done ← redirected fuel false targets do
        trace fuel err (← assignWords fuel false assignments)
      let answered := (← strand).substituted
      setStatus (if done then answered else 2)
    | name :: rest =>
      let called := calledBy s name rest
      let isSpecial := isSpecial name && (s.functions.lookup name).isNone
      let replaces := called.name = "exec".toList
      let done ← redirected fuel replaces targets do
        if isSpecial then
          let assigned ← assignWords fuel false assignments
          if replaces && !called.args.isEmpty then
            for (name, _) in assignments do
              exportVariable name
          trace fuel err (assigned ++ args)
          invoke fuel m true called
        else if assignments.isEmpty then
          trace fuel err args
          invoke fuel m false called
        else
          changeStrand fun s => { s with frames := .empty :: s.frames }
          trace fuel err ((← assignWords fuel true assignments) ++ args)
          match ← attempt (invoke fuel m false called) with
          | .error .starved => throw .starved
          | r =>
            changeStrand Strand.dropFrame
            match r with
            | .ok () => pure ()
            | .error stop => throw stop
      if !done then
        setStatus 2
        if isSpecial then throw .failed

/-- Runs a function, a builtin command or a program. -/
def invoke : Nat → Manner → Bool → Called → Act Unit
  | 0, _, _, _ => starve
  | fuel + 1, m, isSpecial, c => do
    let s ← strand
    match (if c.byName then none else s.functions.lookup c.name) with
    | some body => callFunction fuel m.inner body c.args
    | none =>
      if Builtin.isBuiltin c.name then callBuiltin fuel m.inner isSpecial c.name c.args
      else callProgram fuel m c

def callFunction : Nat → Manner → Command → List Text → Act Unit
  | 0, _, _, _ => starve
  | fuel + 1, m, body, args => do
    let before ← strand
    if deepest ≤ before.depth then
      fail "Maximum function recursion depth (1000) reached".toList
    else
      changeStrand fun s =>
        { s with
          params := args, loops := 0, depth := s.depth + 1, frames := .empty :: s.frames
          optionWord := 1, optionsGot := none }
      match ← attempt (run fuel m body) with
      | .error .starved => throw .starved
      | r =>
        changeStrand fun s =>
          { s.dropFrame with
            params := before.params, loops := before.loops, depth := before.depth
            optionWord := before.optionWord, optionsGot := before.optionsGot }
        match r with
        | .error .returned => pure ()
        | .error stop => throw stop
        | .ok () => pure ()

def callBuiltin : Nat → Manner → Bool → Text → List Text → Act Unit
  | 0, _, _, _, _ => starve
  | fuel + 1, m, isSpecial, name, args => do
    let before := (← strand).command
    changeStrand fun s => { s with command := some name }
    let own := (Builtin.act? name args).getD (pure ())
    let a : Act Unit := match name.str with
      | "eval" => evaluate fuel m (args.intersperse [' ']).flatten
      | "." => sourceFile fuel m args
      | "exec" => replaceBy fuel args
      | "command" => Builtin.describeNamed args
      | _ => own
    match ← attempt a with
    | .error .starved => throw .starved
    | r =>
      changeStrand fun s => { s with command := before }
      match r with
      | .ok () => pure ()
      | .error .failed => if isSpecial then throw .failed else pure ()
      | .error stop => throw stop

/-- Runs a script in the same shell. -/
def sourceFile : Nat → Manner → List Text → Act Unit
  | 0, _, _ => starve
  | fuel + 1, _, args => do
    let (_, args) ← Builtin.options [] args
    match args with
    | [] => setStatus 0
    | path :: _ =>
      let path ← Builtin.scriptPath path
      let d ← openFile .reading path
      changeStrand fun s => { s with command := some path, status := 0 }
      match ← attempt (evaluateFrom fuel d) with
      | .error .returned => pure ()
      | .error stop => throw stop
      | .ok () => pure ()

/-- A program takes the place of the shell. -/
def replaceBy : Nat → List Text → Act Unit
  | 0, _ => starve
  | fuel + 1, args => do
    match args with
    | [] => setStatus 0
    | name :: rest =>
      let s ← strand
      match Filesystem.command (← world).disk s.searchPath s.directory name with
      | .error e =>
        complain (name ++ ": ".toList ++ notRun e)
        setStatus (notRunStatus e)
        throw .exited
      | .ok (path, x) => become fuel path x name rest

/-- The shell ends with the program that takes its place. -/
def become : Nat → Text → Filesystem.Executable → Text → List Text → Act Unit
  | 0, _, _, _, _ => starve
  | fuel + 1, path, x, name, args => do
    let s ← strand
    if s.aside.contains .out || s.aside.contains .err then sleepUntil (s.clock + startingTime)
    changeStrand Strand.forProgram
    start fuel path x name args
    changeStrand fun s => { s with traps := [] }
    throw .exited

/-- Runs a program, beside the shell if something is done behind it. -/
def callProgram : Nat → Manner → Called → Act Unit
  | 0, _, _ => starve
  | fuel + 1, m, c => do
    let s ← strand
    let disk := (← world).disk
    let isPath := c.name.contains '/'
    let found := match (if isPath || c.isStandard then none else s.tracked.lookup c.name) with
      | some path => (Filesystem.executable disk s.directory path).map fun x => (path, x)
      | none =>
        let searchPath := if c.isStandard then Filesystem.standardPath else s.searchPath
        Filesystem.command disk searchPath s.directory c.name
    match found with
    | .error e =>
      complain (c.name ++ ": ".toList ++ notRun e)
      setStatus (if isPath then notRunStatus e else 127)
    | .ok (path, x) =>
      Builtin.track c.name path
      if m.isLast && !s.hasTraps then become fuel path x c.name c.args
      else awaitEnd (← inStrand Strand.forProgram (start fuel path x c.name c.args))

/-- Runs what was found at a path. A script that names no interpreter is run by a shell. -/
def start : Nat → Text → Filesystem.Executable → Text → List Text → Act Unit
  | 0, _, _, _, _ => starve
  | fuel + 1, path, x, name, args => do
    match x with
    | .program p => runProgram fuel p name args
    | .script t =>
      match announced? t with
      | none => startShell fuel "/bin/sh".toList (path :: args)
      | some (interpreter, more) =>
        match Filesystem.executable (← world).disk (← strand).directory interpreter with
        | .ok x => start fuel interpreter x interpreter (more ++ path :: args)
        | .error e =>
          complain (name ++ ": ".toList ++ notRun e)
          setStatus (notRunStatus e)

/-- Runs a program by its own name, and the name that it was called by. -/
def runProgram : Nat → Text → Text → List Text → Act Unit
  | 0, _, _, _ => starve
  | fuel + 1, p, name, args => do
    if p = "dash".toList || p = "bash".toList then startShell fuel name args
    else
      let launcher : Tool.Launcher := ⟨fun name args => execute fuel name args⟩
      match ← attempt (Tool.run launcher p name args) with
      | .ok () | .error .exited | .error .failed => Tool.finish name
      | .error stop => throw stop

/-- Runs a program in place of another one. The result tells why that is not possible. -/
def execute : Nat → Text → List Text → Act (Option Filesystem.Fault)
  | 0, _, _ => starve
  | fuel + 1, name, args => do
    let s ← strand
    let searchPath := (s.value? "PATH".toList).getD "/bin:/usr/bin".toList
    match Filesystem.command (← world).disk searchPath s.directory name with
    | .error e => return some e
    | .ok (path, x) =>
      start fuel path x name args
      return none

/-- A shell by its own name and its arguments. -/
def startShell : Nat → Text → List Text → Act Unit
  | 0, _, _ => starve
  | fuel + 1, name, args => do
    let disk := (← world).disk
    changeStrand fun s => s.asShell disk name
    shellRun fuel do
      let fromInput : Act Unit := do
        match (← strand).descriptor? 0 with
        | some d => evaluateFrom fuel d
        | none => pure ()
      let (announced, rest) ← shellOptions (args.length + 1) false args
      let readsInput := (← strand).has 's'
      match announced, rest with
      | true, [] => fail "-c requires an argument".toList
      | true, script :: rest =>
        changeStrand fun s => { s with name := rest.headD name, params := rest.tail }
        evaluate fuel { Manner.ordinary with isLast := !readsInput } script
        if readsInput then fromInput
      | false, [] =>
        Builtin.setOption 's' true
        fromInput
      | false, path :: more =>
        if readsInput then
          changeStrand fun s => { s with params := rest }
          fromInput
        else
          let d ← openFile .reading path
          changeStrand fun s => { s with name := path, params := more }
          evaluateFrom fuel d

end

end RemoteInterpreter.Shell
