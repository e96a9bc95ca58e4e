import RemoteInterpreter.Shell.Builtin.Basic

/-!
# Variables and options

The builtin commands on variables, parameters and the options of the shell.
-/

namespace RemoteInterpreter.Shell.Builtin

def shift (args : List Text) : Act Unit := do
  let n ← match args with
    | [] => pure 1
    | t :: _ => count t
  if (← strand).params.length < n then fail "can't shift that many".toList
  else
    changeStrand fun s => { s with params := s.params.drop n, optionWord := 1, optionsGot := none }
    setStatus 0

/-! Variables -/

def listVariables (front : Text) (wanted : Variable → Bool) : Act Unit := do
  let s ← strand
  for (name, v) in Entries.ofList (s.vars.filter fun v => wanted v.2) do
    match v.value with
    | some t => print (front ++ name ++ '=' :: quoted t ++ ['\n'])
    | none => if !front.isEmpty then print (front ++ name ++ ['\n'])
  setStatus 0

/-- Names that may have values get an attribute. -/
def declare (mark : Variable → Variable) : List Text → Act Unit
  | [] => setStatus 0
  | t :: rest => do
    let (name, value) : Text × Option Text := match Text.cut? '=' t with
      | some (name, value) => (name, some value)
      | none => (t, none)
    ensureName name
    match value with
    | some v => assign name v
    | none => pure ()
    changeStrand fun s => s.putVariable name (mark ((s.variableOf? name).getD .unset))
    declare mark rest

def isExport (name : String) : Bool := name == "export"

def declareAll (name : String) (args : List Text) : Act Unit := do
  let (os, operands) ← options ['p'] args
  let wanted (v : Variable) : Bool := if isExport name then v.isExported else v.isReadonly
  let mark (v : Variable) : Variable :=
    if isExport name then { v with isExported := true } else { v with isReadonly := true }
  if operands.isEmpty || os.contains 'p' then listVariables (name.toList ++ [' ']) wanted
  else declare mark operands

def localNames (args : List Text) : Act Unit := do
  if (← strand).depth = 0 then fail "not in a function".toList
  else
    for t in args do
      if t = ['-'] then makeOptionsLocal
      else
        let name := (Text.splitAt '=' t).headD []
        ensureName name
        makeLocal name
        match Text.cut? '=' t with
        | some (_, value) => assign name value
        | none => pure ()
    setStatus 0

def unset (args : List Text) : Act Unit := do
  let (os, names) ← options ['f', 'v'] args
  for name in names do
    if os.getLast? = some 'f' then
      changeStrand fun s => { s with functions := without name s.functions }
    else
      ensureName name
      ensureWritable name
      changeStrand fun s => { s with vars := without name s.vars }
  setStatus 0

/-! Options -/

def optionNames : List (Char × String) :=
  [('e', "errexit"), ('f', "noglob"), ('I', "ignoreeof"), ('i', "interactive"), ('m', "monitor"),
   ('n', "noexec"), ('s', "stdin"), ('x', "xtrace"), ('v', "verbose"), ('V', "vi"), ('E', "emacs"),
   ('C', "noclobber"), ('a', "allexport"), ('b', "notify"), ('u', "nounset"), ('p', "privileged")]

/-- Options are kept in their usual order. -/
def setOption (c : Char) (value : Bool) : Act Unit := do
  if !optionNames.any (·.1 = c) then illegalOption c
  else
    changeStrand fun s =>
      { s with options := (optionNames.map Prod.fst).filter fun d =>
          if d = c then value else s.options.contains d }

/-- Options without a letter, which are of no effect. -/
def quietOptions : List String := ["nolog", "debug"]

def setNamed (name : Text) (value : Bool) : Act Unit := do
  match optionNames.find? fun o => o.2.toList = name with
  | some (c, _) => setOption c value
  | none => if !quietOptions.contains name.str then fail ("Illegal option -o ".toList ++ name)

def listOptions (value : Bool) : Act Unit := do
  let s ← strand
  let all := optionNames.map (fun o => (s.has o.1, o.2)) ++ quietOptions.map fun n => (false, n)
  if value then
    print "Current option settings\n".toList
    for (isOn, name) in all do
      let gap := List.replicate (16 - name.length) ' '
      print (name.toList ++ gap ++ (if isOn then "on\n" else "off\n").toList)
  else
    for (isOn, name) in all do
      print ("set ".toList ++ (if isOn then "-o " else "+o ").toList ++ name.toList ++ ['\n'])

/-- The options that a word sets, and what is left of the words behind it. -/
def setWord (value : Bool) : Text → List Text → Act (List Text)
  | [], rest => return rest
  | 'o' :: cs, rest => do
    match rest with
    | [] =>
      listOptions value
      setWord value cs []
    | name :: rest =>
      setNamed name value
      setWord value cs rest
  | c :: cs, rest => do
    setOption c value
    setWord value cs rest

def setParameters (ps : List Text) : Act Unit :=
  changeStrand fun s => { s with params := ps, optionWord := 1, optionsGot := none }

def setAll : Nat → List Text → Act Unit
  | 0, _ => pure ()
  | _ + 1, [] => pure ()
  | fuel + 1, word :: rest => do
    match word with
    | ['-', '-'] => setParameters rest
    | ['-'] =>
      changeStrand fun s => { s with options := s.options.filter fun c => c ≠ 'x' && c ≠ 'v' }
      if !rest.isEmpty then setParameters rest
    | '-' :: cs => setAll fuel (← setWord true cs rest)
    | '+' :: cs => setAll fuel (← setWord false cs rest)
    | _ => setParameters (word :: rest)

def setAny (args : List Text) : Act Unit := do
  if args.isEmpty then listVariables [] fun _ => true
  else
    setAll (args.length + 1) args
    setStatus 0

/-! Options of scripts -/

/-- What follows an option in the list of known ones tells whether it has a value. -/
def optionKindFor (c : Char) : Nat → Text → Option Bool
  | 0, _ | _, [] => none
  | fuel + 1, d :: rest =>
    if c = d then some (rest.head? = some ':')
    else optionKindFor c fuel (if rest.head? = some ':' then rest.tail else rest)

def optionKind (known : Text) (c : Char) : Option Bool := optionKindFor c known.length known

/-- An option, what is left of its word, and the words behind that. -/
def nextOption (s : Strand) (words : List Text) : Option (Char × Text × Nat) × Nat :=
  let index := if words.length + 1 < s.optionWord then 1 else s.optionWord
  let left : Option Text := match s.optionsGot with
    | some n => ((words[index - 2]?).map (·.drop n)).filter fun t => 1 < index && !t.isEmpty
    | none => none
  match left with
  | some (c :: rest) => (some (c, rest, index), index)
  | _ =>
    match words[index - 1]? with
    | some ['-', '-'] => (none, index + 1)
    | some ('-' :: c :: rest) => (some (c, rest, index + 1), index + 1)
    | _ => (none, index)

/-- The next option of the words is assigned to a variable, and its value to another. -/
def gotOption (known name : Text) (words : List Text) : Act Unit := do
  let (found, index) := nextOption (← strand) words
  let finish (c : Char) (rest : Text) (index status : Nat) : Act Unit := do
    setVariable "OPTIND".toList (Numeral.write index)
    assign name [c]
    let length := ((words[index - 2]?).getD []).length
    changeStrand fun s =>
      { s with
        optionWord := index
        optionsGot := if rest.isEmpty then none else some (length - rest.length) }
    setStatus status
  let assignValue (t : Text) : Act Unit := assign "OPTARG".toList t
  let complainOf (c : Char) (why after : String) : Act Unit := do
    writeError (why.toList ++ " -".toList ++ c :: after.toList ++ ['\n'])
    changeStrand fun s => { s with vars := without "OPTARG".toList s.vars }
  let isSilent := known.head? = some ':'
  match found with
  | none => finish '?' [] index 1
  | some (c, rest, index) =>
    match optionKind known c, rest, words[index - 1]? with
    | none, rest, _ =>
      if isSilent then assignValue [c] else complainOf c "Illegal option" ""
      finish '?' rest index 0
    | some false, rest, _ =>
      assignValue []
      finish c rest index 0
    | some true, [], none =>
      if isSilent then
        assignValue [c]
        finish ':' [] index 0
      else
        complainOf c "No arg for" " option"
        finish '?' [] index 0
    | some true, [], some value =>
      assignValue value
      finish c [] (index + 1) 0
    | some true, value, _ =>
      assignValue value
      finish c [] index 0

def getopts (args : List Text) : Act Unit := do
  match args with
  | [known, name] => gotOption known name (← strand).params
  | known :: name :: words => gotOption known name words
  | _ => fail "Usage: getopts optstring var [arg...]".toList

end RemoteInterpreter.Shell.Builtin
