import RemoteInterpreter.Shell.Tool.Awk.Evaluate

/-!
# Scripts for records

The tool that runs a script on what it reads, record by record.
-/

namespace RemoteInterpreter.Shell.Tool

namespace Awk

def versionText : String :=
  "mawk 1.3.4 20240123\n" ++
  "Copyright 2008-2023,2024, Thomas E. Dickey\n" ++
  "Copyright 1991-1996,2014, Michael D. Brennan\n\n" ++
  "random-funcs:       arc4random_stir/arc4random\n" ++
  "regex-funcs:        internal\n\n" ++
  "compiled limits:\n" ++
  "sprintf buffer      8192\n" ++
  "maximum-integer     9223372036854775808\n"

def usageText : Text :=
  ("Usage: mawk [Options] [Program] [file ...]\n\nProgram:\n" ++
  "    The -f option value is the name of a file containing program text.\n" ++
  "    If no -f option is given, a \"--\" ends option processing; the following\n" ++
  "    parameters are the program text.\n\nOptions:\n" ++
  "    -f program-file  Program  text is read from file instead of from the\n" ++
  "                     command-line.  Multiple -f options are accepted.\n" ++
  "    -F value         sets the field separator, FS, to value.\n" ++
  "    -v var=value     assigns value to program variable var.\n" ++
  "    --               unambiguous end of options.\n\n" ++
  "    Implementation-specific options are prefixed with \"-W\".  They can be\n" ++
  "    abbreviated:\n\n" ++
  "    -W version       show version information and exit.\n" ++
  "    -W compat        pre-POSIX 2001.\n" ++
  "    -W dump          show assembler-like listing of program and exit.\n" ++
  "    -W help          show this message and exit.\n" ++
  "    -W interactive   set unbuffered output, line-buffered input.\n" ++
  "    -W exec file     use file as program as well as last option.\n" ++
  "    -W posix         stricter POSIX checking.\n" ++
  "    -W random=number set initial random seed.\n" ++
  "    -W sprintf=number adjust size of sprintf buffer.\n" ++
  "    -W usage         show this message and exit.\n").toList

/-- What the options tell. -/
structure Wishes where
  separator : Option Text
  assignments : List Text
  scripts : List Text
  rest : List Text

/-- Options that are named by words. -/
def wordOption (called name : Text) : Act Unit := do
  let is (all : List String) : Bool := !name.isEmpty && all.any fun s => name.isPrefixOf s.toList
  if is ["version"] then
    put versionText.toList
    quit 0
  else if is ["help", "usage"] then
    put usageText
    quit 0
  else if is ["compat", "dump", "interactive", "posix", "posix_space", "random", "sprintf",
      "traditional", "repetitions", "re-interval"] ||
      ["random=", "sprintf="].any fun s => s.toList.isPrefixOf name then pure ()
  else warn called ("vacuous option: -W \"".toList ++ name ++ ['"'])

/-- Reads the options. -/
def wishes (called : Text) : Nat → Wishes → List Text → Act Wishes
  | 0, w, args => return { w with rest := args }
  | fuel + 1, w, args => do
    let refuse : Act Wishes := die called ("not an option: ".toList ++ args.headD []) 2
    match args with
    | ['-', '-'] :: rest => return { w with rest := rest }
    | ('-' :: '-' :: name) :: rest =>
      if ["version", "help", "usage", "compat", "dump", "interactive", "posix", "traditional",
          "repetitions", "re-interval"].any fun s => name.isPrefixOf s.toList then
        wordOption called name
        wishes called fuel w rest
      else refuse
    | ('-' :: c :: behind) :: rest =>
      if !("WFvf".toList.contains c) then refuse
      else
        let (value?, rest) := if !behind.isEmpty then (some behind, rest)
          else (rest.head?, rest.tail)
        match value? with
        | none => die called ("option -".toList ++ c :: " lacks argument".toList) 2
        | some t =>
          if c = 'W' then
            wordOption called t
            wishes called fuel w rest
          else if c = 'F' then wishes called fuel { w with separator := some t } rest
          else if c = 'v' then
            match Text.cut? '=' t with
            | some (name, _) =>
              if name.head?.any isNameStart && name.all isNamePart then
                wishes called fuel { w with assignments := w.assignments ++ [t] } rest
              else die called ("improper assignment: -v ".toList ++ t) 2
            | none => die called ("improper assignment: -v ".toList ++ t) 2
          else wishes called fuel { w with scripts := w.scripts ++ [t] } rest
    | args => return { w with rest := args }

/-- The text of a script. -/
def scriptIn (called path : Text) : Act Text := do
  let fault (e : Filesystem.Fault) : Act Text :=
    die called ("cannot open \"".toList ++ path ++ "\" (".toList ++ e.message.toList ++ [')']) 2
  match ← openOperand path with
  | .error e => fault e
  | .ok d =>
    match ← readFault? d with
    | some e => die called ("read error (".toList ++ e.message.toList ++ [')']) 2
    | none => (Intake.of d).whole

/-- What variables hold at the beginning. -/
def initial : List (String × Value) :=
  [("NR", .number Amount.zero), ("FNR", .number Amount.zero), ("RSTART", .number Amount.zero),
   ("RLENGTH", .number Amount.zero), ("FS", .text [' ']), ("OFS", .text [' ']),
   ("ORS", .text ['\n']), ("RS", .text ['\n']), ("FILENAME", .text []),
   ("SUBSEP", .text ['\x1c']), ("CONVFMT", .text "%.6g".toList), ("OFMT", .text "%.6g".toList)]

def Machine.start : Machine where
  values := initial.foldl (fun values (name, v) => values.insert name v) ∅
  tableNames := ∅
  tables := #[]
  locals := []
  record := .text []
  fields := none
  feeds := []
  outlets := [⟨"/dev/stdout".toList, .standard, []⟩]
  main := none
  nextArgument := 1
  hadFile := false
  ended := false
  ranges := []
  seed := .number Amount.zero
  random := 42

/-- A table of texts. -/
def fillTable (name : String) (entries : List (Key × Text)) : Run Unit := do
  let n ← tableOf name
  for (key, t) in entries do
    changeTable n (Table.set key (.input t))

/-- Runs a script, with all that is known at its beginning. -/
def perform (s : Setting) (w : Wishes) (operands : List Text) : Run Unit := do
  let environment := (← strand).environment.map fun (name, t) => (Key.text name, t)
  fillTable "ENVIRON" environment
  fillTable "ARGV" ((s.called :: operands).zipIdx.map fun (t, n) => (Key.integer n, t))
  setGlobal "ARGC" (count (operands.length + 1))
  match w.separator with
  | some t => setGlobal "FS" (.text (withoutEscapesIn t))
  | none => pure ()
  for t in w.assignments do
    let _ ← assignArgument s t
  tryCatch (runProgram s) fun _ => pure ()
  finishOutlets s

end Awk

open Awk

def awk (l : Launcher) (called : Text) (args : List Text) : Act Unit := do
  let called := (Text.splitAt '/' called).getLastD called
  let w ← wishes called (args.length + 1) ⟨none, [], [], []⟩ args
  if w.scripts.isEmpty && w.rest.isEmpty then
    flush
    writeError usageText
  else
    let (paths, operands) := match w.scripts, w.rest with
      | [], ['-'] :: rest => ([['-']], rest)
      | [], _ :: rest => ([], rest)
      | paths, rest => (paths, rest)
    let script ← match paths with
      | [] => pure (w.rest.headD [])
      | paths => do
        let ts ← paths.mapM (scriptIn called)
        pure (ts.intersperse ['\n']).flatten
    match Program.read script with
    | .ok p => do
      let _ ← (perform ⟨called, l, p⟩ w operands).run.run Machine.start
    | .error messages =>
      flush
      for message in messages do
        writeError (called ++ ": ".toList ++ message ++ ['\n'])
      quit 2

end RemoteInterpreter.Shell.Tool
