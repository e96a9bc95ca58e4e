import RemoteInterpreter.Shell.Tool.Intake

/-!
# Keeping files

Tools that make directories, files and links, that copy, move and remove them, and that
change who may use them.
-/

namespace RemoteInterpreter.Shell.Tool

open Filesystem (Fault Occupant Place)

/-! Help for all of them -/

/-- Complains about a path. -/
def complainAbout (called : Text) (what : String) (path : Text) (why : String) : Act Unit := do
  lack called (what.toList ++ ' ' :: (← quotedFully path) ++ ": ".toList ++ why.toList) 1

def misuseBehind {α : Type} (called : Text) (what : String) (word : Text) : Act α := do
  misuse called (what.toList ++ ' ' :: (← quoted word)) 1

/-- What a path leads to, without following a link at its end. -/
def occupant? (path : Text) : Act (Option (Place × Occupant)) := do
  match ← resolve false path with
  | .ok (place, some e) => return some (place, e)
  | _ => return none

/-- Whether a path leads to a directory, perhaps through a link. -/
def isDirectory (path : Text) : Act Bool := do
  match ← locate path with
  | .ok (_, e) => return e.node = .directory
  | .error _ => return false

/-- Where something is put that is named by a path. -/
def targetIn (directory path : Text) : Text :=
  Filesystem.join directory (Filesystem.lastName path)

/-- Asks on the standard error whether something is to be done. -/
def asks (called question : Text) : Act Bool := do
  flush
  writeError (called ++ ": ".toList ++ question ++ "? ".toList)
  let some d := (← strand).descriptor? 0 | return false
  let (answer, i) ← Intake.upTo '\n' ⟨d, (← strand).answers, false⟩
  changeStrand fun s => { s with answers := i.ahead }
  return (answer.getD []).head?.any fun c => c = 'y' || c = 'Y'

/-- What a file is called in questions. -/
def kindOf (e : Occupant) (isEmpty : Bool) : Text :=
  (match e.node with
  | .directory => "directory"
  | .link _ => "symbolic link"
  | _ => if isEmpty then "regular empty file" else "regular file").toList

/-- A mode that users would have without the mask. -/
def masked (mode : Nat) : Act Nat := do return mode - (mode &&& (← strand).mask)

def stampNow : Act Nat := do return (← strand).clock

/-! Modes -/

namespace Mode

def bitsOf (c : Char) : Nat :=
  match c with
  | 'r' => 0o444
  | 'w' => 0o222
  | 'x' => 0o111
  | _ => 0

/-- The bits that are for some users. -/
def usersMask (users : Text) : Nat :=
  let one (c : Char) : Nat := match c with
    | 'u' => 0o4700
    | 'g' => 0o2070
    | 'o' => 0o1007
    | _ => 0o7777
  if users.isEmpty then 0o7777 else users.foldl (fun n c => n ||| one c) 0

/-- What a clause takes from the mode as it is, for all users alike. -/
def copied (c : Char) (mode : Nat) : Nat :=
  let three : Nat := match c with
    | 'u' => mode / 64 % 8
    | 'g' => mode / 8 % 8
    | _ => mode % 8
  three * 0o111

/-- The bits that letters stand for. -/
def permissions (isDirectory : Bool) (mode : Nat) (letters : Text) : Nat :=
  letters.foldl (fun n c => n ||| (match c with
    | 'X' => if isDirectory || mode &&& 0o111 ≠ 0 then 0o111 else 0
    | 's' => 0o6000
    | 't' => 0o1000
    | 'u' | 'g' | 'o' => copied c mode
    | c => bitsOf c)) 0

/-- The operations of a clause behind its users. -/
def operations (mask : Nat) (isDirectory : Bool) (users : Text) :
    Nat → Text → Nat → Option Nat
  | 0, _, _ => none
  | fuel + 1, t, mode =>
    match t with
    | [] => some mode
    | sign :: rest =>
      let letters := rest.takeWhile fun c => "rwxXstugo".toList.contains c
      let affected := usersMask users
      let bits := permissions isDirectory mode letters &&& affected
      let bits := if users.isEmpty then bits - (bits &&& mask) else bits
      let goOn (mode : Nat) : Option Nat :=
        operations mask isDirectory users fuel (rest.drop letters.length) mode
      match sign with
      | '+' => goOn (mode ||| bits)
      | '-' => goOn (mode - (mode &&& bits))
      | '=' =>
        let cleared := mode &&& affected &&& 0o777
        goOn ((mode - cleared) ||| bits)
      | _ => none

def clauses (mask : Nat) (isDirectory : Bool) : List Text → Nat → Option Nat
  | [], mode => some mode
  | t :: ts, mode =>
    let users := t.takeWhile fun c => "ugoa".toList.contains c
    let rest := t.drop users.length
    if rest.isEmpty then none
    else
      match operations mask isDirectory users (rest.length + 1) rest mode with
      | some mode => clauses mask isDirectory ts mode
      | none => none

/-- A mode as it is changed by what is told. -/
def changed? (mask : Nat) (isDirectory : Bool) (t : Text) (mode : Nat) : Option Nat :=
  if !t.isEmpty && t.all (isDigitOf 8) then
    let n := valueIn 8 t
    if n ≤ 0o7777 then some n else none
  else clauses mask isDirectory (Text.splitAt ',' t) mode

end Mode

/-! Directories -/

/-- Makes a directory. The result tells why that cannot be. -/
def makeDirectory (mode : Nat) (path : Text) : Act (Option String) := do
  match ← resolve false path with
  | .ok (_, some _) => return some "File exists"
  | .error e => return some e.message
  | .ok (place, none) =>
    let now ← stampNow
    changeDisk (Disk.set place (some ⟨.directory, mode, now⟩))
    return none

/-- All the paths that lead to a path, the shortest one first. -/
def prefixes (path : Text) : List Text :=
  let names := Filesystem.components path
  let fronts := (List.range names.length).map fun n =>
    ((names.take (n + 1)).intersperse ['/']).flatten
  let fronts := fronts.filter fun t => !t.isEmpty
  (fronts.foldl (fun (kept : List Text) t =>
    if kept.head?.any fun k => k ++ ['/'] = t then kept else t :: kept) []).reverse

def mkdir (called : Text) (args : List Text) : Act Unit := do
  let all := known [('p', "parents"), ('v', "verbose"), ('Z', "")] [('m', "mode")]
  let (os, paths) ← optionsOr 1 called all true args
  if paths.isEmpty then misuse called "missing operand".toList 1
  let s ← strand
  let usual ← masked 0o777
  let mode ← match valueOf? os 'm' with
    | none => pure usual
    | some t =>
      match Mode.changed? s.mask true t 0o777 with
      | some n => pure n
      | none => die called ("invalid mode ".toList ++ (← quoted t)) 1
  let say (path : Text) : Act Unit := do
    if has os 'v' then
      putLine (called ++ ": created directory ".toList ++ (← quotedFully path))
  let complain (path : Text) (why : String) : Act Unit :=
    complainAbout called "cannot create directory" path why
  let step (isLast : Bool) (path : Text) : Act (Option String) := do
    if ← isDirectory path then return none
    else
      match ← makeDirectory (if isLast then mode else usual) path with
      | none =>
        say path
        return none
      | some why => return some (if isLast || why ≠ "File exists" then why else "Not a directory")
  for path in paths do
    if has os 'p' then
      let fronts := prefixes path
      let failed ← iterate fronts fun
        | [] => return .ok none
        | p :: more => do
          match ← step more.isEmpty p with
          | none => return .error more
          | some why => return .ok (some (p, why))
      match failed with
      | some (p, why) => complain p why
      | none => pure ()
    else
      match ← makeDirectory mode path with
      | none => say path
      | some why => complain path why

def rmdir (called : Text) (args : List Text) : Act Unit := do
  let all := known [('p', "parents"), ('v', "verbose"), ('α', "ignore-fail-on-non-empty")] []
  let (os, paths) ← optionsOr 1 called all true args
  if paths.isEmpty then misuse called "missing operand".toList 1
  let removeOne (what : String) (path : Text) : Act Bool := do
    if has os 'v' then
      putLine (called ++ ": removing directory, ".toList ++ (← quotedFully path))
    let fault? : Option String ← match ← resolve false path with
      | .error e => pure (some e.message)
      | .ok (_, none) => pure (some Fault.missing.message)
      | .ok (place, some e) => do
        if e.node ≠ .directory then pure (some Fault.notADirectory.message)
        else if !((← world).disk.namesIn place).isEmpty then
          if has os 'α' then pure none else pure (some "Directory not empty")
        else
          changeDisk (Disk.remove place)
          pure none
    match fault? with
    | none => return true
    | some why =>
      complainAbout called what path why
      return false
  for path in paths do
    if ← removeOne "failed to remove" path then
      if has os 'p' then
        let parents := ((prefixes path).reverse.drop 1)
        let _ ← iterate parents fun
          | [] => return .ok ()
          | p :: more => do
            if ← removeOne "failed to remove directory" p then return .error more
            else return .ok ()

/-! Removing -/

/-- What is told about a removal. -/
structure Removal where
  called : Text
  asksAlways : Bool
  tells : Bool

/-- Removes what is at a place. -/
def removeTree (r : Removal) : Nat → Place → Text → Act Unit
  | 0, _, _ => starve
  | fuel + 1, place, shown => do
    let disk := (← world).disk
    let some e := disk.entry? place | pure ()
    let q ← quotedFully shown
    let agreed (what : Text) : Act Bool :=
      if r.asksAlways then asks r.called (what ++ ' ' :: q) else pure true
    let names := disk.namesIn place
    let isTree := e.node = .directory
    let isEmpty := match e.node with
      | .file n => (disk.content n).isEmpty
      | _ => false
    let goesOn ← if isTree && !names.isEmpty then agreed "descend into directory".toList
      else pure true
    if goesOn then
      for name in names do
        removeTree r fuel (place ++ [name]) (Filesystem.join shown name)
      if ← agreed ("remove ".toList ++ kindOf e isEmpty) then
        if isTree && !((← world).disk.namesIn place).isEmpty then
          complainAbout r.called "cannot remove" shown "Directory not empty"
        else
          changeDisk (Disk.removeAll place)
          if r.tells then
            putLine ((if isTree then "removed directory " else "removed ").toList ++ q)

/-- Nothing lies deeper in a tree. -/
def deepest : Nat := 10000

/-- When a removal is asked about. -/
inductive Asking where
  | never | once | always
  deriving DecidableEq

def Asking.of? (t : Text) : Option Asking :=
  match t.str with
  | "never" | "no" | "none" => some .never
  | "once" => some .once
  | "always" | "yes" | "" => some .always
  | _ => none

def rm (called : Text) (args : List Text) : Act Unit := do
  let all := known [('f', "force"), ('r', "recursive"), ('R', ""), ('d', "dir"), ('i', ""),
    ('I', ""), ('v', "verbose"), ('α', "one-file-system"), ('γ', "no-preserve-root")]
    [] ++ [⟨'β', "interactive", .maybe⟩, ⟨'α', "preserve-root", .maybe⟩]
  let (os, paths) ← match parse all true args with
    | .ok r => pure r
    | .error why => do
      warn called why
      /- What cannot be an option may be a file. -/
      match args.find? fun t => t.take 1 = ['-'] && t ≠ ['-'] && t ≠ ['-', '-'] with
      | some t =>
        if (← occupant? t).isSome then
          writeError ("Try '".toList ++ called ++ " ./".toList ++ t ++
            "' to remove the file ".toList ++ (← quoted t) ++ ".\n".toList)
      | none => pure ()
      writeError (hint called)
      quit 1
  let told ← (os.filter fun o => "fiIβ".toList.contains o.1).mapM fun (c, t) => do
    match c with
    | 'f' => return Asking.never
    | 'i' => return .always
    | 'I' => return .once
    | _ =>
      match Asking.of? t with
      | some a => return a
      | none =>
        warn called ("invalid argument ".toList ++ (← quoted t) ++
          " for '--interactive'\nValid arguments are:\n".toList ++
          "  - 'never', 'no', 'none'\n  - 'once'\n  - 'always', 'yes'".toList)
        writeError (hint called)
        quit 1
  let isForced := (os.filter fun o => "fiI".toList.contains o.1).getLast?.any (·.1 = 'f')
  let asking := told.getLastD .never
  let isRecursive := has os 'r' || has os 'R'
  if paths.isEmpty && !isForced then misuse called "missing operand".toList 1
  if asking = .once && (isRecursive || 3 < paths.length) then
    let count := Numeral.write paths.length ++
      (if paths.length = 1 then " argument" else " arguments").toList
    let agreed ← asks called ("remove ".toList ++ count ++
      (if isRecursive then " recursively" else "").toList)
    if !agreed then quit 0
  let complain (path : Text) (why : String) : Act Unit :=
    complainAbout called "cannot remove" path why
  let r : Removal := ⟨called, asking = .always, has os 'v'⟩
  for path in paths do
    match ← resolve false path with
    | .error e =>
      if !(isForced && (e = .missing || e = .notADirectory)) then complain path e.message
    | .ok (_, none) => if !isForced then complain path Fault.missing.message
    | .ok (place, some e) =>
      if e.node = .directory then
        let last := Filesystem.lastName path
        let isEmpty := ((← world).disk.namesIn place).isEmpty
        if !isRecursive && !has os 'd' then complain path Fault.isADirectory.message
        else if last = ['.'] || last = ['.', '.'] then
          lack called ("refusing to remove '.' or '..' directory: skipping ".toList ++
            (← quotedFully path)) 1
        else if place.isEmpty && !has os 'γ' then
          lack called ("it is dangerous to operate recursively on ".toList ++
            (← quotedFully path)) 1
          warn called "use --no-preserve-root to override this failsafe".toList
        else if !isRecursive && !isEmpty then complain path "Directory not empty"
        else removeTree r deepest place (Filesystem.withoutEnd path)
      else if path.getLast? = some '/' then complain path Fault.notADirectory.message
      else removeTree r deepest place path

def unlink (called : Text) (args : List Text) : Act Unit := do
  let (_, paths) ← optionsOr 1 called [] true args
  match paths with
  | [] => misuse called "missing operand".toList 1
  | _ :: extra :: _ => misuseBehind called "extra operand" extra
  | [path] =>
    match ← resolve false path with
    | .error e => complainAbout called "cannot unlink" path e.message
    | .ok (_, none) => complainAbout called "cannot unlink" path Fault.missing.message
    | .ok (place, some e) =>
      if e.node = .directory then
        complainAbout called "cannot unlink" path Fault.isADirectory.message
      else changeDisk (Disk.remove place)

/-! Making files -/

/-- Makes a file if there is none. The result tells why that cannot be. -/
def ensureFile (path : Text) : Act (Option String) := do
  match ← resolve true path with
  | .error e => return some e.message
  | .ok (place, some _) =>
    let now ← stampNow
    changeDisk (Disk.setStamp place now)
    return none
  | .ok (place, none) =>
    if path.getLast? = some '/' then return some Fault.missing.message
    else
      let mode ← masked 0o666
      let now ← stampNow
      changeDisk (Disk.create place mode now [])
      return none

def touch (called : Text) (args : List Text) : Act Unit := do
  let all := known [('a', ""), ('c', "no-create"), ('f', ""), ('h', "no-dereference"), ('m', "")]
    [('d', "date"), ('r', "reference"), ('t', ""), ('α', "time")]
  let (os, paths) ← optionsOr 1 called all true args
  if paths.isEmpty then misuse called "missing file operand".toList 1
  for path in paths do
    let isThere := match ← locate path with
      | .ok _ => true
      | .error _ => false
    if path ≠ ['-'] && (isThere || !has os 'c') then
      match ← ensureFile path with
      | none => pure ()
      | some why => complainAbout called "cannot touch" path why

def truncate (called : Text) (args : List Text) : Act Unit := do
  let all := known [('c', "no-create"), ('o', "io-blocks")] [('s', "size"), ('r', "reference")]
  let (os, paths) ← optionsOr 1 called all true args
  match valueOf? os 's' with
  | none => misuse called "you must specify either '--size' or '--reference'".toList 1
  | some t =>
    let (sign, digits) : Char × Text := match t.dropWhile isBlank with
      | c :: rest => if "+-<>/%".toList.contains c then (c, rest) else ('=', c :: rest)
      | [] => ('=', [])
    match if digits.isEmpty then none else scaled? sizeSuffixes digits with
    | none => die called ("Invalid number: ".toList ++ (← quoted t)) 1
    | some n =>
      if paths.isEmpty then misuse called "missing file operand".toList 1
      for path in paths do
        if has os 'c' && (← occupant? path).isNone then pure ()
        else
          match ← openForWriting ⟨false, false, true, false⟩ path with
          | .error (.path e) =>
            lack called ("cannot open ".toList ++ (← quotedFully path) ++ " for writing: ".toList ++
              e.message.toList) 1
          | .error .exists => pure ()
          | .ok _ =>
            match ← locate path with
            | .ok (_, ⟨.file k, _, _⟩) =>
              let old := (← world).disk.content k
              let size := match sign with
                | '+' => old.length + n
                | '-' => old.length - n
                | '<' => min old.length n
                | '>' => max old.length n
                | '/' => if n = 0 then 0 else old.length / n * n
                | '%' => if n = 0 then 0 else (old.length + n - 1) / n * n
                | _ => n
              let now ← stampNow
              changeDisk (Disk.write k now
                (old.take size ++ List.replicate (size - old.length) '\x00'))
            | _ => pure ()

/-- Letters of names that nobody has chosen. -/
def nameLetters : Text :=
  "abcdefghijklmnopqrstuvwxyzABCDEFGHIJKLMNOPQRSTUVWXYZ0123456789".toList

def chosenLetters : Nat → Nat → Text
  | 0, _ => []
  | fuel + 1, n =>
    nameLetters.getD (n / 65536 % 62) 'a' ::
      chosenLetters fuel ((n * 6364136223846793005 + 1442695040888963407) % 2 ^ 64)

def mktemp (called : Text) (args : List Text) : Act Unit := do
  let all := known [('d', "directory"), ('u', "dry-run"), ('q', "quiet"), ('t', "")]
    [('p', ""), ('α', "suffix")] ++ [⟨'β', "tmpdir", .maybe⟩]
  let (os, words) ← optionsOr 1 called all true args
  if 1 < words.length then misuse called "too many templates".toList 1
  let s ← strand
  let temporary : Text := ((s.value? "TMPDIR".toList).filter (!·.isEmpty)).getD "/tmp".toList
  let template := words.headD "tmp.XXXXXXXXXX".toList
  let directory : Option Text := match valueOf? os 'p', valueOf? os 'β' with
    | some t, _ => some t
    | none, some t => some (if t.isEmpty then temporary else t)
    | none, none => if words.isEmpty || has os 't' then some temporary else none
  let template := match directory with
    | some d => Filesystem.join d template
    | none => template
  let suffix : Text := match valueOf? os 'α' with
    | some t => t
    | none => (template.reverse.takeWhile fun c => c ≠ 'X' && c ≠ '/').reverse
  let front := if (valueOf? os 'α').isSome then template
    else template.take (template.length - suffix.length)
  let count := (front.reverse.takeWhile (· = 'X')).length
  if count < 3 then
    die called ("too few X's in template ".toList ++ (← quoted (words.headD template))) 1
  let seed := (s.clock + 7919 * ((← world).disk.count + (← world).strands + 1)) * 2654435761
  let path := front.take (front.length - count) ++ chosenLetters count (seed * 40503 + 977) ++
    suffix
  let kind := if has os 'd' then "directory" else "file"
  let fail (why : String) : Act Unit := do
    if !has os 'q' then
      warn called (("failed to create " ++ kind ++ " via template ").toList ++
        (← quoted (template ++ if (valueOf? os 'α').isSome then suffix else [])) ++ ": ".toList ++
        why.toList)
    quit 1
  if !has os 'u' then
    match ← resolve false path with
    | .error e => fail e.message
    | .ok (_, some _) => fail "File exists"
    | .ok (place, none) =>
      let now ← stampNow
      if has os 'd' then changeDisk (Disk.set place (some ⟨.directory, 0o700, now⟩))
      else changeDisk (Disk.create place 0o600 now [])
  putLine path

/-! Copying and moving -/

/-- The sources, and where they are put. -/
def targets (called : Text) (os : List Given) (words : List Text) :
    Act (List (Text × Text)) := do
  let into (directory : Text) (paths : List Text) : Act (List (Text × Text)) := do
    if !(← isDirectory directory) then
      let why := match ← locate directory with
        | .ok _ => Fault.notADirectory.message
        | .error e => e.message
      die called ((if has os 't' then "target directory " else "target ").toList ++
        (← quotedFully directory) ++ ": ".toList ++ why.toList) 1
    return paths.map fun p => (p, targetIn directory p)
  match valueOf? os 't', words with
  | some directory, [] =>
    let _ := directory
    misuse called "missing file operand".toList 1
  | some directory, paths => into directory paths
  | none, [] => misuse called "missing file operand".toList 1
  | none, [path] => misuseBehind called "missing destination file operand after" path
  | none, [path, target] =>
    if !has os 'T' && (← isDirectory target) then return [(path, targetIn target path)]
    else return [(path, target)]
  | none, paths =>
    if has os 'T' then misuseBehind called "extra operand" (paths.getD 2 [])
    else into (paths.getLastD []) paths.dropLast

/-- Tells what was put where. -/
def tellWay (what path target : Text) : Act Unit := do
  putLine (what ++ (← quotedFully path) ++ " -> ".toList ++ (← quotedFully target))

/-- Whether what is there already is replaced. -/
def replaces (called : Text) (os : List Given) (target : Text) (how : String) : Act Bool := do
  match lastOf? os ['n', 'f', 'i'] with
  | some 'n' => return false
  | some 'i' =>
    let agreed ← asks called (how.toList ++ (← quotedFully target))
    if !agreed then setStatus 1
    return agreed
  | _ => return true

/-- What can be read at the standard input stands for its path. -/
def standardInput : Text := "/dev/stdin".toList

/-- Copies what is at a place. -/
def copyTree (called : Text) (os : List Given) : Nat → Text → Text → Act Unit
  | 0, _, _ => starve
  | fuel + 1, path, target => do
    let isRecursive := has os 'r' || has os 'R' || has os 'a'
    let keepsLinks := isRecursive && !has os 'L' || has os 'P' || has os 'd'
    if path = standardInput then
      match ← openOperand ['-'], ← openForWriting ⟨false, true, false, false⟩ target with
      | .ok source, .ok d =>
        let _ ← writeTo (some d) (← (Intake.of source).whole)
        return ()
      | _, _ => pure ()
    match ← resolve (!keepsLinks) path with
    | .error e => complainAbout called "cannot stat" path e.message
    | .ok (_, none) => complainAbout called "cannot stat" path Fault.missing.message
    | .ok (place, some e) =>
      if e.node = .directory then
        if !isRecursive then
          lack called ("-r not specified; omitting directory ".toList ++ (← quotedFully path)) 1
        else
          match ← resolve true target with
          | .error e => complainAbout called "cannot create directory" target e.message
          | .ok (there, old) =>
            if place.isPrefixOf there then
              die called ("cannot copy a directory, ".toList ++ (← quotedFully path) ++
                ", into itself, ".toList ++ (← quotedFully target)) 1
            let names := (← world).disk.namesIn place
            let now ← stampNow
            match old with
            | some o =>
              if o.node ≠ .directory then
                lack called ("cannot overwrite non-directory ".toList ++ (← quotedFully target) ++
                  " with directory ".toList ++ (← quotedFully path)) 1
            | none => changeDisk (Disk.set there (some ⟨.directory, e.mode, now⟩))
            if has os 'v' then tellWay [] path target
            for name in names do
              copyTree called os fuel (Filesystem.join path name) (Filesystem.join target name)
      else
        let disk := (← world).disk
        let content : Text := match e.node with
          | .file n => disk.content n
          | _ => []
        let now ← stampNow
        let old ← resolve true target
        match e.node, old with
        | _, .error why =>
          let what := if why = .notADirectory then "cannot stat" else "cannot create regular file"
          complainAbout called what target why.message
        | .link _, .ok (there, none) =>
          changeDisk (Disk.set there (some e))
          if has os 'v' then tellWay [] path target
        | _, .ok (there, none) =>
          if target.getLast? = some '/' then
            complainAbout called "cannot create regular file" target Fault.notADirectory.message
          else
            let mode ← if has os 'p' || has os 'a' then pure e.mode else masked e.mode
            changeDisk (Disk.create there mode now content)
            if has os 'v' then tellWay [] path target
        | _, .ok (there, some o) =>
          if there = place then
            lack called ((← quotedFully path) ++ " and ".toList ++ (← quotedFully target) ++
              " are the same file".toList) 1
          else if !(← replaces called os target "overwrite ") then pure ()
          else
            match o.node with
            | .file k =>
              changeDisk (Disk.write k now content)
              if has os 'v' then tellWay [] path target
            | .directory =>
              lack called ("cannot overwrite directory ".toList ++ (← quotedFully target) ++
                " with non-directory".toList) 1
            | _ => pure ()

def cp (called : Text) (args : List Text) : Act Unit := do
  let all := known [('a', "archive"), ('d', ""), ('f', "force"), ('i', "interactive"), ('L', ""),
      ('l', "link"), ('n', "no-clobber"), ('P', "no-dereference"), ('p', ""), ('r', "recursive"),
      ('R', ""), ('s', "symbolic-link"), ('T', "no-target-directory"), ('v', "verbose"),
      ('u', "update"), ('L', "dereference")] [('t', "target-directory"), ('S', "suffix")] ++
    [⟨'p', "preserve", .maybe⟩, ⟨'b', "backup", .maybe⟩]
  let (os, words) ← optionsOr 1 called all true args
  if has os 'n' then
    warn (called ++ ": warning".toList)
      ("behavior of -n is non-portable and may change in future; ".toList ++
        "use --update=none instead".toList)
  for (path, target) in ← targets called os words do
    copyTree called os deepest path target

def mv (called : Text) (args : List Text) : Act Unit := do
  let all := known [('f', "force"), ('i', "interactive"), ('n', "no-clobber"),
      ('T', "no-target-directory"), ('v', "verbose"), ('u', "update")]
    [('t', "target-directory"), ('S', "suffix")] ++ [⟨'b', "backup", .maybe⟩]
  let (os, words) ← optionsOr 1 called all true args
  for (path, target) in ← targets called os words do
    match ← resolve false path with
    | .error e => complainAbout called "cannot stat" path e.message
    | .ok (_, none) => complainAbout called "cannot stat" path Fault.missing.message
    | .ok (place, some e) =>
      let move (there : Place) : Act Unit := do
        changeDisk (Disk.move place there)
        if has os 'v' then tellWay "renamed ".toList path target
      match ← resolve false target with
      | .error why =>
        lack called ("cannot move ".toList ++ (← quotedFully path) ++ " to ".toList ++
          (← quotedFully target) ++ ": ".toList ++ why.message.toList) 1
      | .ok (there, none) =>
        if place.isPrefixOf there then
          lack called ("cannot move ".toList ++ (← quotedFully path) ++
            " to a subdirectory of itself, ".toList ++ (← quotedFully target)) 1
        else if target.getLast? = some '/' && e.node ≠ .directory then
          lack called ("cannot move ".toList ++ (← quotedFully path) ++ " to ".toList ++
            (← quotedFully target) ++ ": Not a directory".toList) 1
        else move there
      | .ok (there, some o) =>
        if there = place then
          lack called ((← quotedFully path) ++ " and ".toList ++ (← quotedFully target) ++
            " are the same file".toList) 1
        else if lastOf? os ['f', 'i', 'n'] = some 'n' then
          lack called ("not replacing ".toList ++ (← quotedFully target)) 1
        else if !(← replaces called os target "overwrite ") then setStatus 1
        else if o.node = .directory && e.node ≠ .directory then
          lack called ("cannot overwrite directory ".toList ++ (← quotedFully target) ++
            " with non-directory".toList) 1
        else if o.node ≠ .directory && e.node = .directory then
          lack called ("cannot overwrite non-directory ".toList ++ (← quotedFully target) ++
            " with directory ".toList ++ (← quotedFully path)) 1
        else if o.node = .directory && !((← world).disk.namesIn there).isEmpty then
          lack called ("cannot move ".toList ++ (← quotedFully path) ++ " to ".toList ++
            (← quotedFully target) ++ ": Directory not empty".toList) 1
        else move there

/-! Links -/

/-- Makes a link. -/
def makeLink (called : Text) (os : List Given) (path target : Text) : Act Unit := do
  let kind := if has os 's' then "symbolic link" else "hard link"
  let old ← resolve false target
  let fails (why : String) : Act Unit :=
    complainAbout called ("failed to create " ++ kind) target why
  let put_ (there : Place) (e : Occupant) : Act Unit := do
    changeDisk (Disk.set there (some e))
    if has os 'v' then
      putLine ((← quotedFully target) ++ (if has os 's' then " -> " else " => ").toList ++
        (← quotedFully path))
  let now ← stampNow
  let e? : Option Occupant ← if has os 's' then pure (some ⟨.link path, 0o777, now⟩)
    else do
      match ← resolve (has os 'L') path with
      | .error e =>
        complainAbout called "failed to access" path e.message
        pure none
      | .ok (_, none) =>
        complainAbout called "failed to access" path Fault.missing.message
        pure none
      | .ok (_, some e) =>
        if e.node = .directory then
          lack called ((← quotedName path) ++ ": hard link not allowed for directory".toList) 1
          pure none
        else pure (some e)
  match e?, old with
  | none, _ => pure ()
  | some _, .error e => fails e.message
  | some e, .ok (there, none) => put_ there e
  | some e, .ok (there, some o) =>
    if o.node ≠ .directory && lastOf? os ['f', 'i'] = some 'f' then put_ there e
    else if has os 'i' then
      if ← replaces called os target "replace " then put_ there e
    else fails "File exists"

def ln (called : Text) (args : List Text) : Act Unit := do
  let all := known [('s', "symbolic"), ('f', "force"), ('i', "interactive"), ('L', "logical"),
      ('n', "no-dereference"), ('P', "physical"), ('r', "relative"), ('T', "no-target-directory"),
      ('v', "verbose")] [('t', "target-directory"), ('S', "suffix")] ++ [⟨'b', "backup", .maybe⟩]
  let (os, words) ← optionsOr 1 called all true args
  match words, valueOf? os 't' with
  | [path], none =>
    let target := "./".toList ++ Filesystem.lastName path
    makeLink called os path target
  | [path, target], none =>
    let isLink := match ← occupant? target with
      | some (_, e) => match e.node with
        | .link _ => true
        | _ => false
      | none => false
    if has os 'T' || (has os 'n' && isLink) || !(← isDirectory target) then
      makeLink called os path target
    else makeLink called os path (targetIn target path)
  | words, _ =>
    for (path, target) in ← targets called os words do
      makeLink called os path target

def link (called : Text) (args : List Text) : Act Unit := do
  let (_, words) ← optionsOr 1 called [] true args
  match words with
  | [] => misuse called "missing operand".toList 1
  | [path] => misuseBehind called "missing operand after" path
  | [path, target] =>
    let fails (why : String) : Act Unit := do
      lack called ("cannot create link ".toList ++ (← quotedFully target) ++ " to ".toList ++
        (← quotedFully path) ++ ": ".toList ++ why.toList) 1
    match ← resolve false path, ← resolve false target with
    | .error e, _ | _, .error e => fails e.message
    | .ok (_, none), _ => fails Fault.missing.message
    | _, .ok (_, some _) => fails "File exists"
    | .ok (_, some e), .ok (there, none) => changeDisk (Disk.set there (some e))
  | _ :: _ :: extra :: _ => misuseBehind called "extra operand" extra

/-! Who may use files -/

def chmod (called : Text) (args : List Text) : Act Unit := do
  let all := known [('c', "changes"), ('f', "silent"), ('f', "quiet"), ('v', "verbose"),
    ('R', "recursive")] [('α', "reference")]
  /- A mode may look like options. -/
  let isMode (t : Text) : Bool :=
    match t with
    | '-' :: c :: _ => "rwxXst".toList.contains c
    | _ => false
  let (modes, args) := (args.filter isMode, args.filter fun t => !isMode t)
  let (os, words) ← optionsOr 1 called all true args
  let words := modes ++ words
  match words with
  | [] => misuse called "missing operand".toList 1
  | [t] => misuseBehind called "missing operand after" t
  | t :: paths =>
    let mask := (← strand).mask
    if (Mode.changed? mask false t 0).isNone then
      misuse called ("invalid mode: ".toList ++ (← quoted t)) 1
    let change (place : Place) (e : Occupant) : Act Unit := do
      match Mode.changed? mask (e.node = .directory) t e.mode with
      | some mode => changeDisk (Disk.setMode place mode)
      | none => pure ()
    let rec tree : Nat → Place → Act Unit
      | 0, _ => starve
      | fuel + 1, place => do
        match (← world).disk.entry? place with
        | none => pure ()
        | some e =>
          change place e
          if e.node = .directory && has os 'R' then
            for name in (← world).disk.namesIn place do
              tree fuel (place ++ [name])
    for path in paths do
      match ← locate path with
      | .ok (place, _) => tree deepest place
      | .error e =>
        if !has os 'f' then complainAbout called "cannot access" path e.message
        setStatus 1

end RemoteInterpreter.Shell.Tool
