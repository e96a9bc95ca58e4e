import RemoteInterpreter.Shell.Tool.Script
import RemoteInterpreter.Shell.Tool.Search

/-!
# Editing lines

The tool that edits what it reads line by line: every line is the page on which a script
works, and is printed when the script has come to its end.
-/

namespace RemoteInterpreter.Shell.Tool

namespace Editing

open Regex (Spot)

/-- A text that is edited. The last line may have no mark at its end. -/
structure Page where
  text : Text
  hasEnd : Bool

/-- Where something is written to. -/
structure Outlet where
  path : Text
  /-- Nothing stands for the standard output. -/
  target : Option Descriptor
  /-- The mark at the end of the last line is still to be written. -/
  lacksEnd : Bool

/-- What is printed when a cycle ends. -/
inductive Supplement where
  | text (t : Text)
  | file (path : Text)

/-- Whether a range is open, and where it ends if that is known. -/
inductive RangeState where
  | idle
  | open (limit : Option Nat)
  | over

structure Desk where
  steps : Array Step
  style : Style
  quiet : Bool
  separate : Bool
  mark : Char
  width : Nat
  unbuffered : Bool
  /-- Files are changed in their places, with backups if there is a suffix for them. -/
  inPlace : Option Text

structure Progress where
  page : Page
  held : Page
  line : Nat
  /-- What is left to be read. -/
  operands : List Text
  current : Option (Text × Intake)
  /-- The next line, if it was looked at. -/
  peeked : Option (Option Text)
  supplements : List Supplement
  changed : Bool
  ranges : Array RangeState
  lastUsed : Option Matcher
  outlets : List Outlet
  readers : List (Text × Intake)
  /-- What a file is going to hold. -/
  rewritten : List Text
  missing : Bool

/-! Output -/

def lineOf (d : Desk) (t : Text) : Text := encoded d.style.unicode t

/-- Prints a text, behind the mark that is missing in the line before. -/
def emit (d : Desk) (t : Text) (hasEnd : Bool) (p : Progress) : Act Progress := do
  let front : Text := if p.missing then [d.mark] else []
  let all := front ++ t ++ if hasEnd then [d.mark] else []
  if d.inPlace.isSome && p.current.isSome then
    return { p with rewritten := all :: p.rewritten, missing := !hasEnd }
  else
    put all
    if d.unbuffered then flush
    return { p with missing := !hasEnd }

/-- Prints a text that has its own end. -/
def emitText (d : Desk) (t : Text) (p : Progress) : Act Progress := do
  if t.isEmpty then
    if p.missing then
      let p ← emit d [] true { p with missing := false }
      return { p with missing := false }
    else return p
  else
    let front : Text := if p.missing then [d.mark] else []
    let p ← emit d (front ++ t) false { p with missing := false }
    return { p with missing := false }

def emitPage (d : Desk) (g : Page) (p : Progress) : Act Progress :=
  emit d (lineOf d g.text) g.hasEnd p

/-- Writes a line to a file. -/
def writeOut (called : Text) (d : Desk) (path : Text) (g : Page) (p : Progress) :
    Act Progress := do
  match p.outlets.find? fun o => o.path = path with
  | none => return p
  | some o =>
    match o.target with
    | none =>
      let front : Text := if o.lacksEnd then [d.mark] else []
      put (front ++ lineOf d g.text ++ if g.hasEnd then [d.mark] else [])
      let outlets := p.outlets.map fun o =>
        if o.path = path then { o with lacksEnd := !g.hasEnd } else o
      return { p with outlets := outlets }
    | some target =>
      let front : Text := if o.lacksEnd then [d.mark] else []
      let t := front ++ lineOf d g.text ++ if g.hasEnd then [d.mark] else []
      match ← writeTo (some target) t with
      | none => pure ()
      | some why =>
        die called ("couldn't write ".toList ++ Numeral.write t.length ++ " items to ".toList ++
          path ++ ": ".toList ++ why.toList) 4
      let outlets := p.outlets.map fun o =>
        if o.path = path then { o with lacksEnd := !g.hasEnd } else o
      return { p with outlets := outlets }

/-- Prints what was put off to the end of the cycle. -/
def supply (d : Desk) (p : Progress) : Act Progress := do
  let p ← p.supplements.foldlM (fun p s => do
    match s with
    | .text t => emitText d t p
    | .file path =>
      match ← openForReading path with
      | .error _ => return p
      | .ok source =>
        let t ← (Intake.of source).whole
        if t.isEmpty then return p
        else
          let p ← emitText d t p
          return p) p
  return { p with supplements := [] }

/-! Input -/

/-- A file that was edited in its place is written. -/
def replaceFile (called : Text) (d : Desk) (path : Text) (p : Progress) : Act Progress := do
  match d.inPlace with
  | none => return p
  | some suffix =>
    let t := p.rewritten.reverse.flatten
    match ← resolve true path with
    | .ok (place, some ⟨.file n, mode, _⟩) =>
      let now := (← strand).clock
      let old := (← world).disk.content n
      if !suffix.isEmpty then
        let name := place.getLastD []
        let backup := if suffix.contains '*' then
          suffix.flatMap fun c => if c = '*' then name else [c] else name ++ suffix
        changeDisk (Disk.create (place.dropLast ++ [backup]) mode now old)
      changeDisk (Disk.create place mode now t)
    | _ => pure ()
    let _ := called
    return { p with rewritten := [], missing := false }

/-- The next line with its mark, if there is one in what is left. -/
def fetch (called : Text) (d : Desk) (p : Progress) : Act (Option Text × Progress) := do
  iterate p fun p => do
    match p.current with
    | some (path, i) =>
      match ← i.upTo d.mark with
      | (some l, i) => return .ok (some l, { p with current := some (path, i) })
      | (none, _) =>
        let p ← replaceFile called d path p
        return .error { p with current := none }
    | none =>
      match p.operands with
      | [] => return .ok (none, p)
      | path :: rest =>
        let p := { p with operands := rest }
        let lacking (message : Text) : Act Progress := do
          lack called message 2
          return p
        if d.inPlace.isSome then
          match ← locate path with
          | .ok (_, ⟨.file _, _, _⟩) => pure ()
          | .ok _ =>
            lack called ("couldn't edit ".toList ++ path ++ ": not a regular file".toList) 4
            return .error p
          | .error _ => pure ()
        match ← openOperand path with
        | .error e =>
          return .error (← lacking ("can't read ".toList ++ path ++ ": ".toList ++
            e.message.toList))
        | .ok source =>
          match ← readFault? source with
          | some e =>
            return .error (← lacking ("read error on ".toList ++ path ++ ": ".toList ++
              e.message.toList))
          | none =>
            let line := if d.separate then 0 else p.line
            return .error { p with current := some (path, Intake.of source), line := line }

/-- Looks at the next line. -/
def peek (called : Text) (d : Desk) (p : Progress) : Act (Option Text × Progress) := do
  match p.peeked with
  | some l => return (l, p)
  | none =>
    if d.separate then
      match p.current with
      | some (path, i) =>
        match ← i.upTo d.mark with
        | (some l, i) =>
          return (some l, { p with current := some (path, i), peeked := some (some l) })
        | (none, i) => return (none, { p with current := some (path, i) })
      | none => return (none, p)
    else
      let (l, p) ← fetch called d p
      return (l, { p with peeked := some l })

/-- The next line is taken. There may be none. -/
def take (called : Text) (d : Desk) (p : Progress) : Act (Option Page × Progress) := do
  let (l, p) ← match p.peeked with
    | some l => pure (l, { p with peeked := none })
    | none => fetch called d p
  match l with
  | none => return (none, p)
  | some l =>
    let (t, hasEnd) := withoutMark d.mark l
    return (some ⟨decoded d.style.unicode t, hasEnd⟩, { p with line := p.line + 1 })

/-- Whether this line is the last one. -/
def isLast (called : Text) (d : Desk) (p : Progress) : Act (Bool × Progress) := do
  let (l, p) ← peek called d p
  return (l.isNone, p)

/-- Whether there is nothing left to be read, be it in another file. -/
def isDone (called : Text) (d : Desk) (p : Progress) : Act (Bool × Progress) := do
  let (l, p) ← peek called d p
  return (l.isNone && (!d.separate || p.operands.isEmpty), p)

/-! Addresses -/

/-- The expression that is meant. It is used from now on. -/
def used (called : Text) (m : Option Matcher) (p : Progress) : Act (Matcher × Progress) := do
  match m.orElse fun _ => p.lastUsed with
  | some m => return (m, { p with lastUsed := some m })
  | none => die called "-e expression #1, char 0: no previous regular expression".toList 1

def concerns (called : Text) (d : Desk) (a : Address) (p : Progress) : Act (Bool × Progress) := do
  match a with
  | .line n => return (p.line = n, p)
  | .every first step =>
    return (first ≤ p.line && (p.line - first) % step = 0, p)
  | .last => isLast called d p
  | .holding m =>
    let (m, p) ← used called m p
    return ((m.search p.page.text).isSome, p)

def setRange (i : Nat) (r : RangeState) (p : Progress) : Progress :=
  { p with ranges := p.ranges.setIfInBounds i r }

/-- Whether a step is for this line. -/
def applies (called : Text) (d : Desk) (i : Nat) (s : Step) (p : Progress) :
    Act (Bool × Progress) := do
  match s.first, s.second with
  | none, _ => return (true, p)
  | some a, none => concerns called d a p
  | some a, some limit =>
    let begun : Act (Bool × Progress) := do
      let (holds, p) ← concerns called d a p
      if !holds then return (false, p)
      else
        let until_ (n : Nat) : Bool × Progress :=
          (true, if n ≤ p.line then p else setRange i (.open (some n)) p)
        match limit with
        | .address (.line n) => return until_ n
        | .further n => return until_ (p.line + n)
        | .multiple n =>
          return until_ (if n = 0 then p.line else (p.line + n - 1) / n * n)
        | _ => return (true, setRange i (.open none) p)
    match p.ranges.getD i .idle, limit with
    | .open (some n), _ =>
      return (p.line ≤ n, if n ≤ p.line then setRange i .idle p else p)
    | .open none, .address b =>
      let (holds, p) ← concerns called d b p
      return (true, if holds then setRange i .over p else p)
    | .over, _ =>
      match a with
      | .line 0 => return (false, p)
      | _ => begun
    | _, _ => begun

/-! Changes -/

/-- How letters are being changed: all that come, and the next one. -/
structure Casing where
  all : Option Bool
  next : Option Bool

def recased (isUpper : Bool) (c : Char) : Char := if isUpper then c.toUpper else c.toLower

def Casing.apply (k : Casing) (t : Text) : Text × Casing :=
  let whole (t : Text) : Text := match k.all with
    | some u => t.map (recased u)
    | none => t
  match t, k.next with
  | c :: rest, some u => (recased u c :: whole rest, { k with next := none })
  | t, _ => (whole t, k)

/-- What stands in place of a match. -/
def replacement (parts : List Part) (found : Text) (groups : List (Nat × Text)) : Text :=
  (parts.foldl (fun ((out, k) : Text × Casing) p =>
    let add (t : Text) : Text × Casing :=
      let (t, k) := k.apply t
      (out ++ t, k)
    match p with
    | .text t => add t
    | .group 0 => add found
    | .group n => add ((groups.lookup n).getD [])
    | .case .upper => (out, { k with all := some true })
    | .case .lower => (out, { k with all := some false })
    | .case .upperNext => (out, { k with next := some true })
    | .case .lowerNext => (out, { k with next := some false })
    | .case .plain => (out, ⟨none, none⟩)) ([], ⟨none, none⟩)).1

/-- Replaces matches from the one of that number on. A match of nothing behind another match does
not count. The pieces of the result come the latest first. -/
def replaced (m : Matcher) (s : Substitution) :
    Nat → Nat → Option Nat → Spot → List Text → Bool → List Text × Bool
  | 0, _, _, spot, out, changed => (spot.rest :: out, changed)
  | fuel + 1, count, last, spot, out, changed =>
    match m.from? spot with
    | none => (spot.rest :: out, changed)
    | some (b, e) =>
      let before := spot.rest.take (b.position - spot.position)
      let found := b.rest.take (e.position - b.position)
      let out := if before.isEmpty then out else before :: out
      if found.isEmpty && last = some b.position then
        match b.rest with
        | [] => (out, changed)
        | c :: _ => replaced m s fuel count none (b.advance 1) ([c] :: out) changed
      else
        let count := count + 1
        let chosen := if s.isGlobal then s.nth ≤ count else count = s.nth
        let out := (if chosen then replacement s.parts found e.groups else found) :: out
        let changed := changed || chosen
        if chosen && !s.isGlobal then (e.rest :: out, changed)
        else if found.isEmpty then
          match b.rest with
          | [] => (out, changed)
          | c :: _ => replaced m s fuel count none (b.advance 1) ([c] :: out) changed
        else replaced m s fuel count (some e.position) e out changed

/-- A text as it is shown with all its characters, in lines of a width. -/
def displayed (unicode : Bool) (width : Nat) (t : Text) : Text :=
  let pieces := (characters unicode t).map fun c =>
    match c with
    | ['\\'] => ['\\', '\\']
    | c => if isShowable c then c else escapedChar c
  let (out, line, _) := pieces.foldl (fun ((out, line, n) : List Text × Text × Nat) u =>
    if 1 < width && width - 1 < n + u.length then ((line ++ ['\\', '\n']) :: out, u, u.length)
    else (out, line ++ u, n + u.length)) ([], [], 0)
  (line :: out).reverse.flatten ++ ['$']

/-- One page behind the other. -/
def joined (d : Desk) (a b : Page) : Page := ⟨a.text ++ d.mark :: b.text, b.hasEnd⟩

/-! Cycles -/

/-- What is done after a step. -/
inductive Next where
  | step (n : Nat)
  /-- The page is printed, and the next line is read. -/
  | finish
  /-- The next line is read. -/
  | skip
  /-- The script begins again without another line. -/
  | again
  | quit (prints : Bool) (status : Nat)

def execute (l : Launcher) (called : Text) (d : Desk) (i : Nat) (s : Step) (p : Progress) :
    Act (Next × Progress) := do
  let goOn (p : Progress) : Act (Next × Progress) := return (.step (i + 1), p)
  match s.deed with
  | .block _ | .close | .label => goOn p
  | .jump n =>
    spendTurn
    return (.step n, p)
  | .jumpIfChanged n =>
    spendTurn
    return (.step (if p.changed then n else i + 1), { p with changed := false })
  | .jumpUnlessChanged n =>
    return (.step (if p.changed then i + 1 else n), { p with changed := false })
  | .number => goOn (← emitText d (Numeral.write p.line ++ ['\n']) p)
  | .append t => goOn { p with supplements := p.supplements ++ [.text t] }
  | .insert t => goOn (← emitText d t p)
  | .change t =>
    let isInside := match p.ranges.getD i .idle with
      | .open _ => s.second.isSome && !s.isInverted
      | _ => false
    let p ← if isInside then pure p else emitText d t p
    return (.skip, p)
  | .delete => return (.skip, p)
  | .deleteLine =>
    match Text.cut? d.mark p.page.text with
    | none => return (.skip, p)
    | some (_, rest) => return (.again, { p with page := { p.page with text := rest } })
  | .run command =>
    if command.isEmpty then
      let t ← capture l (lineOf d p.page.text)
      let (t, _) := withoutMark '\n' t
      goOn { p with page := ⟨decoded d.style.unicode t, true⟩ }
    else goOn (← emitText d (← capture l command) p)
  | .fileName =>
    let name := match p.current with
      | some (path, _) => path
      | none => ['-']
    goOn (← emitText d (name ++ ['\n']) p)
  | .take adds =>
    goOn { p with page := if adds then joined d p.page p.held else p.held }
  | .hold adds =>
    goOn { p with held := if adds then joined d p.held p.page else p.page }
  | .exchange =>
    goOn { p with page := p.held, held := p.page }
  | .show width =>
    let t := displayed d.style.unicode (width.getD d.width) (lineOf d p.page.text)
    goOn (← emitText d (t ++ ['\n']) p)
  | .next =>
    let (done, p) ← isDone called d p
    if done then return (.finish, p)
    else
      let p ← if d.quiet then pure p else emitPage d p.page p
      let p ← supply d p
      let (page, p) ← take called d p
      goOn { p with page := page.getD p.page }
  | .addNext =>
    let (done, p) ← isDone called d p
    if done then return (.finish, p)
    else
      let p ← supply d p
      let (page, p) ← take called d p
      let page := page.getD p.page
      goOn { p with page := ⟨p.page.text ++ d.mark :: page.text, page.hasEnd⟩ }
  | .print => goOn (← emitPage d p.page p)
  | .printLine =>
    let t := p.page.text.takeWhile (· ≠ d.mark)
    goOn (← emit d (lineOf d t) (t.length < p.page.text.length || p.page.hasEnd) p)
  | .quit prints status => return (.quit prints status, p)
  | .read path => goOn { p with supplements := p.supplements ++ [.file path] }
  | .readLine path =>
    let reader ← match p.readers.lookup path with
      | some i => pure (some i)
      | none =>
        match ← openOperand path with
        | .ok source => pure (some (Intake.of source))
        | .error _ => pure none
    match reader with
    | none => goOn p
    | some i =>
      let (t, i) ← i.upTo d.mark
      let p := { p with readers := (path, i) :: p.readers.filter fun r => r.1 ≠ path }
      match t with
      | none => goOn p
      | some t =>
        let (t, _) := withoutMark d.mark t
        goOn { p with supplements := p.supplements ++ [.text (t ++ [d.mark])] }
  | .write path => goOn (← writeOut called d path p.page p)
  | .writeLine path =>
    goOn (← writeOut called d path ⟨p.page.text.takeWhile (· ≠ '\n'), true⟩ p)
  | .replaceLetters pairs =>
    goOn { p with
      page := { p.page with text := p.page.text.map fun c => (pairs.lookup c).getD c } }
  | .clear => goOn { p with page := { p.page with text := [] } }
  | .substitute s =>
    let (m, p) ← used called s.pattern p
    let t := p.page.text
    let (pieces, changed) := replaced m s (2 * t.length + 3) 0 none (Spot.of t) [] false
    if !changed then goOn p
    else
      let p := { p with
        changed := true, page := { p.page with text := pieces.reverse.flatten } }
      let p ← if s.runs then do
          let t ← capture l (lineOf d p.page.text)
          let (t, _) := withoutMark '\n' t
          pure { p with page := ⟨decoded d.style.unicode t, true⟩ }
        else pure p
      let p ← if s.prints then emitPage d p.page p else pure p
      match s.file with
      | some path => goOn (← writeOut called d path p.page p)
      | none => goOn p

/-- One step behind the other, up to the end of the script or of the cycle. -/
def cycle (l : Launcher) (called : Text) (d : Desk) (p : Progress) : Act (Next × Progress) := do
  iterate (0, p) fun (i, p) => do
    match d.steps[i]? with
    | none => return .ok (.finish, p)
    | some s =>
      let (holds, p) ← applies called d i s p
      if holds == s.isInverted then
        match s.deed with
        | .block behind => return .error (behind, p)
        | _ => return .error (i + 1, p)
      else
        match ← execute l called d i s p with
        | (.step n, p) => return .error (n, p)
        | (next, p) => return .ok (next, p)

/-- All cycles. The result is the status with which the editor ends. -/
def run (l : Launcher) (called : Text) (d : Desk) (p : Progress) : Act Nat := do
  iterate (true, p) fun (reads, p) => do
    let (page, p) ← if reads then take called d p else pure (some p.page, p)
    match page with
    | none =>
      return .ok (← strand).status
    | some page =>
      let p := { p with page := page, changed := if reads then false else p.changed }
      let (next, p) ← cycle l called d p
      let finish (prints : Bool) (p : Progress) : Act Progress := do
        let p ← if prints && !d.quiet then emitPage d p.page p else pure p
        supply d p
      match next with
      | .finish | .step _ => return .error (true, ← finish true p)
      | .skip => return .error (true, ← finish false p)
      | .again =>
        spendTurn
        return .error (false, ← finish false p)
      | .quit prints status =>
        let p ← finish prints p
        match p.current with
        | some (path, i) =>
          if d.inPlace.isSome then
            let rest ← i.whole
            let p ← emitText d ((p.peeked.bind id).getD [] ++ rest) p
            let _ ← replaceFile called d path p
          else if path = ['-'] then
            Intake.giveBack { i with ahead := (p.peeked.bind id).getD [] ++ i.ahead }
        | none => pure ()
        return .ok (max status (← strand).status)

/-! Arguments -/

/-- A piece of a script, and where it comes from. -/
structure Piece where
  text : Text
  file : Option Text

/-- Where in which piece so many characters were read. -/
def place (pieces : List Piece) (used : Nat) : Text :=
  go pieces 1 used
where
  go : List Piece → Nat → Nat → Text
  | [], n, used => expression (n - 1) used
  | [p], n, used => shown p n used
  | p :: rest, n, used =>
    let isExpression := p.file.isNone
    if used ≤ p.text.length then shown p n used
    else go rest (if isExpression then n + 1 else n) (used - p.text.length - 1)
  shown (p : Piece) (n used : Nat) : Text :=
    match p.file with
    | none => expression n used
    | some path =>
      let line := ((p.text.take (used - 1)).count '\n') + 1
      "file ".toList ++ path ++ " line ".toList ++ Numeral.write line
  expression (n used : Nat) : Text :=
    "-e expression #".toList ++ Numeral.write n ++ ", char ".toList ++ Numeral.write used

def writtenFiles (steps : List Step) : List Text :=
  (steps.filterMap fun s => match s.deed with
    | .write path | .writeLine path => some path
    | .substitute s => s.file
    | _ => none).eraseDups

/-- What is said of a use that makes no sense. -/
def usage : Text :=
  ("Usage: sed [OPTION]... \x7bscript-only-if-no-other-script\x7d [input-file]...\n\n" ++
   "  -n, --quiet, --silent\n" ++
   "                 suppress automatic printing of pattern space\n" ++
   "      --debug\n" ++
   "                 annotate program execution\n" ++
   "  -e script, --expression=script\n" ++
   "                 add the script to the commands to be executed\n" ++
   "  -f script-file, --file=script-file\n" ++
   "                 add the contents of script-file to the commands to be executed\n" ++
   "  --follow-symlinks\n" ++
   "                 follow symlinks when processing in place\n" ++
   "  -i[SUFFIX], --in-place[=SUFFIX]\n" ++
   "                 edit files in place (makes backup if SUFFIX supplied)\n" ++
   "  -l N, --line-length=N\n" ++
   "                 specify the desired line-wrap length for the \x60l' command\n" ++
   "  --posix\n" ++
   "                 disable all GNU extensions.\n" ++
   "  -E, -r, --regexp-extended\n" ++
   "                 use extended regular expressions in the script\n" ++
   "                 (for portability use POSIX -E).\n" ++
   "  -s, --separate\n" ++
   "                 consider files as separate rather than as a single,\n" ++
   "                 continuous long stream.\n" ++
   "      --sandbox\n" ++
   "                 operate in sandbox mode (disable e/r/w commands).\n" ++
   "  -u, --unbuffered\n" ++
   "                 load minimal amounts of data from the input files and flush\n" ++
   "                 the output buffers more often\n" ++
   "  -z, --null-data\n" ++
   "                 separate lines by NUL characters\n" ++
   "      --help     display this help and exit\n" ++
   "      --version  output version information and exit\n\n" ++
   "If no -e, --expression, -f, or --file option is given, then the first\n" ++
   "non-option argument is taken as the sed script to interpret.  All\n" ++
   "remaining arguments are names of input files; if no input files are\n" ++
   "specified, then the standard input is read.\n\n" ++
   "GNU sed home page: <https://www.gnu.org/software/sed/>.\n" ++
   "General help using GNU software: <https://www.gnu.org/gethelp/>.\n").toList

end Editing

open Editing

def sedOptions : List Known :=
  known [('n', "quiet"), ('n', "silent"), ('α', "debug"), ('β', "follow-symlinks"),
      ('γ', "posix"), ('E', "regexp-extended"), ('r', ""), ('s', "separate"), ('δ', "sandbox"),
      ('u', "unbuffered"), ('z', "null-data"), ('z', "zero-terminated"), ('b', "binary")]
    [('e', "expression"), ('f', "file"), ('l', "line-length")] ++
  [⟨'i', "in-place", .maybe⟩]

def sed (l : Launcher) (called : Text) (args : List Text) : Act Unit := do
  let misused {α : Type} : Act α := do
    writeError usage
    quit 1
  let (os, operands) ← match parse sedOptions true args with
    | .ok r => pure r
    | .error why =>
      warn called why
      misused
  let (pieces, operands) ←
    if has os 'e' || has os 'f' then do
      let pieces ← os.mapM fun (c, t) => do
        if c = 'e' then return [⟨t, none⟩]
        else if c = 'f' then
          withOperand (fun path e => do
            die called ("couldn't open file ".toList ++ path ++ ": ".toList ++
              e.message.toList) 1) t [] fun source => do
            let t ← (Intake.of source).whole
            return [⟨(withoutMark '\n' t).1, some t⟩]
        else return []
      pure (pieces.flatten, operands)
    else
      match operands with
      | t :: rest => pure ([⟨t, none⟩], rest)
      | [] => misused
  let script := ((pieces.map Piece.text).intersperse ['\n']).flatten
  let unicode := isUnicode (← strand)
  let style : Style := ⟨has os 'E' || has os 'r', unicode⟩
  let steps ← match readScript style (decoded unicode script) with
    | .ok steps => pure steps
    | .error (none, why) =>
      die called why (if why = RegexFault.bareClass.message.toList then 4 else 1)
    | .error (some 0, why) =>
      let n := (pieces.filter fun p => p.file.isNone).length
      die called ("-e expression #".toList ++ Numeral.write (max 1 n) ++ ", char 0: ".toList ++
        why) 1
    | .error (some used, why) => die called (place pieces used ++ ": ".toList ++ why) 1
  let inPlace := valueOf? os 'i'
  if inPlace.isSome && operands.isEmpty then die called "no input files".toList 1
  let isSilent := "#n\n".toList.isPrefixOf script || script = "#n".toList
  let outlets ← (writtenFiles steps).mapM fun path => do
    if path = "/dev/stdout".toList then return ⟨path, none, false⟩
    else
      match ← openForWriting ⟨false, true, false, false⟩ path with
      | .ok target => return ⟨path, some target, false⟩
      | .error e =>
        let why := match e with
          | .path e => e.message
          | .exists => "File exists"
        die called ("couldn't open file ".toList ++ path ++ ": ".toList ++ why.toList) 4
  let width := match valueOf? os 'l' with
    | some t => Numeral.value t
    | none => 70
  let d : Desk :=
    { steps := steps.toArray, style := style, quiet := has os 'n' || isSilent
      separate := has os 's' || inPlace.isSome, mark := if has os 'z' then '\x00' else '\n'
      width := width, unbuffered := has os 'u', inPlace := inPlace }
  let ranges := steps.map fun s => match s.first with
    | some (.line 0) => RangeState.open none
    | _ => .idle
  let p : Progress :=
    { page := ⟨[], true⟩, held := ⟨[], true⟩, line := 0, operands := orInput operands
      current := none, peeked := none, supplements := [], changed := false
      ranges := ranges.toArray, lastUsed := none, outlets := outlets, readers := []
      rewritten := [], missing := false }
  let status ← run l called d p
  setStatus status

end RemoteInterpreter.Shell.Tool
