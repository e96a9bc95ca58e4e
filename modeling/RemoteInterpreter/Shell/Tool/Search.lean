import RemoteInterpreter.Shell.Regex
import RemoteInterpreter.Shell.Tool.Intake

/-!
# Searching

The tool that shows the lines in which something is found.
-/

namespace RemoteInterpreter.Shell.Tool

/-! Characters -/

/-- A text by its characters. What is no part of a character stands beyond all of them. -/
def decoded (unicode : Bool) (t : Text) : Text :=
  if !unicode || t.all (· < '\u0080') then t
  else
    (characters true t).map fun c =>
      match c with
      | [d] => if d < '\u0080' then d else Char.ofNat (0x10ff00 + d.toNat)
      | c => (codePoint? c).getD Text.replacement

/-- A text by its octets. -/
def encoded (unicode : Bool) (t : Text) : Text :=
  if !unicode || t.all (· < '\u0080') then t
  else
    t.flatMap fun c =>
      if Regex.isBroken c then [Char.ofNat (c.toNat - 0x10ff00)]
      else (String.utf8EncodeChar c).map fun b => Char.ofNat b.toNat

namespace Search

open Regex (Spot)

/-- What is looked for in lines. -/
structure Query where
  matchers : List Matcher
  wholeWords : Bool
  wholeLines : Bool

/-- The end of the match that begins here, if there is one that counts. -/
def Query.endAt? (q : Query) (s : Spot) : Option Spot :=
  if q.wholeLines then
    if s.position ≠ 0 then none
    else q.matchers.findSome? fun m => (m.endsAt s).find? fun e => e.rest.isEmpty
  else if q.wholeWords then
    if s.before.any Regex.isWordPart then none
    else
      Regex.longest ((q.matchers.flatMap fun m => m.endsAt s).filter fun e =>
        !e.rest.head?.any Regex.isWordPart)
  else Regex.longest (q.matchers.filterMap fun m => m.matchAt s)

def Query.find? (q : Query) : Nat → Spot → Option (Spot × Spot)
  | 0, _ => none
  | fuel + 1, s =>
    match q.endAt? s with
    | some e => some (s, e)
    | none => if s.rest.isEmpty || q.wholeLines then none else q.find? fuel (s.advance 1)

def Query.holds (q : Query) (l : Text) : Bool := (q.find? (l.length + 1) (Spot.of l)).isSome

/-- All parts of a line that match, each with its position. -/
def Query.all (q : Query) : Nat → Spot → List (Nat × Text)
  | 0, _ => []
  | fuel + 1, s =>
    match q.find? (s.rest.length + 1) s with
    | none => []
    | some (b, e) =>
      if e.position = b.position then
        if e.rest.isEmpty then [] else q.all fuel (e.advance 1)
      else (b.position, b.rest.take (e.position - b.position)) :: q.all fuel e

/-- What is shown of the lines that are found. -/
inductive Shows where
  | lines
  | matches
  | counts
  /-- Names of what holds such lines, or of what holds none. -/
  | names (holding : Bool)
  | nothing
  deriving DecidableEq

structure Plan where
  query : Query
  unicode : Bool
  inverts : Bool
  shows : Shows
  most : Option Nat
  named : Bool
  numbered : Bool
  placed : Bool
  colored : Bool
  lineBuffered : Bool
  /-- What is no text is shown like text. -/
  anyText : Bool
  before : Nat
  after : Nat
  hasContext : Bool
  mark : Char
  /-- What stands behind a name. -/
  nameMark : Option Char
  label : Text

/-- What has been seen of a file. -/
structure Progress where
  line : Nat
  /-- How many octets were before. -/
  offset : Nat
  found : Nat
  /-- The lines before that have not been shown, the latest first. -/
  earlier : List (Nat × Nat × Text)
  /-- How many lines behind a match are still shown. -/
  pending : Nat
  /-- The last line that was shown. -/
  shown : Option Nat
  isBinary : Bool

def Progress.fresh : Progress := ⟨0, 0, 0, [], 0, none, false⟩

def color (code : String) (t : Text) : Text :=
  ("\x1b[" ++ code ++ "m\x1b[K").toList ++ t ++ "\x1b[m\x1b[K".toList

/-- What stands before a line. -/
def Plan.front (p : Plan) (name : Text) (sign : Char) (line offset : Nat) : Text :=
  let paint (code : String) (t : Text) : Text := if p.colored then color code t else t
  let sep : Text := paint "36" [sign]
  (if p.named then paint "35" name ++ (match p.nameMark with
    | some c => [c]
    | none => sep) else []) ++
  (if p.numbered then paint "32" (Numeral.write line) ++ sep else []) ++
  (if p.placed then paint "32" (Numeral.write offset) ++ sep else [])

/-- A line in which the parts that match are in color. -/
def Plan.painted (p : Plan) (l : Text) : Text :=
  if !p.colored || p.inverts then l
  else
    let line := decoded p.unicode l
    let (t, n) := (p.query.all (line.length + 1) (Spot.of line)).foldl
      (fun ((t, n) : Text × Nat) (i, u) =>
        (t ++ encoded p.unicode ((line.drop n).take (i - n)) ++
          color "01;31" (encoded p.unicode u), i + u.length)) ([], 0)
    t ++ encoded p.unicode (line.drop n)

def Plan.printLine (p : Plan) (name : Text) (sign : Char) (line offset : Nat) (l : Text) :
    Act Unit := do
  put (p.front name sign line offset ++ (if sign = ':' then p.painted l else l) ++ [p.mark])
  if p.lineBuffered then flush

/-- One line behind the others. The result tells whether the search goes on. -/
def Plan.step (p : Plan) (name : Text) (s : Progress) (raw : Text) : Act (Progress × Bool) := do
  let (l, _) := withoutMark p.mark raw
  let n := s.line + 1
  let line := decoded p.unicode l
  let isBinary := s.isBinary || (!p.anyText &&
    (l.contains '\x00' || (p.unicode && line.any Regex.isBroken)))
  let next : Progress := { s with line := n, offset := s.offset + raw.length, isBinary := isBinary }
  let isPast := p.most.any (· ≤ s.found)
  if !isPast && p.query.holds line != p.inverts then
    let next := { next with found := s.found + 1 }
    match p.shows with
    | .nothing => return (next, false)
    | .names _ => return (next, false)
    | .counts => return (next, p.most.all (next.found < ·))
    | .matches | .lines =>
      if isBinary then return (next, false)
      else
        let first := match s.earlier.getLast? with
          | some (k, _, _) => k
          | none => n
        if p.hasContext && s.shown.any (· + 1 < first) then
          put ((if p.colored then color "36" ['-', '-'] else ['-', '-']) ++ ['\n'])
        for (k, offset, t) in s.earlier.reverse do
          if p.shows = .lines then p.printLine name '-' k offset t
        if p.shows = .lines then p.printLine name ':' n s.offset l
        else if !p.inverts then
          for (i, t) in p.query.all (line.length + 1) (Spot.of line) do
            let place := s.offset + (encoded p.unicode (line.take i)).length
            let u := encoded p.unicode t
            put (p.front name ':' n place ++ (if p.colored then color "01;31" u else u) ++ [p.mark])
            if p.lineBuffered then flush
        let next := { next with earlier := [], pending := p.after, shown := some n }
        return (next, p.most.all (next.found < ·) || 0 < p.after)
  else if isBinary then return (next, true)
  else if 0 < s.pending then
    if p.shows = .lines then p.printLine name '-' n s.offset l
    let next := { next with pending := s.pending - 1, shown := some n }
    return (next, p.most.all (next.found < ·) || 0 < next.pending)
  else
    return ({ next with earlier := ((n, s.offset, l) :: s.earlier).take p.before }, true)

/-- All lines of what was opened. The result tells how many were found. -/
def Plan.run (p : Plan) (name : Text) (d : Descriptor) : Act Nat := do
  let s ← if p.most = some 0 then pure .fresh else
    iterate (Intake.of d, Progress.fresh) fun (i, s) => do
      match ← i.upTo p.mark with
      | (none, _) => return .ok s
      | (some l, i) =>
        let (s, goesOn) ← p.step name s l
        if goesOn then return .error (i, s)
        else
          Intake.giveBack i
          return .ok s
  let nameEnd : Text := [p.nameMark.getD '\n']
  match p.shows with
  | .counts =>
    put ((if p.named then name ++ [p.nameMark.getD ':'] else []) ++ Numeral.write s.found ++ ['\n'])
  | .names holding => if (0 < s.found) == holding then put (name ++ nameEnd)
  | .lines | .matches =>
    if s.isBinary && 0 < s.found then
      put ("grep: ".toList ++ name ++ ": binary file matches\n".toList)
  | .nothing => pure ()
  return s.found

/-- All files below a directory. -/
def filesBelow : Nat → Disk → Filesystem.Place → Text → List Text
  | 0, _, _, _ => []
  | fuel + 1, d, place, path =>
    (d.namesIn place).flatMap fun n =>
      let there := place ++ [n]
      let path := if path.isEmpty then n else Filesystem.join path n
      match d.entry? there with
      | some ⟨.directory, _, _⟩ => filesBelow fuel d there path
      | some ⟨.file _, _, _⟩ => [path]
      | _ => []

/-- Whether a line holds a match of a pattern. -/
def holdsMatch (pattern line : Text) : Bool :=
  match Regex.read Regex.Dialect.basic pattern with
  | .ok m => (m.search line).isSome
  | .error _ => false

end Search

open Search

def grepOptions : List Known :=
  known [('E', "extended-regexp"), ('F', "fixed-strings"), ('F', "fixed-regexp"),
      ('G', "basic-regexp"), ('P', "perl-regexp"), ('i', "ignore-case"), ('y', ""),
      ('α', "no-ignore-case"), ('w', "word-regexp"), ('x', "line-regexp"), ('z', "null-data"),
      ('s', "no-messages"), ('v', "invert-match"), ('b', "byte-offset"), ('n', "line-number"),
      ('β', "line-buffered"), ('H', "with-filename"), ('h', "no-filename"),
      ('o', "only-matching"), ('q', "quiet"), ('q', "silent"), ('a', "text"), ('I', ""),
      ('r', "recursive"), ('R', "dereference-recursive"), ('L', "files-without-match"),
      ('l', "files-with-matches"), ('c', "count"), ('T', "initial-tab"), ('Z', "null"),
      ('U', "binary"), ('u', "unix-byte-offsets"), ('V', "version")]
    ([('e', "regexp"), ('f', "file"), ('m', "max-count"), ('γ', "label"),
      ('δ', "binary-files"), ('d', "directories"), ('D', "devices"), ('ε', "include"),
      ('ζ', "exclude"), ('η', "exclude-from"), ('θ', "exclude-dir"), ('B', "before-context"),
      ('A', "after-context"), ('C', "context")]) ++
  [⟨'κ', "color", .maybe⟩, ⟨'κ', "colour", .maybe⟩]

/-- A number behind a hyphen tells how many lines of context there are. -/
def withContext (args : List Text) : List Text :=
  args.map fun w => match w with
    | '-' :: c :: cs => if c.isDigit && cs.all Char.isDigit then '-' :: 'C' :: c :: cs else w
    | w => w

def grepUsage {α : Type} (called : Text) : Act α := do
  writeError ("Usage: ".toList ++ called ++ " [OPTION]... PATTERNS [FILE]...\n".toList)
  writeError (hint called)
  quit 2

/-- The patterns that options and words tell, and the words behind. -/
def patternsOf (called : Text) (os : List Given) (operands : List Text) :
    Act (List Text × List Text) := do
  if !(has os 'e' || has os 'f') then
    match operands with
    | t :: rest => return (Text.splitAt '\n' t, rest)
    | [] => grepUsage called
  else
    let parts ← os.mapM fun (c, t) => do
      if c = 'e' then return Text.splitAt '\n' t
      else if c = 'f' then
        withOperand (fun path e => die called (path ++ ": ".toList ++ e.message.toList) 2) t []
          fun d => do return piecesOf '\n' (← (Intake.of d).whole)
      else return []
    return (parts.flatten, operands)

def grep (kind : Option Char) (called : Text) (args : List Text) : Act Unit := do
  let (os, operands) ← match parse grepOptions true (withContext args) with
    | .ok r => pure r
    | .error why =>
      warn called why
      grepUsage called
  let kinds := (kind.toList ++ (os.map Prod.fst).filter "EFGP".toList.contains)
  let kind := kinds.getLastD 'G'
  if kinds.eraseDups.contains 'P' && 1 < kinds.eraseDups.length then
    die called "conflicting matchers specified".toList 2
  if kinds.contains 'E' && kinds.contains 'F' && has os 'E' && has os 'F' then
    die called "conflicting matchers specified".toList 2
  let most ← match valueOf? os 'm' with
    | none => pure none
    | some t =>
      let a := integerAhead false t
      if a.isMissing || !a.behind.isEmpty then die called "invalid max count".toList 2
      else if a.value < 0 then pure none
      else pure (some a.value.toNat)
  let context (c : Char) : Act (Option Nat) := do
    match valueOf? os c with
    | none => return none
    | some t =>
      match scaled? [] t with
      | some n =>
        if t.isEmpty then die called (t ++ ": invalid context length argument".toList) 2
        else return some n
      | none => die called (t ++ ": invalid context length argument".toList) 2
  let around ← context 'C'
  let before ← context 'B'
  let after ← context 'A'
  let (patterns, operands) ← patternsOf called os operands
  let unicode := isUnicode (← strand)
  let ignores := lastOf? os ['i', 'y', 'α']
  let ignoresCase := ignores = some 'i' || ignores = some 'y'
  let d : Regex.Dialect :=
    ⟨kind = 'E' || kind = 'P', ignoresCase, true, false, kind = 'P', true, kind = 'P'⟩
  let matchers ← patterns.mapM fun t => do
    let t := decoded unicode t
    if kind = 'F' then return Regex.ofText ignoresCase t
    else
      match Regex.read d t with
      | .ok m =>
        for c in m.idle do
          let sign := if c = '\x7b' then "\x7b...\x7d".toList else [c]
          warn called ("warning: ".toList ++ sign ++ " at start of expression".toList)
        return m
      | .error e => die called e.message.toList 2
  let most := if matchers.isEmpty && !has os 'v' then some 0 else most
  if most = some 0 && !has os 'L' then quit 1
  let recursive := has os 'r' || has os 'R'
  let shows : Shows :=
    if has os 'q' then .nothing
    else match lastOf? os ['l', 'L'] with
      | some c => .names (c = 'l')
      | none => if has os 'c' then .counts else if has os 'o' then .matches else .lines
  let colored := match valueOf? os 'κ' with
    | some t => t = "always".toList || t = "yes".toList || t = "force".toList
    | none => false
  let named := match lastOf? os ['H', 'h'] with
    | some c => c = 'H'
    | none => 1 < operands.length || recursive
  let before := (before.orElse fun _ => around).getD 0
  let after := (after.orElse fun _ => around).getD 0
  let p : Search.Plan :=
    { query := ⟨matchers, has os 'w', has os 'x'⟩, unicode := unicode, inverts := has os 'v'
      shows := shows, most := most, named := named, numbered := has os 'n', placed := has os 'b'
      colored := colored, lineBuffered := has os 'β'
      anyText := has os 'a' || has os 'z' || valueOf? os 'δ' = some "text".toList
      before := before, after := after, hasContext := ['A', 'B', 'C'].any (has os)
      mark := if has os 'z' then '\x00' else '\n'
      nameMark := if has os 'Z' then some '\x00' else none
      label := (valueOf? os 'γ').getD "(standard input)".toList }
  let complain (path : Text) (e : Filesystem.Fault) : Act Unit := do
    changeStrand fun s => { s with status := 2 }
    if !has os 's' then
      warn called ((if path = ['-'] then p.label else path) ++ ": ".toList ++ e.message.toList)
  let operands := if operands.isEmpty then [if recursive then ['.'] else ['-']] else operands
  let disk := (← world).disk
  let bare := recursive && operands = [['.']]
  let paths ← if !recursive then pure operands else do
    let all ← operands.mapM fun path => do
      match ← locate path with
      | .ok (place, ⟨.directory, _, _⟩) =>
        return filesBelow 64 disk place (if bare then [] else path)
      | _ => return [path]
    pure all.flatten
  let fitsName (path : Text) : Bool :=
    let globs (c : Char) : List Text := (os.filter fun o => o.1 = c).map Prod.snd
    let fits (g : Text) : Bool :=
      matchesText (g.map fun c => (c, false)) (Filesystem.lastName path)
    ((globs 'ε').isEmpty || (globs 'ε').any fits) && !(globs 'ζ').any fits
  let paths := paths.filter fun path => path = ['-'] || fitsName path
  let found ← paths.foldlM (fun found path => do
    if shows = .nothing && 0 < found then return found
    else
      withOperand complain path found fun d => do
        return found + (← p.run (if path = ['-'] then p.label else path) d)) 0
  if shows = .nothing && 0 < found then setStatus 0
  else if (← strand).status = 0 then setStatus (if 0 < found then 0 else 1)

end RemoteInterpreter.Shell.Tool
