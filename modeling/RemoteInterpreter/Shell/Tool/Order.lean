import RemoteInterpreter.Shell.Real
import RemoteInterpreter.Shell.Tool.Intake

/-!
# Order

Sorting lines by keys: parts of them that are compared as texts, numbers, months or
versions. Lines with equal keys are compared whole in the end, unless the sort is stable.
-/

namespace RemoteInterpreter.Shell.Tool

namespace Sorting

/-- What keys are compared as. -/
inductive Kind where
  | text
  | numeric
  | general
  | human
  | month
  | version
  deriving DecidableEq

structure Manner where
  kind : Kind
  /-- Blanks before the beginning and before the end of a key do not count. -/
  skipsBlanks : Bool
  skipsEndBlanks : Bool
  onlyWords : Bool
  onlyPrintable : Bool
  foldsCase : Bool
  reverse : Bool

def Manner.plain : Manner := ⟨.text, false, false, false, false, false, false⟩

/-- Where a key begins and ends. -/
structure Key where
  firstField : Nat
  firstChar : Nat
  /-- Without an end a key goes to the end of the line. -/
  lastField : Option Nat
  lastChar : Nat
  manner : Manner
  /-- The key has a manner of its own. -/
  isOwn : Bool

def isSpace (c : Char) : Bool := c = ' ' || c = '\t' || c = '\n'

/-- Goes on behind so many fields. -/
def skipFields (mark : Option Char) (keepsMark : Bool) : Nat → Nat → Text → Nat → Nat
  | 0, _, _, position => position
  | n + 1, extra, t, position =>
    match mark with
    | some c =>
      let field := t.takeWhile (· ≠ c)
      let rest := t.drop field.length
      let stepsOver := !rest.isEmpty && (!keepsMark || 0 < n || 0 < extra)
      let width := field.length + if stepsOver then 1 else 0
      skipFields mark keepsMark n extra (t.drop width) (position + width)
    | none =>
      let blanks := (t.takeWhile isSpace).length
      let field := ((t.drop blanks).takeWhile fun c => !isSpace c).length
      let width := blanks + field
      skipFields mark keepsMark n extra (t.drop width) (position + width)

/-- The part of a line that is a key. -/
def Key.of (mark : Option Char) (k : Key) (l : Text) : Text :=
  let blanksAt (n : Nat) : Nat := ((l.drop n).takeWhile isSpace).length
  let first := skipFields mark false (k.firstField - 1) 0 l 0
  let first := if k.manner.skipsBlanks then first + blanksAt first else first
  let first := min l.length (first + (k.firstChar - 1))
  let last := match k.lastField with
    | none => l.length
    | some n =>
      let whole := k.lastChar = 0
      let last := skipFields mark true (if whole then n else n - 1) k.lastChar l 0
      if whole then last
      else
        let last := if k.manner.skipsEndBlanks then last + blanksAt last else last
        min l.length (last + k.lastChar)
  (l.take last).drop first

/-- A number as it is compared: its sign, its digits before the point without zeros in front, and
those behind it without zeros at the end. -/
def numberOf (t : Text) : Bool × Text × Text :=
  let t := t.dropWhile isSpace
  let (negative, t) : Bool × Text := match t with
    | '-' :: t => (true, t)
    | t => (false, t)
  let whole := t.takeWhile Char.isDigit
  let fraction : Text := match t.drop whole.length with
    | '.' :: t => t.takeWhile Char.isDigit
    | _ => []
  let whole := whole.dropWhile (· = '0')
  let fraction := (fraction.reverse.dropWhile (· = '0')).reverse
  (negative && !(whole.isEmpty && fraction.isEmpty), whole, fraction)

def compareMagnitudes (a b : Text × Text) : Ordering :=
  (compare a.1.length b.1.length).then ((compare a.1 b.1).then (compare a.2 b.2))

def compareNumbers (a b : Text) : Ordering :=
  let (m, x) := numberOf a
  let (n, y) := numberOf b
  match m, n with
  | false, false => compareMagnitudes x y
  | true, true => compareMagnitudes y x
  | true, false => .lt
  | false, true => .gt

/-- How great the unit behind a number is. -/
def unitOf (t : Text) : Nat :=
  let t := (t.dropWhile isSpace)
  let t := if t.head? = some '-' then t.tail else t
  let rest := t.dropWhile Char.isDigit
  let rest := match rest with
    | '.' :: r => r.dropWhile Char.isDigit
    | r => r
  match rest with
  | c :: _ =>
    if c = 'k' then 1 else match "KMGTPEZYRQ".toList.idxOf? c with
      | some i => i + 1
      | none => 0
  | [] => 0

def compareHuman (a b : Text) : Ordering :=
  let signed (t : Text) : Int :=
    let (negative, whole, fraction) := numberOf t
    let unit : Int := if whole.isEmpty && fraction.isEmpty then 0 else unitOf t
    if negative then -unit else unit
  let isNegative (t : Text) : Bool := (numberOf t).1
  if isNegative a != isNegative b then compareNumbers a b
  else (compare (signed a) (signed b)).then (compareNumbers a b)

/-- What is no number comes first, then what has no value, then numbers in their order. -/
def generalOf (t : Text) : Nat × Binary64 :=
  match realAhead? t with
  | none => (0, .zero false)
  | some a => (if a.value.isNaN then 1 else 2, a.value)

def compareReals (x y : Binary64) : Ordering :=
  let key (x : Binary64) : Int :=
    let n : Int := x.bits.toNat % 2 ^ 63
    if x.isNegative then -n else n
  compare (key x) (key y)

def compareGeneral (a b : Text) : Ordering :=
  let (m, x) := generalOf a
  let (n, y) := generalOf b
  (compare m n).then (if m = 2 then compareReals x y else .eq)

def monthOf (t : Text) : Nat :=
  let name := ((t.dropWhile isSpace).take 3).map Char.toUpper
  let months := ["JAN", "FEB", "MAR", "APR", "MAY", "JUN", "JUL", "AUG", "SEP", "OCT", "NOV", "DEC"]
  match months.idxOf? (Text.str name) with
  | some i => i + 1
  | none => 0

/-- The order of a character in the parts of versions that are no numbers. -/
def versionRank (c : Option Char) : Int :=
  match c with
  | none => -1
  | some '~' => -2
  | some c => if c.isDigit then 0 else if c.isAlpha then c.toNat else c.toNat + 256

/-- Versions are compared part by part: runs of digits as numbers, all else by its signs. -/
def compareParts : Nat → Text → Text → Ordering
  | 0, a, b => compare a b
  | fuel + 1, a, b =>
    match a, b with
    | [], [] => .eq
    | a, b =>
      let isLetter (t : Text) : Bool := t.head?.any fun c => !c.isDigit
      if isLetter a || isLetter b then
        let rank (t : Text) : Int := match t with
          | [] => -1
          | c :: _ => versionRank (some c)
        match compare (rank a) (rank b) with
        | .eq => compareParts fuel a.tail b.tail
        | o => o
      else
        let digits (t : Text) : Text := (t.takeWhile Char.isDigit).dropWhile (· = '0')
        let rest (t : Text) : Text := t.dropWhile Char.isDigit
        match compareMagnitudes (digits a, []) (digits b, []) with
        | .eq => compareParts fuel (rest a) (rest b)
        | o => o

/-- The ending of a file name does not count at first. -/
def withoutEndings (t : Text) : Text :=
  go (t.length + 1) t
where
  go : Nat → Text → Text
  | 0, t => t
  | fuel + 1, t =>
    let ending := t.reverse.takeWhile fun c => c.isAlphanum || c = '~'
    match ending.reverse, (t.reverse.drop ending.length) with
    | c :: _, '.' :: front =>
      if (c.isAlpha || c = '~') && !front.isEmpty then go fuel front.reverse else t
    | _, _ => t

def compareVersions (a b : Text) : Ordering :=
  if a = b then .eq
  else
    let rank (t : Text) : Nat :=
      if t.isEmpty then 0 else if t = ['.'] then 1 else if t = ['.', '.'] then 2
      else if t.head? = some '.' then 3 else 4
    let fuel := a.length + b.length + 2
    (compare (rank a) (rank b)).then
      ((compareParts fuel (withoutEndings a) (withoutEndings b)).then (compareParts fuel a b))

def Manner.compare (m : Manner) (a b : Text) : Ordering :=
  let result := match m.kind with
    | .numeric => compareNumbers a b
    | .general => compareGeneral a b
    | .human => compareHuman a b
    | .month => Ord.compare (monthOf a) (monthOf b)
    | .version => compareVersions a b
    | .text =>
      let counted (t : Text) : Text :=
        let t := if m.onlyWords then t.filter fun c => c.isAlphanum || isSpace c else t
        let t := if m.onlyPrintable then t.filter fun c => ' ' ≤ c && c ≤ '~' else t
        if m.foldsCase then t.map Char.toUpper else t
      Ord.compare (counted a) (counted b)
  if m.reverse then result.swap else result

/-- How all lines are sorted. -/
structure Plan where
  keys : List Key
  mark : Option Char
  manner : Manner
  isStable : Bool
  isUnique : Bool

/-- Compares two lines by their keys, which were found before. -/
def Plan.compareKeys (p : Plan) (a b : List Text) : Ordering :=
  (p.keys.zip (a.zip b)).foldl (fun o (k, x, y) => o.then (k.manner.compare x y)) .eq

def Plan.keysOf (p : Plan) (l : Text) : List Text := p.keys.map fun k => k.of p.mark l

/-- Lines that are equal by their keys are compared as a whole. -/
def Plan.compare (p : Plan) (a b : Text × List Text) : Ordering :=
  let byKeys := p.compareKeys a.2 b.2
  if byKeys ≠ .eq || p.isStable || p.isUnique then byKeys
  else
    let whole := Ord.compare a.1 b.1
    if p.manner.reverse then whole.swap else whole

/-- Of lines with equal keys the first one stays. -/
def Plan.unrepeated (p : Plan) : List (Text × List Text) → List (Text × List Text)
  | [] => []
  | l :: ls =>
    ((ls.foldl (fun (kept : List (Text × List Text)) m =>
      match kept with
      | [] => [m]
      | k :: _ => if p.compareKeys k.2 m.2 = .eq then kept else m :: kept) [l])).reverse

def Plan.sort (p : Plan) (lines : List Text) : List Text :=
  let keyed := lines.map fun l => (l, p.keysOf l)
  let sorted := keyed.mergeSort fun a b => p.compare a b ≠ .gt
  (if p.isUnique then p.unrepeated sorted else sorted).map Prod.fst

/-! Reading -/

def kindOf? (c : Char) : Option Kind :=
  match c with
  | 'n' => some .numeric
  | 'g' => some .general
  | 'h' => some .human
  | 'M' => some .month
  | 'V' => some .version
  | _ => none

/-- A letter changes the manner, at the beginning or at the end of a key, or of both. -/
def Manner.with? (atFirst atLast : Bool) (m : Manner) (c : Char) : Option Manner :=
  match c with
  | 'b' => some
      { m with
        skipsBlanks := m.skipsBlanks || atFirst
        skipsEndBlanks := m.skipsEndBlanks || atLast }
  | 'd' => some { m with onlyWords := true }
  | 'f' => some { m with foldsCase := true }
  | 'i' => some { m with onlyPrintable := true }
  | 'r' => some { m with reverse := true }
  | c => (kindOf? c).map fun kind => { m with kind := kind }

/-- Letters up to something else. -/
def letters (atFirst atLast : Bool) : Manner → Text → Manner × Text
  | m, [] => (m, [])
  | m, c :: t =>
    match m.with? atFirst atLast c with
    | some m => letters atFirst atLast m t
    | none => (m, c :: t)

def badField (unicode : Bool) (why : String) (spec : Text) : Text :=
  why.toList ++ ": invalid field specification ".toList ++ quote unicode spec

/-- A number at the beginning of a part of a key. -/
def countAhead (unicode : Bool) (why : String) (t : Text) : Except Text (Nat × Text) :=
  let digits := t.takeWhile Char.isDigit
  if digits.isEmpty then
    throw (why.toList ++ ": invalid count at start of ".toList ++ quote unicode t)
  else return (Numeral.value digits, t.drop digits.length)

/-- A key as it is written, or what is wrong with it. -/
def Key.read (unicode : Bool) (spec : Text) : Except Text Key := do
  let (field, t) ← countAhead unicode "invalid number at field start" spec
  if field = 0 then throw (badField unicode "field number is zero" spec)
  let (char, t) ← match t with
    | '.' :: t => countAhead unicode "invalid number after '.'" t
    | t => pure (1, t)
  if char = 0 then throw (badField unicode "character offset is zero" spec)
  let (m, t) := letters true false .plain t
  let (lastField, lastChar, m, t) ← match t with
    | ',' :: t =>
      let (n, t) ← countAhead unicode "invalid number after ','" t
      if n = 0 then throw (badField unicode "field number is zero" spec)
      let (c, t) ← match t with
        | '.' :: t => countAhead unicode "invalid number after '.'" t
        | t => pure (0, t)
      let (m, t) := letters false true m t
      pure (some n, c, m, t)
    | t => pure (none, 0, m, t)
  if !t.isEmpty then throw (badField unicode "stray character in field spec" spec)
  let isOwn := m.kind ≠ .text || m.skipsBlanks || m.skipsEndBlanks || m.onlyWords ||
    m.onlyPrintable || m.foldsCase || m.reverse
  return ⟨field, char, lastField, lastChar, m, isOwn⟩

end Sorting

open Sorting

def sortOptions : List Known :=
  known [('b', "ignore-leading-blanks"), ('d', "dictionary-order"), ('f', "ignore-case"),
      ('g', "general-numeric-sort"), ('h', "human-numeric-sort"), ('i', "ignore-nonprinting"),
      ('M', "month-sort"), ('n', "numeric-sort"), ('R', "random-sort"), ('r', "reverse"),
      ('V', "version-sort"), ('C', ""), ('m', "merge"), ('s', "stable"), ('u', "unique"),
      ('z', "zero-terminated"), ('α', "debug")]
    [('k', "key"), ('o', "output"), ('S', "buffer-size"), ('t', "field-separator"),
      ('T', "temporary-directory"), ('β', "batch-size"), ('γ', "compress-program"),
      ('δ', "files0-from"), ('ε', "parallel"), ('ζ', "random-source"), ('η', "sort")] ++
  [⟨'c', "check", .maybe⟩]

/-- Words for kinds of order. -/
def sortWords : List (String × Char) :=
  [("general-numeric", 'g'), ("human-numeric", 'h'), ("month", 'M'), ("numeric", 'n'),
   ("random", 'R'), ("version", 'V')]

/-- Letters that cannot stand together: those for kinds that are not texts, and those for what
counts of texts. -/
def clashing (cs : List Char) : Option Text :=
  let kinds := "ghMn".toList.filter cs.contains
  let kinds := if cs.contains 'V' || cs.contains 'R' then kinds ++ ['V'] else kinds
  let words := if cs.contains 'd' then ['d'] else if cs.contains 'i' then ['i'] else []
  let isBad := 1 < kinds.length || (!kinds.isEmpty && !words.isEmpty)
  if isBad then some ("dfghiMnRV".toList.filter fun c => (kinds ++ words).contains c) else none

def sort (called : Text) (args : List Text) : Act Unit := do
  let (os, operands) ← optionsOr 2 called sortOptions true args
  let unicode := isUnicode (← strand)
  let os ← os.mapM fun (c, t) => do
    if c = 'η' then
      let meant := sortWords.filter fun w => t.isPrefixOf w.1.toList
      match meant with
      | [(_, letter)] => return (letter, [])
      | _ =>
        misuse called ("invalid argument ".toList ++ (← quoted t) ++
          " for '--sort'\nValid arguments are:".toList ++
          sortWords.flatMap fun w => "\n  - '".toList ++ w.1.toList ++ ['\'']) 2
    else if c = 'c' && (t = "quiet".toList || t = "silent".toList) then return ('C', [])
    else return (c, t)
  let given := os.map Prod.fst
  match valueOf? os 'S' with
  | some t =>
    if (scaled? (("%", 1) :: ("b", 1) :: sizeSuffixes) t).isNone || t.isEmpty then
      die called ("invalid -S argument ".toList ++ (← quoted t)) 2
  | none => pure ()
  let mark ← match valueOf? os 't' with
    | none => pure none
    | some [] => die called "empty tab".toList 2
    | some [c] => pure (some c)
    | some ['\\', '0'] => pure (some '\x00')
    | some t => die called ("multi-character tab ".toList ++ (← quoted t)) 2
  let keys ← (os.filter fun o => o.1 = 'k').mapM fun (_, spec) => do
    match Key.read unicode spec with
    | .ok k => return k
    | .error why => die called why 2
  let manner := given.foldl (fun m c => (m.with? true true c).getD m) Manner.plain
  match clashing given with
  | some letters => die called ("options '-".toList ++ letters ++ "' are incompatible".toList) 2
  | none => pure ()
  if has os 'c' && has os 'C' then die called "options '-cC' are incompatible".toList 2
  let checks := has os 'c' || has os 'C'
  match operands with
  | _ :: t :: _ =>
    if checks then
      die called ("extra operand ".toList ++ (← quoted t) ++ " not allowed with -".toList ++
        [if has os 'c' then 'c' else 'C']) 2
  | _ => pure ()
  let keys := keys.map fun k => if k.isOwn then k else { k with manner := manner }
  let keys := if keys.isEmpty then [⟨1, 1, none, 0, manner, false⟩] else keys
  let p : Plan := ⟨keys, mark, manner, has os 's', has os 'u'⟩
  let lineEnd := if has os 'z' then '\x00' else '\n'
  let cannot {α : Type} (path : Text) (e : Filesystem.Fault) : Act α := do
    let isRead := e = .isADirectory || e = .closed
    let what := if isRead then "read failed: " else "cannot read: "
    die called (what.toList ++ (← quotedName path) ++ ": ".toList ++ e.message.toList) 2
  let parts ← (orInput operands).mapM fun path =>
    withOperand (fun path e => cannot path e) path [] fun d => do
      return piecesOf lineEnd (← (Intake.of d).whole)
  let lines := parts.flatten
  if checks then
    let keyed := lines.map fun l => (l, p.keysOf l)
    let wrong := ((keyed.zip keyed.tail).zipIdx).find? fun ((a, b), _) =>
      let o := p.compare a b
      o = .gt || (p.isUnique && o = .eq)
    match wrong with
    | none => pure ()
    | some ((_, b), i) =>
      if has os 'c' then
        let name := (operands.headD ['-'])
        writeError (called ++ ": ".toList ++ name ++ ':' :: Numeral.write (i + 2) ++
          ": disorder: ".toList ++ b.1 ++ ['\n'])
      quit 1
  else
    match valueOf? os 'o' with
    | none => pure ()
    | some path =>
      match ← openForWriting ⟨false, true, false, false⟩ path with
      | .ok d => changeStrand fun s => s.setDescriptor 1 (some d)
      | .error e =>
        let why := match e with
          | .path e => e.message
          | .exists => "File exists"
        die called ("open failed: ".toList ++ (← quotedName path) ++ ": ".toList ++ why.toList) 2
    for l in p.sort lines do
      put (l ++ [lineEnd])

/-! Order from pairs -/

/-- Names in an order in which none comes before one that has to come before it, and names of a
loop if there is one. -/
structure Sequencing where
  names : List Text
  /-- The first of each pair comes before the second. -/
  pairs : List (Text × Text)

/-- Takes the names before which no others have to come, in their order. The names that become
free are behind those that are free already. -/
def Sequencing.take : Nat → Sequencing → List Text → List Text → List Text × Sequencing
  | 0, s, _, done => (done.reverse, s)
  | _ + 1, s, [], done => (done.reverse, s)
  | fuel + 1, s, n :: free, done =>
    let (own, others) := s.pairs.partition fun p => p.1 = n
    let targets := own.map Prod.snd
    let freed := targets.reverse.foldl (fun freed t =>
      if others.any (fun p => p.2 = t) || freed.contains t then freed else freed ++ [t])
      ([] : List Text)
    take fuel ⟨s.names.filter (· ≠ n), others⟩ (free ++ freed) (n :: done)

/-- A loop among the names that are left. -/
def Sequencing.loop (s : Sequencing) : List Text :=
  match s.pairs with
  | [] => []
  | (_, start) :: _ => go s.pairs.length [] start
where
  go : Nat → List Text → Text → List Text
  | 0, path, _ => path
  | fuel + 1, path, n =>
    if path.contains n then ((path.takeWhile (· ≠ n)) ++ [n])
    else
      match s.pairs.find? fun p => p.2 = n with
      | some (m, _) => go fuel (n :: path) m
      | none => path

def tsort (called : Text) (args : List Text) : Act Unit := do
  let (_, operands) ← optionsOr 1 called [] true args
  match operands with
  | _ :: t :: _ => misuse called ("extra operand ".toList ++ (← quoted t)) 1
  | _ => pure ()
  let path := operands.headD ['-']
  let t ← withOperand (fun path e => do
    die called ((← quotedName path) ++ ": ".toList ++ e.message.toList) 1) path []
    fun d => (Intake.of d).whole
  let words := (Text.splitAt ' ' (t.map fun c => if isSpace c then ' ' else c)).filter
    fun w => !w.isEmpty
  if words.length % 2 = 1 then
    die called ((← quotedName path) ++ ": input contains an odd number of tokens".toList) 1
  let rec paired : List Text → List (Text × Text)
    | a :: b :: rest => (a, b) :: paired rest
    | _ => []
  let pairs := (paired words).filter fun p => p.1 ≠ p.2
  let names := Text.inOrder words.eraseDups
  iterate (Sequencing.mk names pairs) fun s => do
    let free := s.names.filter fun n => !s.pairs.any fun p => p.2 = n
    let (done, s) := s.take (s.names.length + 1) free []
    for n in done do
      putLine n
    if s.names.isEmpty then return .ok ()
    else
      let loop := s.loop
      warn called ((← quotedName path) ++ ": input contains a loop:".toList)
      for n in loop.reverse do
        warn called n
      setStatus 1
      match loop with
      | [] => return .ok ()
      | n :: _ =>
        let last := loop.getLastD n
        return .error { s with pairs := s.pairs.filter fun p => !(p.1 = n && p.2 = last) }

end RemoteInterpreter.Shell.Tool
