import RemoteInterpreter.Shell.Tool.Intake

/-!
# Counting

Tools that count characters, words and lines, number lines, and tell lines from their
neighbours.
-/

namespace RemoteInterpreter.Shell.Tool

/-! Counts -/

structure Counts where
  lines : Nat
  words : Nat
  chars : Nat
  octets : Nat
  widest : Nat

def Counts.zero : Counts := ⟨0, 0, 0, 0, 0⟩

def Counts.add (a b : Counts) : Counts :=
  ⟨a.lines + b.lines, a.words + b.words, a.chars + b.chars, a.octets + b.octets,
    max a.widest b.widest⟩

/-- Counts under way: the column, and whether a word has begun. -/
structure Counting where
  counts : Counts
  column : Nat
  inWord : Bool

def Counting.step (s : Counting) (c : Text) : Counting :=
  let n := { s.counts with chars := s.counts.chars + 1, octets := s.counts.octets + c.length }
  match c with
  | ['\n'] => ⟨{ n with lines := n.lines + 1, widest := max n.widest s.column }, 0, false⟩
  | ['\r'] | ['\x0c'] => ⟨{ n with widest := max n.widest s.column }, 0, false⟩
  | ['\t'] => ⟨n, s.column + (8 - s.column % 8), false⟩
  | [' '] => ⟨n, s.column + 1, false⟩
  | ['\x0b'] => ⟨n, s.column, false⟩
  | c =>
    let n := if s.inWord then n else { n with words := n.words + 1 }
    ⟨n, if isShowable c then s.column + 1 else s.column, true⟩

/-- What is no character does not count as one. -/
def countsOf (unicode : Bool) (t : Text) : Counts :=
  let s := (characters unicode t).foldl Counting.step ⟨.zero, 0, false⟩
  let wrong := if unicode then
    (characters true t).countP fun c => c.length = 1 && c.any ('\u0080' ≤ ·) else 0
  { s.counts with widest := max s.counts.widest s.column, chars := s.counts.chars - wrong }

/-- How many octets are behind a descriptor, if that can be told. -/
def sizeOf? (d : Descriptor) : Act (Option Nat) := do
  match d with
  | .file n =>
    let w ← world
    return (w.opened[n]?).map fun o => (w.disk.content o.file).length
  | _ => return none

def wc (called : Text) (args : List Text) : Act Unit := do
  let all := known [('c', "bytes"), ('m', "chars"), ('l', "lines"), ('w', "words"),
    ('L', "max-line-length")] [('α', "files0-from"), ('β', "total")]
  let (os, operands) ← optionsOr 1 called all true args
  let chosen := os.filter fun o => "cmlwL".toList.contains o.1
  let wants (c : Char) : Bool := if chosen.isEmpty then "lwc".toList.contains c else has os c
  let totals := (valueOf? os 'β').getD "auto".toList
  if !(["auto", "always", "only", "never"].contains totals.str) then
    misuse called ("invalid argument ".toList ++ (← quoted totals) ++ " for '--total'\n".toList ++
      "Valid arguments are:\n  - 'auto'\n  - 'always'\n  - 'only'\n  - 'never'".toList) 1
  let shown := "lwmcL".toList.filter wants
  let paths := orInput operands
  let sizes ← paths.mapM fun path => do
    match ← openOperand path with
    | .ok d => sizeOf? d
    | .error _ => return some 0
  let width :=
    if totals = "only".toList || (paths.length = 1 && shown.length = 1) then 1
    else
      let regular := (sizes.filterMap id).sum
      max (Numeral.write regular).length (if sizes.any Option.isNone then 7 else 1)
  let line (n : Counts) (name : Option Text) : Text :=
    let counts := shown.map fun c => match c with
      | 'l' => n.lines
      | 'w' => n.words
      | 'm' => n.chars
      | 'c' => n.octets
      | _ => n.widest
    ((counts.map fun n => padLeft width (Numeral.write n)).intersperse [' ']).flatten ++
      (match name with
        | some t => ' ' :: t
        | none => []) ++ ['\n']
  let unicode := isUnicode (← strand)
  let isOnly := totals = "only".toList
  let total ← paths.foldlM (fun total path =>
    withOperand (fun path e => do
        complainOf called path e
        if e = .isADirectory && !isOnly then put (line .zero (some path))) path total fun d => do
      let n := countsOf unicode (← (Intake.of d).whole)
      if !isOnly then put (line n (if operands.isEmpty then none else some path))
      return total.add n) Counts.zero
  match totals.str with
  | "only" => put (line total none)
  | "always" => put (line total (some "total".toList))
  | "auto" => if 1 < paths.length then put (line total (some "total".toList))
  | _ => pure ()

/-! Numbers before lines -/

structure Numbering where
  /-- Which lines of the three parts of a page are numbered. -/
  styles : List Text
  start : Int
  increment : Int
  separator : Text
  width : Nat
  format : Text
  blankJoin : Nat
  restarts : Bool
  delimiter : Text

structure NumberingState where
  part : Nat
  number : Int
  blanks : Nat

def Numbering.number (w : Numbering) (n : Int) : Text :=
  let t := Numeral.write n.natAbs
  let sign : Text := if n < 0 then ['-'] else []
  match w.format.str with
  | "ln" => padRight w.width (sign ++ t)
  | "rz" => sign ++ List.replicate (w.width - t.length - sign.length) '0' ++ t
  | _ => padLeft w.width (sign ++ t)

def Numbering.line (w : Numbering) (fits : Text → Text → Bool) (s : NumberingState) (l : Text) :
    Text × NumberingState :=
  let part? := [3, 2, 1].find? fun n => l = (List.replicate n w.delimiter).flatten
  match part? with
  | some n =>
    if w.delimiter.isEmpty then (['\n'], s)
    else
      (['\n'], { s with
        part := 3 - n, number := if w.restarts && n = 3 then w.start else s.number })
  | none =>
    let style := w.styles.getD s.part ['n']
    let numbered : Bool × Nat := match style with
      | ['a'] =>
        if l.isEmpty && 1 < w.blankJoin then
          if s.blanks + 1 = w.blankJoin then (true, 0) else (false, s.blanks + 1)
        else (true, 0)
      | ['t'] => (!l.isEmpty, 0)
      | 'p' :: pattern => (fits pattern l, 0)
      | _ => (false, 0)
    if numbered.1 then
      (w.number s.number ++ w.separator ++ l ++ ['\n'],
        ⟨s.part, s.number + w.increment, numbered.2⟩)
    else
      (List.replicate (w.width + w.separator.length) ' ' ++ l ++ ['\n'],
        ⟨s.part, s.number, numbered.2⟩)

/-- Numbers lines. A style may tell by a pattern which lines are meant. -/
def nl (fits : Text → Text → Bool) (called : Text) (args : List Text) : Act Unit := do
  let all := known [('p', "no-renumber")]
    [('b', "body-numbering"), ('d', "section-delimiter"), ('f', "footer-numbering"),
      ('h', "header-numbering"), ('i', "line-increment"), ('l', "join-blank-lines"),
      ('n', "number-format"), ('s', "number-separator"), ('v', "starting-line-number"),
      ('w', "number-width")]
  let (os, operands) ← optionsOr 1 called all true args
  let style (c : Char) (what : String) (other : Text) : Act Text := do
    let t := (valueOf? os c).getD other
    match t with
    | ['a'] | ['t'] | ['n'] | 'p' :: _ => return t
    | t => misuse called ("invalid ".toList ++ what.toList ++ " numbering style: ".toList ++
        (← quoted t)) 1
  let number (c : Char) (what : String) (other : Int) (fits : Int → Bool) : Act Int := do
    match valueOf? os c with
    | none => return other
    | some t =>
      let a := integerAhead false t
      if a.isMissing || !a.behind.isEmpty || !fits a.value then
        die called ("invalid ".toList ++ what.toList ++ ": ".toList ++ (← quoted t)) 1
      else return a.value
  let header ← style 'h' "header" ['n']
  let body ← style 'b' "body" ['t']
  let footer ← style 'f' "footer" ['n']
  let start ← number 'v' "starting line number" 1 fun _ => true
  let increment ← number 'i' "line number increment" 1 fun _ => true
  let join ← number 'l' "line number of blank lines" 1 fun n => 0 < n
  let width ← number 'w' "line number field width" 6 fun n => 0 < n
  let format := (valueOf? os 'n').getD "rn".toList
  if !(["ln", "rn", "rz"].contains format.str) then
    misuse called ("invalid line numbering format: ".toList ++ (← quoted format)) 1
  let delimiter := match valueOf? os 'd' with
    | none => "\\:".toList
    | some [c] => [c, ':']
    | some t => t
  let w : Numbering :=
    { styles := [header, body, footer], start := start, increment := increment
      separator := (valueOf? os 's').getD ['\t'], width := width.toNat, format := format
      blankJoin := join.toNat, restarts := !has os 'p', delimiter := delimiter }
  let _ ← overAllLines called '\n' operands (fun s l => do
    let (t, s) := w.line fits s (withoutMark '\n' l).1
    put t
    return s) ⟨1, start, 0⟩

/-! Neighbours -/

structure Comparing where
  skippedFields : Nat
  skippedChars : Nat
  compared : Option Nat
  ignoresCase : Bool

/-- What is compared of a line. -/
def Comparing.key (k : Comparing) (l : Text) : Text :=
  let skipField (t : Text) : Text :=
    let isSpace (c : Char) : Bool := c = ' ' || c = '\t'
    (t.dropWhile isSpace).dropWhile fun c => !isSpace c
  let t := (List.range (min k.skippedFields l.length)).foldl (fun t _ => skipField t) l
  let t := t.drop k.skippedChars
  let t := match k.compared with
    | some n => t.take n
    | none => t
  if k.ignoresCase then t.map Char.toUpper else t

/-- How groups of equal lines are told apart. -/
inductive Grouping where
  | none
  | before
  | between
  | behind
  | around
  deriving DecidableEq

structure Uniqueness where
  comparing : Comparing
  counts : Bool
  /-- Lines that are repeated, and lines that are not. -/
  repeated : Bool
  single : Bool
  /-- All lines of a group are shown. -/
  all : Bool
  grouping : Grouping
  mark : Char

/-- A group of equal lines; the first group has nothing before it. -/
def Uniqueness.group (u : Uniqueness) (isFirst : Bool) (lines : List Text) : Text × Bool :=
  let n := lines.length
  let shows := if 1 < n then u.repeated else u.single
  if !shows then ([], isFirst)
  else
    let shown := if u.all then lines else lines.take 1
    let front : Text := if u.counts then padLeft 7 (Numeral.write n) ++ [' '] else []
    let gap : Bool := match u.grouping with
      | .before | .around => true
      | .between | .behind => !isFirst
      | .none => false
    ((if gap then [u.mark] else []) ++ shown.flatMap (fun l => front ++ l ++ [u.mark]), false)

def uniqOptions : List Known :=
  known [('c', "count"), ('d', "repeated"), ('D', ""), ('u', "unique"), ('i', "ignore-case"),
      ('z', "zero-terminated")]
    [('f', "skip-fields"), ('s', "skip-chars"), ('w', "check-chars")] ++
  [⟨'α', "all-repeated", .maybe⟩, ⟨'β', "group", .maybe⟩]

/-- Words that are numbers behind a sign tell how many fields or characters are skipped. -/
def withSkips : List Text → List Text
  | ('-' :: cs) :: rest =>
    if Numeral.isNumeral cs then ['-', 'f'] :: cs :: withSkips rest
    else ('-' :: cs) :: withSkips rest
  | ('+' :: cs) :: rest =>
    if Numeral.isNumeral cs then ['-', 's'] :: cs :: withSkips rest
    else ('+' :: cs) :: withSkips rest
  | words => words

def uniq (called : Text) (args : List Text) : Act Unit := do
  let (os, operands) ← optionsOr 1 called uniqOptions true (withSkips args)
  let number (c : Char) (what : String) : Act (Option Nat) := do
    match valueOf? os c with
    | none => return none
    | some t =>
      match scaled? [] t with
      | some n => if t.isEmpty then bad t what else return some n
      | none => bad t what
  let fields ← number 'f' "fields to skip"
  let chars ← number 's' "bytes to skip"
  let compared ← number 'w' "bytes to compare"
  let method ← match valueOf? os 'α', valueOf? os 'β' with
    | some t, _ =>
      match t.str with
      | "" | "none" => pure Grouping.none
      | "prepend" => pure .before
      | "separate" => pure .between
      | _ => wrong t "--all-repeated" ["none", "prepend", "separate"]
    | none, some t =>
      match t.str with
      | "" | "separate" => pure .between
      | "prepend" => pure .before
      | "append" => pure .behind
      | "both" => pure .around
      | _ => wrong t "--group" ["prepend", "append", "separate", "both"]
    | none, none => pure .none
  if has os 'β' && ['c', 'd', 'D', 'u', 'α'].any (has os) then
    misuse called "--group is mutually exclusive with -c/-d/-D/-u".toList 1
  let showsAll := has os 'D' || has os 'α'
  if has os 'c' && showsAll then
    misuse called "printing all duplicated lines and repeat counts is meaningless".toList 1
  match operands with
  | _ :: _ :: t :: _ => misuse called ("extra operand ".toList ++ (← quoted t)) 1
  | _ => pure ()
  match operands with
  | [_, path] =>
    if path ≠ ['-'] then
      match ← openForWriting ⟨false, true, false, false⟩ path with
      | .ok d => changeStrand fun s => s.setDescriptor 1 (some d)
      | .error _ => die called ((← quotedName path) ++ ": cannot be written".toList) 1
  | _ => pure ()
  let onlyRepeated := has os 'd' || showsAll
  let mark := if has os 'z' then '\x00' else '\n'
  let u : Uniqueness :=
    { comparing := ⟨fields.getD 0, chars.getD 0, compared, has os 'i'⟩, counts := has os 'c'
      repeated := !has os 'u' || has os 'β', single := !onlyRepeated || has os 'β'
      all := showsAll || has os 'β', grouping := method, mark := mark }
  let (isFirst, group, _) ← overAllLines called mark (operands.take 1)
    (fun (isFirst, group, key) l => do
      let (l, _) := withoutMark mark l
      let k := u.comparing.key l
      match group with
      | [] => return (isFirst, [l], k)
      | group =>
        if k = key then
          return (isFirst, if u.all || u.counts || group.length < 2 then l :: group else group, key)
        else
          let (t, isFirst) := u.group isFirst group.reverse
          put t
          return (isFirst, [l], k))
    (true, ([] : List Text), ([] : Text))
  if !group.isEmpty then
    let (t, _) := u.group isFirst group.reverse
    put t
    if method = .behind || method = .around then put [mark]
where
  bad (t : Text) (what : String) : Act (Option Nat) := do
    die called ("invalid number of ".toList ++ what.toList ++ ": ".toList ++ (← quoted t)) 1
  wrong (t : Text) (option : String) (valid : List String) : Act Grouping := do
    misuse called ("invalid argument ".toList ++ (← quoted t) ++ " for '".toList ++
      option.toList ++ "'\nValid arguments are:".toList ++
      valid.flatMap fun v => "\n  - '".toList ++ v.toList ++ ['\'']) 1

end RemoteInterpreter.Shell.Tool
