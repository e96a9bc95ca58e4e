import RemoteInterpreter.Shell.Tool.Intake

/-!
# Copying

Tools that put out what they read: all of it, to files as well, or only its beginning or
its end.
-/

namespace RemoteInterpreter.Shell.Tool

/-! Everything -/

/-- How what is copied is shown. -/
structure Showing where
  numbersAll : Bool
  numbersText : Bool
  marksEnds : Bool
  squeezes : Bool
  marksTabs : Bool
  marksOthers : Bool

/-- An octet by signs that can be seen. -/
def visible (marksTabs marksOthers : Bool) (c : Char) : Text :=
  if c = '\t' then if marksTabs then ['^', 'I'] else [c]
  else if !marksOthers then [c]
  else
    let lower (c : Char) : Text :=
      if c < ' ' then ['^', Char.ofNat (c.toNat + 64)]
      else if c = '\x7f' then ['^', '?'] else [c]
    if c < '\u0080' then lower c else "M-".toList ++ lower (Char.ofNat (c.toNat - 128))

/-- What is known of the lines before. -/
structure CopyState where
  number : Nat
  atStart : Bool
  /-- How many empty lines there were. -/
  empties : Nat

/-- A line, or a part of it, as it is shown. -/
def Showing.line (w : Showing) (s : CopyState) (l : Text) : Text × CopyState :=
  let (t, hasEnd) := withoutMark '\n' l
  let isEmpty := s.atStart && t.isEmpty && hasEnd
  if isEmpty && w.squeezes && 0 < s.empties then ([], { s with empties := s.empties + 1 })
  else
    let numbered := s.atStart && (if w.numbersText then !isEmpty else w.numbersAll)
    let number := if numbered then s.number + 1 else s.number
    let front := if numbered then padLeft 6 (Numeral.write number) ++ ['\t'] else []
    let (t, carriage) : Text × Text :=
      if w.marksEnds && hasEnd && t.getLast? = some '\r' && !w.marksOthers then
        (t.dropLast, ['^', 'M'])
      else (t, [])
    let shown := t.flatMap (visible w.marksTabs w.marksOthers) ++ carriage
    let ending := if hasEnd then if w.marksEnds then ['$', '\n'] else ['\n'] else []
    (front ++ shown ++ ending, ⟨number, hasEnd, if isEmpty then s.empties + 1 else 0⟩)

def catOptions : List Known :=
  known [('A', "show-all"), ('b', "number-nonblank"), ('e', ""), ('E', "show-ends"),
    ('n', "number"), ('s', "squeeze-blank"), ('t', ""), ('T', "show-tabs"), ('u', ""),
    ('v', "show-nonprinting")] []

def cat (called : Text) (args : List Text) : Act Unit := do
  let (os, operands) ← optionsOr 1 called catOptions true args
  let any (cs : List Char) : Bool := cs.any (has os)
  let w : Showing :=
    { numbersAll := has os 'n', numbersText := has os 'b', marksEnds := any ['A', 'e', 'E']
      squeezes := has os 's', marksTabs := any ['A', 't', 'T']
      marksOthers := any ['A', 'e', 't', 'v'] }
  if ((← strand).descriptor? 1).isNone then
    die called "standard output: Bad file descriptor".toList 1
  let isPlain := !w.numbersAll && !w.numbersText && !w.marksEnds && !w.squeezes &&
    !w.marksTabs && !w.marksOthers
  let _ ← (orInput operands).foldlM (fun s path =>
    withOperand (complainOf called) path s fun d =>
      Intake.eachBlock (fun (s : CopyState) t => do
        if isPlain then
          putOut t
          if (← strand).fault.isSome then throw .exited
          return s
        else
          let ls := Text.splitAt '\n' t
          let ls := ls.dropLast.map (· ++ ['\n']) ++ (ls.getLast?.filter (!·.isEmpty)).toList
          let (out, s) := ls.foldl (fun (out, s) l =>
            let (shown, s) := w.line s l
            (shown :: out, s)) (([] : List Text), s)
          putOut out.reverse.flatten
          return s) d s) ⟨0, true, 0⟩
  if ((← strand).descriptor? 0).isNone && (orInput operands).contains ['-'] then
    die called "closing standard input: Bad file descriptor".toList 1

def tee (called : Text) (args : List Text) : Act Unit := do
  let all := known [('a', "append"), ('i', "ignore-interrupts"), ('p', "")] [] ++
    [⟨'α', "output-error", .maybe⟩]
  let (os, operands) ← optionsOr 1 called all true args
  let targets ← operands.mapM fun path => do
    match ← openForWriting ⟨has os 'a', !has os 'a', false, false⟩ path with
    | .ok d => return some (path, d)
    | .error e =>
      let why := match e with
        | .path e => e.message
        | .exists => "File exists"
      lack called ((← quotedName path) ++ ": ".toList ++ why.toList) 1
      return none
  let d := ((← strand).descriptor? 0).getD .nothing
  Intake.eachBlock (fun _ t => do
    putOut t
    for (path, target) in targets.filterMap id do
      match ← writeTo (some target) t with
      | none => pure ()
      | some why => lack called ((← quotedName path) ++ ": ".toList ++ why.toList) 1) d ()

/-! Beginning and end -/

/-- How much of something is meant. -/
structure Amount where
  isLines : Bool
  count : Nat
  /-- All but that. -/
  isRest : Bool

/-- Which headers stand before the parts of several files. -/
def headersShown (os : List Given) (operands : List Text) : Bool :=
  match lastOf? os ['q', 'v'] with
  | some 'q' => false
  | some _ => true
  | none => 1 < operands.length

def header (isFirst : Bool) (path : Text) : Text :=
  (if isFirst then [] else ['\n']) ++ "==> ".toList ++
    (if path = ['-'] then "standard input".toList else path) ++ " <==\n".toList

/-- An amount that is told by an option, behind blanks and perhaps a sign. -/
def amountOf (called : Text) (isLines : Bool) (t : Text) : Act Nat := do
  let bare := t.dropWhile fun c => c = ' ' || ('\t' ≤ c && c ≤ '\r')
  let digits := if bare.head? = some '+' then bare.tail else bare
  let isNumber := t = bare || digits.head?.any Char.isDigit
  match (if isNumber then scaled? sizeSuffixes digits else none) with
  | some n => return n
  | none =>
    let what := if isLines then "lines" else "bytes"
    die called ("invalid number of ".toList ++ what.toList ++ ": ".toList ++ (← quoted t)) 1

/-- A first word that is a number behind a hyphen, with letters behind it. -/
def headCount (called : Text) (args : List Text) : Act (List Text) := do
  match args with
  | ('-' :: c :: cs) :: rest =>
    if !c.isDigit then return args
    else
      let digits := (c :: cs).takeWhile Char.isDigit
      let letters := (c :: cs).drop digits.length
      match letters.find? fun c => !"bckmlqvz".toList.contains c with
      | some c => misuse called ("invalid trailing option -- ".toList ++ [c]) 1
      | none =>
        let unit := (letters.filter fun c => "bkm".toList.contains c).getLast?
        let amount := digits ++ unit.toList
        let isOctets := letters.any fun c => "bckm".toList.contains c
        let others := letters.filter fun c => "qvz".toList.contains c
        let others := if others.isEmpty then [] else ['-' :: others]
        return ['-', if isOctets then 'c' else 'n'] :: amount :: others ++ rest
  | args => return args

/-- The first so many octets. -/
def headOctets (d : Descriptor) (n : Nat) : Act Unit := do
  iterate n fun n => do
    if n = 0 then return .ok ()
    else
      let t ← readBlock d (min n 8192)
      put t
      if t.isEmpty then return .ok () else return .error (n - t.length)

/-- The first so many lines. What was read behind them may be read again, if it is in a file. -/
def headLines (mark : Char) (d : Descriptor) (n : Nat) : Act Unit := do
  iterate n fun n => do
    if n = 0 then return .ok ()
    else
      let t ← readBlock d 8192
      let m := t.count mark
      if t.isEmpty then return .ok ()
      else if m < n then
        put t
        return .error (n - m)
      else
        let rest := (List.range n).foldl (fun t _ => (t.dropWhile (· ≠ mark)).drop 1) t
        put (t.take (t.length - rest.length))
        Intake.giveBack ⟨d, rest, false⟩
        return .ok ()

/-- All but the last so many lines or octets. -/
def headRest (mark : Char) (d : Descriptor) (a : Amount) : Act Unit := do
  let t ← (Intake.of d).whole
  if a.isLines then
    let pieces := Text.splitAt mark t
    let ls := pieces.dropLast.map (· ++ [mark]) ++ (pieces.getLast?.filter (!·.isEmpty)).toList
    put (ls.take (ls.length - a.count)).flatten
  else put (t.take (t.length - a.count))

/-- Digits that stand where options do. -/
def digitOptions : List Known := "0123456789".toList.map fun c => ⟨c, "", .nothing⟩

def head (called : Text) (args : List Text) : Act Unit := do
  let all := known [('q', "quiet"), ('q', "silent"), ('v', "verbose"), ('z', "zero-terminated")]
    [('c', "bytes"), ('n', "lines")] ++ digitOptions
  let (os, operands) ← optionsOr 1 called all true (← headCount called args)
  let mark := if has os 'z' then '\x00' else '\n'
  let amount ← os.foldlM (fun a (c, t) => do
    if c = 'c' || c = 'n' then
      let (isRest, digits) := match t with
        | '-' :: digits => (true, digits)
        | digits => (false, digits)
      return ⟨c = 'n', ← amountOf called (c = 'n') digits, isRest⟩
    else if c.isDigit then misuse called ("invalid trailing option -- ".toList ++ [c]) 1
    else return a) (⟨true, 10, false⟩ : Amount)
  let shows := headersShown os operands
  let complain (path : Text) (e : Filesystem.Fault) : Act Unit := do
    let q ← quotedFully path
    if e = .isADirectory || e = .closed then
      lack called ("error reading ".toList ++ q ++ ": ".toList ++ e.message.toList) 1
    else
      lack called ("cannot open ".toList ++ q ++ " for reading: ".toList ++ e.message.toList) 1
  let _ ← (orInput operands).foldlM (fun (isFirst : Bool) path =>
    withOperand complain path isFirst fun d => do
      if shows then put (header isFirst path)
      if amount.isRest then headRest mark d amount
      else if amount.isLines then headLines mark d amount.count
      else headOctets d amount.count
      return false) true

/-- The last lines or octets of a text, or those from some on. -/
def tailOf (mark : Char) (a : Amount) (t : Text) : Text :=
  if a.isLines then
    let pieces := Text.splitAt mark t
    let ls := pieces.dropLast.map (· ++ [mark]) ++ (pieces.getLast?.filter (!·.isEmpty)).toList
    (ls.drop (if a.isRest then a.count - 1 else ls.length - a.count)).flatten
  else t.drop (if a.isRest then a.count - 1 else t.length - a.count)

/-- A first word that is a number behind a sign, with letters behind it. -/
def tailCount (args : List Text) : List Text :=
  match args with
  | (sign :: cs) :: rest =>
    let digits := cs.takeWhile Char.isDigit
    let letters := cs.drop digits.length
    let fits := ["", "l", "c", "b", "f", "lf", "cf", "bf"].contains (Text.str letters)
    let isOld := fits && (if sign = '-' then !(["", "c", "f", "cf"].contains (Text.str cs))
      else sign = '+')
    /- At most one word that is no option stands behind it. -/
    let isAlone := match rest with
      | [] => true
      | [t] => !(t.head? = some '-' && 1 < t.length) || t = ['-', '-']
      | [t, _] => t = ['-', '-']
      | _ => false
    if isOld && isAlone then
      let front : Text := if sign = '+' then ['+'] else []
      let count := if digits.isEmpty then "10".toList else digits
      let isOctets := letters.any fun c => c = 'c' || c = 'b'
      let unit : Text := if letters.contains 'b' then ['b'] else []
      let follow := if letters.contains 'f' then ["-f".toList] else []
      ['-', if isOctets then 'c' else 'n'] :: (front ++ count ++ unit) :: follow ++ rest
    else args
  | args => args

def tail (called : Text) (args : List Text) : Act Unit := do
  let all := known [('q', "quiet"), ('q', "silent"), ('v', "verbose"), ('z', "zero-terminated"),
      ('F', ""), ('α', "retry")]
    [('c', "bytes"), ('n', "lines"), ('s', "sleep-interval"), ('β', "pid"),
      ('γ', "max-unchanged-stats")] ++
    ⟨'f', "", .nothing⟩ :: ⟨'f', "follow", .maybe⟩ :: digitOptions
  let (os, operands) ← optionsOr 1 called all true (tailCount args)
  let mark := if has os 'z' then '\x00' else '\n'
  let amount ← os.foldlM (fun a (c, t) => do
    if c = 'c' || c = 'n' then
      let (isRest, digits) := match t with
        | '+' :: _ => (true, t)
        | '-' :: digits => (false, digits)
        | digits => (false, digits)
      return ⟨c = 'n', ← amountOf called (c = 'n') digits, isRest⟩
    else if c.isDigit then die called ("option used in invalid context -- ".toList ++ [c]) 1
    else return a) (⟨true, 10, false⟩ : Amount)
  let shows := headersShown os operands
  let complain (path : Text) (e : Filesystem.Fault) : Act Unit := do
    let q ← quotedFully path
    if e = .isADirectory || e = .closed then
      lack called ("error reading ".toList ++ q ++ ": ".toList ++ e.message.toList) 1
    else
      lack called ("cannot open ".toList ++ q ++ " for reading: ".toList ++ e.message.toList) 1
  let _ ← (orInput operands).foldlM (fun (isFirst : Bool) path =>
    withOperand complain path isFirst fun d => do
      if shows then put (header isFirst path)
      if amount.isRest && amount.count ≤ 1 then
        Intake.eachBlock (fun _ t => put t) d ()
      else put (tailOf mark amount (← (Intake.of d).whole))
      return false) true
  let follows := has os 'f' || has os 'F'
  if follows && operands.any (· ≠ ['-']) then
    flush
    starve

/-! Backward -/

/-- The pieces of a text between marks, each with the mark at its end or at its beginning. -/
def piecesWith (mark : Text) (isBefore : Bool) : Nat → Text → Text → List Text
  | 0, before, _ => [before.reverse]
  | _ + 1, before, [] => if before.isEmpty then [] else [before.reverse]
  | fuel + 1, before, c :: rest =>
    if mark.isPrefixOf (c :: rest) then
      let behind := (c :: rest).drop mark.length
      if isBefore then
        let others := piecesWith mark isBefore fuel mark.reverse behind
        if before.isEmpty then others else before.reverse :: others
      else (before.reverse ++ mark) :: piecesWith mark isBefore fuel [] behind
    else piecesWith mark isBefore fuel (c :: before) rest

def tac (called : Text) (args : List Text) : Act Unit := do
  let all := known [('b', "before"), ('r', "regex")] [('s', "separator")]
  let (os, operands) ← optionsOr 1 called all true args
  let mark := match valueOf? os 's' with
    | none => ['\n']
    | some [] => ['\x00']
    | some t => t
  let complain (path : Text) (e : Filesystem.Fault) : Act Unit := do
    let q ← quotedFully path
    if e = .isADirectory then lack called (path ++ ": read error: Invalid argument".toList) 1
    else if e = .closed then
      lack called (path ++ ": read error: ".toList ++ e.message.toList) 1
    else
      lack called ("failed to open ".toList ++ q ++ " for reading: ".toList ++ e.message.toList) 1
  for path in orInput operands do
    withOperand complain path () fun d => do
      let t ← (Intake.of d).whole
      put (piecesWith mark (has os 'b') (t.length + 1) [] t).reverse.flatten

def rev (called : Text) (args : List Text) : Act Unit := do
  let all := known [('0', "zero"), ('h', "help"), ('V', "version")] []
  let (os, operands) ← optionsOr 1 called all true args
  let mark := if has os '0' then '\x00' else '\n'
  let unicode := isUnicode (← strand)
  let complain (path : Text) (e : Filesystem.Fault) : Act Unit :=
    lack called ("cannot open ".toList ++ path ++ ": ".toList ++ e.message.toList) 1
  for path in orInput operands do
    withOperand complain path () fun d => do
      overLines mark (fun _ l => do
        let (t, hasEnd) := withoutMark mark l
        put ((characters unicode t).reverse.flatten ++ if hasEnd then [mark] else [])) d ()

end RemoteInterpreter.Shell.Tool
