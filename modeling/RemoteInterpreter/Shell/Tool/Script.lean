import RemoteInterpreter.Shell.Regex
import RemoteInterpreter.Shell.Number

/-!
# Editing scripts

What the editor of lines is told to do: commands, each with the lines that it is for.
-/

namespace RemoteInterpreter.Shell.Tool

namespace Editing

/-- A line, by its number or by what it holds. -/
inductive Address where
  | line (n : Nat)
  | every (first step : Nat)
  | last
  /-- A line that holds a match; without an expression the one that was used last. -/
  | holding (m : Option Matcher)

/-- Where a range ends. -/
inductive Limit where
  | address (a : Address)
  | further (n : Nat)
  | multiple (n : Nat)

/-- What the letters behind are changed to. -/
inductive Case where
  | upper
  | lower
  | upperNext
  | lowerNext
  | plain
  deriving DecidableEq

/-- A part of a replacement. -/
inductive Part where
  | text (t : Text)
  /-- What a group matched; the whole match is group zero. -/
  | group (n : Nat)
  | case (c : Case)

structure Substitution where
  /-- Without an expression the one that was used last. -/
  pattern : Option Matcher
  parts : List Part
  nth : Nat
  isGlobal : Bool
  prints : Bool
  runs : Bool
  /-- A file to which changed lines are written. -/
  file : Option Text

/-- What is done. Numbers are those of steps. -/
inductive Deed where
  | block (behind : Nat)
  | close
  | label
  | jump (target : Nat)
  | jumpIfChanged (target : Nat)
  | jumpUnlessChanged (target : Nat)
  | number
  | append (t : Text)
  | insert (t : Text)
  | change (t : Text)
  | delete
  | deleteLine
  | run (command : Text)
  | fileName
  | take (adds : Bool)
  | hold (adds : Bool)
  | exchange
  | show (width : Option Nat)
  | next
  | addNext
  | print
  | printLine
  | quit (prints : Bool) (status : Nat)
  | read (path : Text)
  | readLine (path : Text)
  | write (path : Text)
  | writeLine (path : Text)
  | substitute (s : Substitution)
  | replaceLetters (pairs : List (Char × Char))
  | clear

structure Step where
  first : Option Address
  second : Option Limit
  isInverted : Bool
  deed : Deed

/-! Reading -/

/-- How scripts are read. -/
structure Style where
  extended : Bool
  unicode : Bool

/-- What is left of a script, and how much of it was read. -/
structure Cursor where
  rest : Text
  used : Nat

/-- A fault is told with how much was read before. -/
abbrev Read (α : Type) := StateT Cursor (Except (Option Nat × Text)) α

def fault {α : Type} (message : String) : Read α := do
  throw (some (← get).used, message.toList)

def faultOverall {α : Type} (message : String) : Read α := throw (some 0, message.toList)

def next? : Read (Option Char) := do
  let c ← get
  match c.rest with
  | [] => return none
  | d :: rest =>
    set (Cursor.mk rest (c.used + 1))
    return some d

/-- A character is read again. -/
def giveBack (d : Option Char) : Read Unit :=
  match d with
  | none => pure ()
  | some d => modify fun c => ⟨d :: c.rest, c.used - 1⟩

/-- All characters that fit. -/
def takeAll (fits : Char → Bool) : Read Text := do
  let c ← get
  let t := c.rest.takeWhile fits
  set (Cursor.mk (c.rest.drop t.length) (c.used + t.length))
  return t

def isSpaceOrTab (c : Char) : Bool := c == ' ' || c == '\t'

/-- The next character that is no blank. -/
def nextShown? : Read (Option Char) := do
  let _ ← takeAll isSpaceOrTab
  next?

def integer (c : Char) : Read Nat := do return Numeral.value (c :: (← takeAll Char.isDigit))

def integerOrZero (c : Option Char) : Read Nat := do
  match c with
  | some d => if d.isDigit then integer d else do
      giveBack c
      return 0
  | none => return 0

/-- Where something is within a set: at its beginning, behind an inner bracket, within something
that has a name, or behind the sign that may end that. -/
inductive Within where
  | plain
  | bracket
  | named (sign : Char)
  | ending (sign : Char)

/-- The rest of a set, up to and with its closing bracket; or nothing. -/
def setRest? : Nat → Within → Read (Option Text)
  | 0, _ => return none
  | fuel + 1, w => do
    let also (c : Char) (w : Within) : Read (Option Text) := do
      return (← setRest? fuel w).map (c :: ·)
    match ← next? with
    | none => return none
    | some '\n' =>
      giveBack (some '\n')
      return none
    | some c =>
      let relaxed : Within := match w with
        | .plain | .bracket => .plain
        | .named s | .ending s => .named s
      if c = '.' || c = ':' || c = '=' then
        match w with
        | .bracket => also c (.named c)
        | .named s => also c (if s = c then .ending s else .named s)
        | w => also c (if w matches .ending _ then relaxed else .plain)
      else if c = '[' then
        match w with
        | .plain => also c .bracket
        | w => also c w
      else if c = ']' then
        match w with
        | .plain | .bracket => return some [c]
        | .ending _ => also c .plain
        | w => also c w
      else also c relaxed

/-- A set behind its opening bracket. -/
def set? (fuel : Nat) : Read (Option Text) := do
  let closing (front : Text) : Read (Option Text) := do
    match ← next? with
    | some ']' => return (← setRest? fuel .plain).map (front ++ ']' :: ·)
    | c =>
      giveBack c
      return (← setRest? fuel .plain).map (front ++ ·)
  match ← next? with
  | some '^' => closing ['^']
  | c =>
    giveBack c
    closing []

/-- Up to the mark that separates the parts of a command, or nothing. Within a set of a pattern the
mark means itself. -/
def part? (mark : Char) (isPattern : Bool) : Nat → Read (Option Text)
  | 0 => return none
  | fuel + 1 => do
    let also (t : Text) : Read (Option Text) := do
      return (← part? mark isPattern fuel).map (t ++ ·)
    match ← next? with
    | none => return none
    | some '\n' =>
      giveBack (some '\n')
      return none
    | some c =>
      if c = mark then return some []
      else if c = '[' && isPattern then
        match ← set? fuel with
        | none => return none
        | some t => also ('[' :: t)
      else if c ≠ '\\' then also [c]
      else
        match ← next? with
        | none => return none
        | some d =>
          if d = mark && (isPattern || d ≠ '&') then also [d]
          else if d = 'n' && isPattern then also ['\n']
          else if d = '\n' then also [d]
          else also ['\\', d]

def part (mark : Char) (isPattern : Bool) (message : String) : Read Text := do
  match ← part? mark isPattern ((← get).rest.length + 1) with
  | some t => return t
  | none => fault message

/-- A number in a base at the beginning of a text, of no more than so many digits. -/
def numberAhead? (base count : Nat) (t : Text) : Option (Char × Text) :=
  let digits := (t.take count).takeWhile (isDigitOf base)
  if digits.isEmpty then none
  else
    some (Char.ofNat (valueIn base digits % 256), t.drop digits.length)

/-- The character that an escape stands for, whether it was told by its number, and what stands
behind it. -/
def escape? (t : Text) : Option (Char × Bool × Text) :=
  match t with
  | 'a' :: t => some ('\x07', false, t)
  | 'f' :: t => some ('\x0c', false, t)
  | 'n' :: t => some ('\n', false, t)
  | 'r' :: t => some ('\r', false, t)
  | 't' :: t => some ('\t', false, t)
  | 'v' :: t => some ('\x0b', false, t)
  | 'c' :: c :: t => some (Char.ofNat (c.toUpper.toNat ^^^ 64), true, t)
  | 'd' :: t => (numberAhead? 10 3 t).map fun (c, t) => (c, true, t)
  | 'o' :: t => (numberAhead? 8 3 t).map fun (c, t) => (c, true, t)
  | 'x' :: t => (numberAhead? 16 2 t).map fun (c, t) => (c, true, t)
  | _ => none

/-- A pattern without the escapes that stand for characters. -/
def plainPattern : Nat → Text → Text
  | 0, t => t
  | _ + 1, [] => []
  | fuel + 1, '\\' :: t =>
    match escape? t with
    | some (c, _, rest) => c :: plainPattern fuel rest
    | none =>
      match t with
      | c :: t => '\\' :: c :: plainPattern fuel t
      | [] => ['\\']
  | fuel + 1, c :: t => c :: plainPattern fuel t

/-- Nothing is used as the last expression again. -/
def matcher? (style : Style) (ignoresCase hasLines : Bool) (t : Text) :
    Read (Option Matcher) := do
  if t.isEmpty then return none
  else
    let d : Regex.Dialect :=
      ⟨style.extended, ignoresCase, false, hasLines, false, true, false⟩
    match Regex.read d (plainPattern (t.length + 1) t) with
    | .ok m => return some m
    | .error .bareClass => throw (none, RegexFault.bareClass.message.toList)
    | .error e => fault e.message

def parts : Nat → Text → List Part
  | 0, _ | _ + 1, [] => []
  | fuel + 1, '&' :: t => .group 0 :: parts fuel t
  | fuel + 1, '\\' :: c :: t =>
    let also (p : Part) : List Part := p :: parts fuel t
    match c with
    | 'U' => also (.case .upper)
    | 'L' => also (.case .lower)
    | 'u' => also (.case .upperNext)
    | 'l' => also (.case .lowerNext)
    | 'E' => also (.case .plain)
    | c =>
      if c.isDigit then also (.group (Numeral.value [c]))
      else
        match escape? (c :: t) with
        | some (d, _, rest) => .text [d] :: parts fuel rest
        | none => also (.text [c])
  | fuel + 1, c :: t =>
    let run := (c :: t).takeWhile fun d => d ≠ '&' && d ≠ '\\'
    if run.isEmpty then .text [c] :: parts fuel t
    else .text run :: parts fuel ((c :: t).drop run.length)

/-- Behind a command nothing else stands in its line. -/
def endOfCommand : Read Unit := do
  match ← nextShown? with
  | none | some '\n' | some ';' => pure ()
  | some c =>
    if c = '\x7d' || c = '#' then giveBack (some c)
    else fault "extra characters after command"

/-- The name of a file, which is all that is left of the line. -/
def fileName : Read Text := do
  let _ ← takeAll isSpaceOrTab
  let t ← takeAll (· ≠ '\n')
  let _ ← next?
  if t.isEmpty then fault "missing filename in r/R/w/W commands" else return t

/-- A label, up to a blank or the end of the command. -/
def labelName : Read Text := do
  let _ ← takeAll isSpaceOrTab
  takeAll fun c => !isBlank c && c ≠ ';' && c ≠ '\x7d'

/-- The text of a command, up to the end of a line without a backslash before it. -/
def textLines : Nat → Read Text
  | 0 => return []
  | fuel + 1 => do
    match ← next? with
    | none => return []
    | some '\n' => return []
    | some '\\' =>
      match ← next? with
      | none => return []
      | some '\n' => return '\n' :: (← textLines fuel)
      | some c =>
        let cursor ← get
        match escape? (c :: cursor.rest) with
        | some (d, _, rest) =>
          set (Cursor.mk rest (cursor.used + (cursor.rest.length - rest.length)))
          return d :: (← textLines fuel)
        | none => return c :: (← textLines fuel)
    | some c => return c :: (← textLines fuel)

/-- The text of a command behind its letter. -/
def commandText : Read Text := do
  let all : Read Text := do return (← textLines ((← get).rest.length + 1)) ++ ['\n']
  match ← nextShown? with
  | none => fault "expected \\ after \x60a', \x60c' or \x60i'"
  | some '\\' =>
    match ← next? with
    | none => return []
    | some '\n' => all
    | some c =>
      if isSpaceOrTab c then
        let blanks ← takeAll isSpaceOrTab
        match ← next? with
        | some '\n' => all
        | d =>
          giveBack d
          return c :: blanks ++ (← all)
      else
        giveBack (some c)
        all
  | c =>
    giveBack c
    all

/-- The flags of a substitution. -/
structure Flags where
  ignoresCase : Bool
  hasLines : Bool
  nth : Option Nat
  isGlobal : Bool
  prints : Bool
  runs : Bool
  file : Option Text

def flags : Nat → Flags → Read Flags
  | 0, f => return f
  | fuel + 1, f => do
    match ← next? with
    | none | some '\n' | some ';' => return f
    | some c =>
      match c with
      | 'i' | 'I' => flags fuel { f with ignoresCase := true }
      | 'm' | 'M' => flags fuel { f with hasLines := true }
      | 'e' => flags fuel { f with runs := true }
      | 'p' =>
        if f.prints then fault "multiple \x60p' options to \x60s' command"
        else flags fuel { f with prints := true }
      | 'g' =>
        if f.isGlobal then fault "multiple \x60g' options to \x60s' command"
        else flags fuel { f with isGlobal := true }
      | 'w' => return { f with file := some (← fileName) }
      | '\x7d' | '#' =>
        giveBack (some c)
        return f
      | ' ' => flags fuel f
      | c =>
        if c.isDigit then
          if f.nth.isSome then fault "multiple number options to \x60s' command"
          else
            let n ← integer c
            if n = 0 then fault "number option to \x60s' command may not be zero"
            else flags fuel { f with nth := some n }
        else fault "unknown option to \x60s'"

def substitution (style : Style) : Read Substitution := do
  let unterminated := "unterminated \x60s' command"
  match ← next? with
  | none => fault unterminated
  | some mark =>
    let pattern ← part mark true unterminated
    let target ← part mark false unterminated
    let f ← flags ((← get).rest.length + 1) ⟨false, false, none, false, false, false, none⟩
    let m ← matcher? style f.ignoresCase f.hasLines pattern
    let ps := parts (target.length + 1) target
    let highest := ps.foldl (fun n p => match p with
      | .group k => max n k
      | _ => n) 0
    match m with
    | some m =>
      if m.groups < highest then
        fault ("invalid reference \\" ++ toString highest ++ " on \x60s' command's RHS")
    | none => pure ()
    return ⟨m, ps, f.nth.getD 1, f.isGlobal, f.prints, f.runs, f.file⟩

/-- The characters of one side of a table of letters. -/
def sideOf : Nat → Text → Text
  | 0, _ | _ + 1, [] => []
  | fuel + 1, '\\' :: t =>
    match escape? t with
    | some (c, _, rest) => c :: sideOf fuel rest
    | none =>
      match t with
      | c :: t => c :: sideOf fuel t
      | [] => ['\\']
  | fuel + 1, c :: t => c :: sideOf fuel t

def letterPairs : Read (List (Char × Char)) := do
  let unterminated := "unterminated \x60y' command"
  match ← next? with
  | none => fault unterminated
  | some mark =>
    let a ← part mark false unterminated
    let b ← part mark false unterminated
    let a := sideOf (a.length + 1) a
    let b := sideOf (b.length + 1) b
    if a.length ≠ b.length then fault "strings for \x60y' command are different lengths"
    endOfCommand
    return a.zip b

/-- The letters behind an expression. -/
def addressFlags : Nat → Bool × Bool → Read (Bool × Bool)
  | 0, f => return f
  | fuel + 1, (i, m) => do
    match ← nextShown? with
    | some 'I' => addressFlags fuel (true, m)
    | some 'M' => addressFlags fuel (i, true)
    | c =>
      giveBack c
      return (i, m)

/-- An address that begins with a character, if one does. -/
def address? (style : Style) (c : Option Char) : Read (Option Limit) := do
  let holding (mark : Char) : Read (Option Limit) := do
    let t ← part mark true "unterminated address regex"
    let (i, m) ← addressFlags ((← get).rest.length + 1) (false, false)
    return some (.address (.holding (← matcher? style i m t)))
  match c with
  | some '/' => holding '/'
  | some '\\' =>
    match ← next? with
    | some mark => holding mark
    | none => fault "unterminated address regex"
  | some '$' => return some (.address .last)
  | some '+' => return some (.further (← integerOrZero (← nextShown?)))
  | some '~' => return some (.multiple (← integerOrZero (← nextShown?)))
  | some c =>
    if c.isDigit then
      let n ← integer c
      match ← nextShown? with
      | some '~' =>
        let step ← integerOrZero (← nextShown?)
        return some (.address (if step = 0 then .line n else .every n step))
      | d =>
        giveBack d
        return some (.address (.line n))
    else return none
  | none => return none

/-- A deed that may lead to a place which is not known yet. -/
inductive Draft where
  | done (d : Deed)
  | open
  | close
  | named (label : Text)
  | toLabel (d : Nat → Deed) (label : Text)

/-- The command of a letter. Nothing is done for a comment. -/
def draft (style : Style) (hasFirst hasSecond : Bool) (c : Option Char) : Read (Option Draft) := do
  let simple (d : Deed) : Read (Option Draft) := do
    endOfCommand
    return some (.done d)
  let number : Read (Option Nat) := do
    match ← nextShown? with
    | some d =>
      if d.isDigit then some <$> integer d
      else do
        giveBack (some d)
        return none
    | none => return none
  match c with
  | none => fault "missing command"
  | some c =>
    match c with
    | '#' =>
      if hasFirst then fault "comments don't accept any addresses"
      let _ ← takeAll (· ≠ '\n')
      return none
    | 'v' =>
      let _ ← labelName
      endOfCommand
      return none
    | '\x7b' => return some .open
    | '\x7d' =>
      return some .close
    | ':' =>
      if hasFirst then fault ": doesn't want any addresses"
      let l ← labelName
      if l.isEmpty then fault "\":\" lacks a label" else return some (.named l)
    | 'b' => return some (.toLabel .jump (← labelOf))
    | 't' => return some (.toLabel .jumpIfChanged (← labelOf))
    | 'T' => return some (.toLabel .jumpUnlessChanged (← labelOf))
    | 'a' => return some (.done (.append (← commandText)))
    | 'i' =>
      return some (.done (.insert (← commandText)))
    | 'c' => return some (.done (.change (← commandText)))
    | 'e' =>
      let _ ← takeAll isSpaceOrTab
      return some (.done (.run (← textLines ((← get).rest.length + 1))))
    | 'q' | 'Q' =>
      if hasSecond then fault "command only uses one address"
      let n ← number
      simple (.quit (c = 'q') (n.getD 0))
    | 'l' => simple (.show (← number))
    | 'L' => simple (.show (← number))
    | '=' => simple .number
    | 'd' => simple .delete
    | 'D' => simple .deleteLine
    | 'F' => simple .fileName
    | 'g' => simple (.take false)
    | 'G' => simple (.take true)
    | 'h' => simple (.hold false)
    | 'H' => simple (.hold true)
    | 'x' => simple .exchange
    | 'n' => simple .next
    | 'N' => simple .addNext
    | 'p' => simple .print
    | 'P' => simple .printLine
    | 'z' => simple .clear
    | 'r' => return some (.done (.read (← fileName)))
    | 'R' => return some (.done (.readLine (← fileName)))
    | 'w' => return some (.done (.write (← fileName)))
    | 'W' => return some (.done (.writeLine (← fileName)))
    | 's' => return some (.done (.substitute (← substitution style)))
    | 'y' => return some (.done (.replaceLetters (← letterPairs)))
    | c => fault ("unknown command: \x60" ++ String.singleton c ++ "'")
where
  labelOf : Read Text := do
    let l ← labelName
    endOfCommand
    return l

structure Sketch where
  first : Option Address
  second : Option Limit
  isInverted : Bool
  draft : Draft

/-- One command after the other. The blocks that are open are counted. -/
def sketches (style : Style) : Nat → Nat → Read (List Sketch)
  | 0, _ => return []
  | fuel + 1, blocks => do
    let _ ← takeAll fun c => isBlank c || c == ';'
    let c ← next?
    if c.isNone then
      if blocks ≠ 0 then faultOverall "unmatched \x60\x7b'"
      return []
    else
      let a ← address? style c
      let first ← match a with
        | none => pure none
        | some (.address a) => pure (some a)
        | some _ => fault "invalid usage of +N or ~N as first address"
      let c ← if first.isSome then nextShown? else pure c
      let (second, c) ← if first.isSome && c = some ',' then do
          match ← address? style (← nextShown?) with
          | none => fault "unexpected \x60,'"
          | some l => pure (some l, ← nextShown?)
        else pure (none, c)
      match first, second with
      | some (.line 0), some (.address (.holding _)) => pure ()
      | some (.line 0), _ => fault "invalid usage of line address 0"
      | _, _ => pure ()
      let (isInverted, c) ← if c = some '!' then do
          let _ ← takeAll isSpaceOrTab
          let c ← next?
          if c = some '!' then fault "multiple \x60!'s"
          pure (true, c)
        else pure (false, c)
      match ← draft style first.isSome second.isSome c with
      | none => sketches style fuel blocks
      | some d =>
        let blocks ← match d with
          | .open => pure (blocks + 1)
          | .close =>
            if blocks = 0 then fault "unexpected \x60\x7d'"
            if first.isSome then fault "\x7d doesn't want any addresses"
            endOfCommand
            pure (blocks - 1)
          | _ => pure blocks
        return ⟨first, second, isInverted, d⟩ :: (← sketches style fuel blocks)

/-- The place behind the block that is open at the beginning. -/
def behindBlock : List Sketch → Nat → Nat → Nat
  | [], _, n => n
  | s :: rest, depth, n =>
    match s.draft, depth with
    | .close, 0 => n + 1
    | .close, d + 1 => behindBlock rest d (n + 1)
    | .open, d => behindBlock rest (d + 1) (n + 1)
    | _, d => behindBlock rest d (n + 1)

/-- All labels with their places. -/
def labelsOf (ss : List Sketch) : List (Text × Nat) :=
  ss.zipIdx.filterMap fun (s, i) => match s.draft with
    | .named l => some (l, i)
    | _ => none

/-- The steps of a script, with the places to which they lead. -/
def assembled (ss : List Sketch) : Except (Option Nat × Text) (List Step) :=
  let labels := labelsOf ss
  ss.zipIdx.mapM fun (s, i) => do
    let deed ← match s.draft with
      | .done d => pure d
      | .open => pure (.block (behindBlock (ss.drop (i + 1)) 0 (i + 1)))
      | .close => pure .close
      | .named _ => pure .label
      | .toLabel d l =>
        if l.isEmpty then pure (d ss.length)
        else
          match labels.lookup l with
          | some n => pure (d n)
          | none => throw (none, "can't find label for jump to \x60".toList ++ l ++ ['\''])
    return ⟨s.first, s.second, s.isInverted, deed⟩

/-- A script, or what is wrong with it and how much was read before. -/
def readScript (style : Style) (t : Text) : Except (Option Nat × Text) (List Step) := do
  let (ss, _) ← (sketches style (t.length + 2) 0).run ⟨t, 0⟩
  assembled ss

end Editing

end RemoteInterpreter.Shell.Tool
