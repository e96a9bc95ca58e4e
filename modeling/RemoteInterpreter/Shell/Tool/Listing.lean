import RemoteInterpreter.Shell.Tool.Dates
import RemoteInterpreter.Shell.Tool.Storing

/-!
# Lists of files

A tool that lists what is in directories, in one column or in several or with all that is
known of each file, and one that tells where two files differ.
-/

namespace RemoteInterpreter.Shell.Tool

open Filesystem (Fault Occupant Place)

namespace Listing

/-- Something that is listed: what it is called, and what it is. -/
structure Row where
  name : Text
  place : Place
  occupant : Occupant

/-- How names stand on lines. -/
inductive Arrangement where
  | column
  /-- In several columns, down or across. -/
  | columns (across : Bool)
  | commas
  | full
  deriving DecidableEq

/-- What follows the name of a file of its kind. -/
inductive Marking where
  | nothing | directories | kinds
  deriving DecidableEq

structure Style where
  layout : Arrangement
  marking : Marking
  width : Nat
  isQuoted : Bool
  showsBlocks : Bool
  showsOwner : Bool
  showsGroup : Bool
  showsNumbers : Bool

def sizeOf (d : Disk) (e : Occupant) : Nat :=
  match e.node with
  | .directory => 4096
  | .file n => (d.content n).length
  | .link target => target.length
  | _ => 0

/-- How much room something takes, in units of 1024. -/
def blocksTaken (d : Disk) (e : Occupant) : Nat :=
  match e.node with
  | .directory => 4
  | .file n => ((d.content n).length + 4095) / 4096 * 4
  | _ => 0

def markOf (m : Marking) (e : Occupant) : Text :=
  match m, e.node with
  | .nothing, _ => []
  | _, .directory => ['/']
  | .directories, _ => []
  | .kinds, .link _ => ['@']
  | .kinds, .device => []
  | .kinds, _ => if e.mode &&& 0o111 ≠ 0 then ['*'] else []

/-- The name as it is shown. -/
def shownName (s : Style) (name : Text) : Text :=
  if s.isQuoted then
    let escaped := name.flatMap fun c => if c = '"' || c = '\\' then ['\\', c] else [c]
    '"' :: (escaped ++ ['"'])
  else name

/-- Three letters for three bits, and another letter in place of the last one. -/
def threeBits (n : Nat) (special : Bool) (letter : Char) : Text :=
  let runs := n % 2 = 1
  [if n / 4 % 2 = 1 then 'r' else '-', if n / 2 % 2 = 1 then 'w' else '-',
    if special then (if runs then letter else letter.toUpper) else if runs then 'x' else '-']

/-- The kind and the mode of a file in letters. -/
def modeLetters (e : Occupant) : Text :=
  let kind : Char := match e.node with
    | .directory => 'd'
    | .link _ => 'l'
    | .device => 'c'
    | _ => '-'
  let bit (n : Nat) : Bool := e.mode / n % 2 = 1
  kind :: threeBits (e.mode / 64 % 8) (bit 0o4000) 's' ++
    threeBits (e.mode / 8 % 8) (bit 0o2000) 's' ++ threeBits (e.mode % 8) (bit 0o1000) 't'

/-- How often something is named: a directory also by itself and by those in it. -/
def namesCount (d : Disk) (r : Row) : Nat :=
  if r.occupant.node = .directory then
    2 + ((d.namesIn r.place).filter fun n =>
      (d.entry? (r.place ++ [n])).any fun e => e.node = .directory).length
  else 1

def dayShown (stamp : Nat) : Text :=
  let m := Calendar.momentOf (Dates.beginning + (stamp / 10 ^ 9 : Nat))
  let two (n : Nat) : Text := let t := Numeral.write n; if n < 10 then '0' :: t else t
  ((Calendar.months.getD (m.month - 1) "").toList.take 3) ++ ' ' ::
    padLeft 2 (Numeral.write m.day) ++ ' ' :: two m.hour ++ ':' :: two m.minute

/-- Columns that are as wide as they have to be. -/
def aligned (onLeft : Bool) (column : List Text) : List Text :=
  let width := (column.map List.length).foldl max 0
  column.map fun t => if onLeft then padRight width t else padLeft width t

/-- Columns side by side. -/
def beside (a b : List Text) : List Text := (a.zip b).map fun (x, y) => x ++ ' ' :: y

/-- All that is known of every file. -/
def fullLines (s : Style) (d : Disk) (rows : List Row) : List Text :=
  let owner : Text := if s.showsNumbers then ['0'] else "root".toList
  let first := aligned true (rows.map fun r => modeLetters r.occupant)
  let counts := aligned false (rows.map fun r => Numeral.write (namesCount d r))
  let front := beside first counts
  let front := if s.showsOwner then front.map (· ++ ' ' :: owner) else front
  let front := if s.showsGroup then front.map (· ++ ' ' :: owner) else front
  let sizes := aligned false (rows.map fun r => Numeral.write (sizeOf d r.occupant))
  let front := beside (beside front sizes) (rows.map fun r => dayShown r.occupant.stamp)
  beside front (rows.map fun r =>
    let name := shownName s r.name
    match r.occupant.node with
    | .link target => name ++ " -> ".toList ++ shownName s target
    | _ => name ++ markOf s.marking r.occupant)

/-- The widths of a number of columns that texts are set in, if they fit. -/
def widths? (across : Bool) (width : Nat) (lengths : List Nat) (count : Nat) :
    Option (List Nat) :=
  let rows := (lengths.length + count - 1) / count
  let columnOf (k : Nat) : Nat := if across then k % count else k / rows
  let widths := (List.range count).map fun c =>
    ((lengths.zipIdx.filter fun l => columnOf l.2 = c).map fun l =>
      if c + 1 = count then l.1 else l.1 + 2).foldl max 3
  if widths.sum < width then some widths else none

/-- Blanks from a column to another one, as tabs where that is shorter. -/
def gap (tillColumn : Nat) : Nat → Nat → Text
  | 0, _ => []
  | fuel + 1, column =>
    if tillColumn ≤ column then []
    else if (column + 1) / 8 < tillColumn / 8 then
      '\t' :: gap tillColumn fuel (column + 8 - column % 8)
    else ' ' :: gap tillColumn fuel (column + 1)

def columnLines (across : Bool) (width : Nat) (names : List Text) : List Text :=
  let lengths := names.map List.length
  let most := min names.length (max 1 (width / 3))
  let found := (List.range most).reverse.findSome? fun n =>
    (widths? across width lengths (n + 1)).map fun ws => (n + 1, ws)
  let (count, widths) := found.getD (1, [width])
  let rows := (names.length + count - 1) / count
  let array := names.toArray
  (List.range rows).map fun row =>
    let cells := (List.range count).filterMap fun c =>
      array[if across then row * count + c else c * rows + row]?
    let (line, _) := (cells.zip widths).zipIdx.foldl (fun (done, column) ((t, w), c) =>
      let isLast := c + 1 = cells.length
      let stop := column + t.length
      if isLast then (t :: done, stop)
      else (gap (column + w) (w + 1) stop :: t :: done, column + w)) (([] : List Text), 0)
    line.reverse.flatten

/-- Names with commas between them. -/
def commaText (width : Nat) (names : List Text) : Text :=
  (names.zipIdx.foldl (fun (done, column) (t, k) =>
    if k = 0 then ([t], t.length)
    else if width = 0 || column + t.length + 2 < width then
      ((", ".toList ++ t) :: done, column + t.length + 2)
    else ((",\n".toList ++ t) :: done, t.length)) (([] : List Text), 0)).1.reverse.flatten

/-- Files as they are listed. -/
def lines (s : Style) (d : Disk) (rows : List Row) : List Text :=
  match s.layout with
  | .full => fullLines s d rows
  | layout =>
    let names := rows.map fun r => shownName s r.name ++ markOf s.marking r.occupant
    let names := if s.showsBlocks then
        beside (aligned false (rows.map fun r => Numeral.write (blocksTaken d r.occupant))) names
      else names
    match layout with
    | .columns across => columnLines across s.width names
    | .commas => if names.isEmpty then [] else [commaText s.width names]
    | _ => names

end Listing

open Listing in
def ls (called : Text) (args : List Text) : Act Unit := do
  let all := known [('a', "all"), ('A', "almost-all"), ('1', ""), ('C', ""), ('x', ""), ('m', ""),
      ('l', ""), ('g', ""), ('n', "numeric-uid-gid"), ('o', ""), ('d', "directory"), ('p', ""),
      ('r', "reverse"), ('R', "recursive"), ('S', ""), ('t', ""), ('U', ""), ('f', ""), ('v', ""),
      ('X', ""), ('c', ""), ('u', ""), ('Q', "quote-name"), ('q', "hide-control-chars"),
      ('b', "escape"), ('N', "literal"), ('s', "size"), ('B', "ignore-backups"),
      ('G', "no-group"), ('L', "dereference"), ('H', "dereference-command-line"),
      ('h', "human-readable"), ('k', "kibibytes"), ('i', "inode"), ('Z', "context"),
      ('β', "group-directories-first"), ('D', "dired")]
    [('w', "width"), ('I', "ignore"), ('T', "tabsize"), ('γ', "hide"), ('δ', "sort"),
     ('ε', "format"), ('ζ', "quoting-style"),
     ('η', "indicator-style"), ('θ', "time-style"), ('κ', "block-size")] ++
    [⟨'λ', "color", .maybe⟩, ⟨'F', "", .nothing⟩, ⟨'μ', "classify", .maybe⟩]
  let (os, words) ← optionsOr 2 called all true args
  let has := has os
  let isFull := has 'l' || has 'g' || has 'n' || has 'o'
  let told := os.filter fun o => "1Cxmlgno".toList.contains o.1
  let layout : Arrangement := match told.getLast? with
    | some ('C', _) => .columns false
    | some ('x', _) => .columns true
    | some ('m', _) => .commas
    | some ('1', _) => if isFull then .full else .column
    | some _ => .full
    | none => .column
  let width ← match valueOf? os 'w' with
    | none => pure (((← strand).value? "COLUMNS".toList).bind Numeral.read? |>.getD 80)
    | some t =>
      match Numeral.read? t with
      | some n => pure n
      | none => die called ("invalid line width: ".toList ++ (← quoted t)) 2
  let style : Style := {
    layout := layout
    marking := if has 'F' || has 'μ' then .kinds
      else if has 'p' || valueOf? os 'η' = some "slash".toList then .directories else .nothing
    width := width
    isQuoted := has 'Q'
    showsBlocks := has 's'
    showsOwner := !has 'g'
    showsGroup := !(has 'o' || has 'G')
    showsNumbers := has 'n' }
  let disk := (← world).disk
  let isBefore (a b : Row) : Bool :=
    let byName := Text.precedes a.name b.name
    match lastOf? os ['S', 't', 'X', 'v'] with
    | some 'S' =>
      let (m, n) := (sizeOf disk a.occupant, sizeOf disk b.occupant)
      if m = n then byName else n < m
    | some 't' =>
      if a.occupant.stamp = b.occupant.stamp then byName
      else b.occupant.stamp < a.occupant.stamp
    | _ => byName
  let sorted (rows : List Row) : List Row :=
    if has 'U' || has 'f' then rows
    else
      let rows := rows.mergeSort isBefore
      let rows := if has 'r' then rows.reverse else rows
      if has 'β' then
        let (ds, fs) := rows.partition fun r => r.occupant.node = .directory
        ds ++ fs
      else rows
  let isHidden (name : Text) : Bool :=
    !(has 'a' || has 'f') && ((!has 'A' && name.head? = some '.') ||
      (has 'B' && name.getLast? = some '~') ||
      (os.any fun o => (o.1 = 'I' || o.1 = 'γ') && matchesText (o.2.map fun c => (c, false)) name))
  let say (rows : List Row) : Act Unit := (lines style disk (sorted rows)).forM putLine
  let showDirectory (titled isFirst : Bool) (place : Place) (path : Text) : Act (List Row) := do
    if !isFirst then putLine []
    if titled then putLine (path ++ [':'])
    let names := (disk.namesIn place).filter fun n => !isHidden n
    let rows := names.filterMap fun n =>
      (disk.entry? (place ++ [n])).map fun e => Row.mk n (place ++ [n]) e
    let dots : List Row := if has 'a' || has 'f' then
        ([(['.'], place), (['.', '.'], place.dropLast)].filterMap fun (n, p) =>
          (disk.entry? p).map fun e => Row.mk n p e)
      else []
    let rows := dots ++ rows
    if layout == .full || has 's' then
      putLine ("total ".toList ++ Numeral.write (rows.map fun r => blocksTaken disk r.occupant).sum)
    say rows
    return sorted (rows.filter fun r =>
      r.occupant.node = .directory && r.name ≠ ['.'] && r.name ≠ ['.', '.'])
  let rec deep : Nat → Bool → Bool → Place → Text → Act Unit
    | 0, _, _, _, _ => starve
    | fuel + 1, titled, isFirst, place, path => do
      let inner ← showDirectory titled isFirst place path
      if has 'R' then
        for r in inner do
          deep fuel true false r.place (Filesystem.join path r.name)
  let operands := if words.isEmpty then [['.']] else words
  let staysAtLinks : Bool := has 'd' || has 'F' || layout == .full
  let follows := !staysAtLinks || has 'L' || has 'H'
  let found ← operands.filterMapM fun path => do
    let lacks (why : Fault) : Act (Option Row) := do
      lack called ("cannot access ".toList ++ (← quotedFully path) ++ ": ".toList ++
        why.message.toList) 2
      return none
    let way := if path.getLast? = some '/' then true else follows
    match ← resolve way path with
    | .ok (place, some e) =>
      if path.getLast? = some '/' && e.node ≠ .directory then lacks .notADirectory
      else return some (Row.mk path place e)
    | .ok (_, none) =>
      match ← resolve false path with
      | .ok (place, some e) => return some (Row.mk path place e)
      | _ => lacks .missing
    | .error e => lacks e
  let (directories, files) := if has 'd' then (([] : List Row), found)
    else found.partition fun r => r.occupant.node = .directory
  /- A link to a file is shown as a link. -/
  let files ← files.mapM fun r => do
    match ← resolve (has 'L' || r.name.getLast? = some '/') r.name with
    | .ok (place, some e) => return Row.mk r.name place e
    | _ => return r
  if !files.isEmpty then say files
  let titled := has 'R' || 1 < operands.length
  for (r, k) in (sorted directories).zipIdx do
    deep deepest titled (k = 0 && files.isEmpty) r.place r.name

/-! Comparing -/

namespace Comparing

/-- Where two texts differ first: how many octets and lines come before, and what is left. -/
def firstDifference : Nat → Nat → Text → Text → Nat × Nat × Text × Text
  | n, l, a :: t, b :: u =>
    if a = b then firstDifference (n + 1) (if a = '\n' then l + 1 else l) t u
    else (n, l, a :: t, b :: u)
  | n, l, t, u => (n, l, t, u)

/-- All places where octets differ, and how many octets both have. -/
def differences : Nat → Text → Text → List (Nat × Char × Char)
  | n, a :: t, b :: u =>
    let rest := differences (n + 1) t u
    if a = b then rest else (n, a, b) :: rest
  | _, _, _ => []

def inOctal (c : Char) : Text := padLeft 3 (Nat.toDigits 8 c.toNat)

/-- An octet as it is shown to people. -/
def caretForm (c : Char) : Text :=
  let n := c.toNat
  let low (n : Nat) : Text :=
    if n < 32 then ['^', Char.ofNat (n + 64)] else if n = 127 then ['^', '?'] else [Char.ofNat n]
  if n < 128 then low n else 'M' :: '-' :: low (n - 128)

end Comparing

open Comparing in
def cmp (called : Text) (args : List Text) : Act Unit := do
  let all := known [('b', "print-bytes"), ('l', "verbose"), ('s', "quiet"), ('s', "silent")]
    [('i', "ignore-initial"), ('n', "bytes")]
  let refuse {α : Type} (message : Text) : Act α := do
    warn called message
    writeError (called ++ ": Try '".toList ++ called ++ " --help' for more information.\n".toList)
    quit 2
  let (os, words) ← match parse all true args with
    | .ok r => pure r
    | .error why => refuse why
  let size (what : String) (t : Text) : Act Nat := do
    match scaled? sizeSuffixes t with
    | some n => return n
    | none => refuse (("invalid --" ++ what ++ " value ").toList ++ (← quoted t))
  let limit ← (valueOf? os 'n').mapM (size "bytes")
  let skips ← match valueOf? os 'i' with
    | none => pure (0, 0)
    | some t =>
      match Text.cut? ':' t with
      | some (a, b) => do
        let m ← size "ignore-initial" a
        let n ← size "ignore-initial" b
        pure (m, n)
      | none => do
        let n ← size "ignore-initial" t
        pure (n, n)
  let (first, second, rest) ← match words with
    | [] => refuse ("missing operand after ".toList ++ (← quoted called))
    | [a] => pure (a, ['-'], [])
    | a :: b :: rest => pure (a, b, rest)
  if 2 < rest.length then
    refuse ("extra operand ".toList ++ (← quoted (rest.getD 2 [])))
  let skipOf (k old : Nat) : Act Nat := do
    match rest[k]? with
    | some t => size "ignore-initial" t
    | none => return old
  let skipFirst ← skipOf 0 skips.1
  let skipSecond ← skipOf 1 skips.2
  let read (path : Text) : Act Text := do
    match ← openOperand path with
    | .error e =>
      if has os 's' then quit 2 else die called (path ++ ": ".toList ++ e.message.toList) 2
    | .ok d =>
      match ← readFault? d with
      | some e => die called (path ++ ": ".toList ++ e.message.toList) 2
      | none => (Intake.of d).whole
  let cut (skip : Nat) (t : Text) : Text :=
    let t := t.drop skip
    match limit with
    | some n => t.take n
    | none => t
  if first ≠ second then
    let t := cut skipFirst (← read first)
    let u := cut skipSecond (← read second)
    let (before, line, t', u') := firstDifference 0 1 t u
    let ended (path : Text) (n : Nat) (lines : Option Text) : Act Unit := do
      if !has os 's' then
        warn called ("EOF on ".toList ++ path ++ (if n = 0 then " which is empty".toList
          else " after byte ".toList ++ Numeral.write n ++ lines.getD []))
      setStatus 1
    if has os 'l' then
      let ds := differences 1 t u
      let width := (Numeral.write (max t.length u.length)).length
      for (n, a, b) in ds do
        let letters := if has os 'b' then
            inOctal a ++ ' ' :: padRight 4 (caretForm a) ++ ' ' :: inOctal b ++ ' ' :: caretForm b
          else inOctal a ++ ' ' :: inOctal b
        putLine (padLeft width (Numeral.write n) ++ ' ' :: letters)
      if !ds.isEmpty then setStatus 1
      if t.length < u.length then ended first t.length none
      else if u.length < t.length then ended second u.length none
    else
      match t', u' with
      | [], [] => pure ()
      | a :: _, b :: _ =>
        if !has os 's' then
          let place := (if has os 'b' then " differ: byte " else " differ: char ").toList ++
            Numeral.write (before + 1) ++ ", line ".toList ++ Numeral.write line
          let octets := if has os 'b' then
              " is ".toList ++ inOctal a ++ ' ' :: caretForm a ++ ' ' ::
                inOctal b ++ ' ' :: caretForm b
            else []
          putLine (first ++ ' ' :: second ++ place ++ octets)
        setStatus 1
      | [], _ | _, [] =>
        let isWhole := (if t'.isEmpty then t else u).getLast? = some '\n'
        ended (if t'.isEmpty then first else second) before
          (some ((if isWhole then ", line " else ", in line ").toList ++
            Numeral.write (if isWhole then line - 1 else line)))

end RemoteInterpreter.Shell.Tool
