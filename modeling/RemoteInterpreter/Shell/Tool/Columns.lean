import RemoteInterpreter.Shell.Tool.Intake

/-!
# Columns

Tools that choose parts of lines, put lines side by side, and change how wide they are.
-/

namespace RemoteInterpreter.Shell.Tool

/-! Choosing -/

/-- Numbers and ranges of numbers, each without an upper bound if that is missing. -/
abbrev Ranges := List (Nat × Option Nat)

namespace Ranges

def contains (rs : Ranges) (n : Nat) : Bool := rs.any fun (low, high) => low ≤ n && high.all (n ≤ ·)

/-- Ranges in order, of which none touches the next one. -/
def merged (rs : Ranges) : Ranges :=
  let sorted := rs.mergeSort fun a b => a.1 ≤ b.1
  sorted.foldr (fun r others =>
    match others with
    | [] => [r]
    | o :: more =>
      match r.2 with
      | none => [(r.1, none)]
      | some high =>
        if o.1 ≤ high then (r.1, o.2.map (max high)) :: more else r :: others) []

/-- What is not in ranges that are in order. -/
def complement (rs : Ranges) : Ranges :=
  go 1 rs
where
  go (next : Nat) : Ranges → Ranges
  | [] => [(next, none)]
  | (low, high) :: rest =>
    let front := if next < low then [(next, some (low - 1))] else []
    match high with
    | some high => front ++ go (high + 1) rest
    | none => front

/-- A list of ranges as it is written, or what is wrong with it. -/
def read (isFields unicode : Bool) (t : Text) : Except Text Ranges :=
  (go (t.length + 1) t []).map List.reverse
where
  numbered : String :=
    if isFields then "fields are numbered from 1"
    else "byte/character positions are numbered from 1"
  range : String :=
    if isFields then "invalid field range" else "invalid byte or character range"
  value : String := if isFields then "invalid field value " else "invalid byte/character position "
  go : Nat → Text → Ranges → Except Text Ranges
  | 0, _, rs => .ok rs
  | fuel + 1, t, rs => do
    let digits := t.takeWhile Char.isDigit
    let low := Numeral.value digits
    let next (r : Nat × Option Nat) (t : Text) : Except Text Ranges :=
      match t with
      | [] => .ok (r :: rs)
      | _ :: t => go fuel t (r :: rs)
    let ends (t : Text) : Bool := match t with
      | [] => true
      | c :: _ => c = ',' || c = ' ' || c = '\t'
    let wrong (t : Text) : Except Text Ranges := throw (value.toList ++ quote unicode t)
    match t.drop digits.length with
    | '-' :: t =>
      if !digits.isEmpty && low = 0 then throw numbered.toList
      let last := t.takeWhile Char.isDigit
      let rest := t.drop last.length
      let high := Numeral.value last
      let low := if digits.isEmpty then 1 else low
      if rest.head? = some '-' then throw range.toList
      else if !ends rest then wrong rest
      else if last.isEmpty then
        if digits.isEmpty then throw "invalid range with no endpoint: -".toList
        else next (low, none) rest
      else if high < low then throw "invalid decreasing range".toList
      else next (low, some high) rest
    | rest =>
      if !ends rest then wrong rest
      else if low = 0 then throw numbered.toList
      else next (low, some low) rest

end Ranges

def cutOptions : List Known :=
  known [('s', "only-delimited"), ('n', ""), ('z', "zero-terminated"), ('α', "complement")]
    [('b', "bytes"), ('c', "characters"), ('d', "delimiter"), ('f', "fields"),
      ('β', "output-delimiter")]

/-- Parts of a line that are in the same range. -/
def cutParts {α : Type} (rs : Ranges) (items : List α) : List (List α) :=
  rs.filterMap fun (low, high) =>
    let part := match high with
      | some high => (items.take high).drop (low - 1)
      | none => items.drop (low - 1)
    if part.isEmpty then none else some part

def cut (called : Text) (args : List Text) : Act Unit := do
  let (os, operands) ← optionsOr 1 called cutOptions true args
  let lists := os.filter fun o => "bcf".toList.contains o.1
  let mark := if has os 'z' then '\x00' else '\n'
  let refuse {α : Type} (why : String) : Act α := misuse called why.toList 1
  match valueOf? os 'd' with
  | some (_ :: _ :: _) => refuse "the delimiter must be a single character"
  | _ => pure ()
  match lists with
  | [] => refuse "you must specify a list of bytes, characters, or fields"
  | _ :: _ :: _ => refuse "only one list may be specified"
  | [(kind, list)] =>
    let isFields := kind = 'f'
    if has os 'd' && !isFields then
      refuse "an input delimiter may be specified only when operating on fields"
    if has os 's' && !isFields then
      refuse "suppressing non-delimited lines makes sense\n\tonly when operating on fields"
    match Ranges.read isFields (isUnicode (← strand)) list with
    | .error why => misuse called why 1
    | .ok rs =>
      let rs := rs.merged
      let rs := if has os 'α' then rs.complement else rs
      let delimiter := ((valueOf? os 'd').getD ['\t']).headD '\x00'
      let between : Text := (valueOf? os 'β').getD (if isFields then [delimiter] else [])
      overAllLines called mark operands (fun _ l => do
        let (l, _) := withoutMark mark l
        if isFields then
          if !l.contains delimiter then
            if !has os 's' then put (l ++ [mark])
          else
            let parts := (cutParts rs (Text.splitAt delimiter l)).flatten
            put ((parts.intersperse between).flatten ++ [mark])
        else put (((cutParts rs l).intersperse between).flatten ++ [mark])) ()

/-! Side by side -/

/-- The delimiters of a list, in which some are escaped. -/
def delimitersOf : Text → Option (List Text)
  | [] => some []
  | '\\' :: c :: t =>
    let d : Text := match c with
      | '0' => []
      | 'b' => ['\x08']
      | 'f' => ['\x0c']
      | 'n' => ['\n']
      | 'r' => ['\r']
      | 't' => ['\t']
      | 'v' => ['\x0b']
      | c => [c]
    (delimitersOf t).map (d :: ·)
  | ['\\'] => none
  | c :: t => (delimitersOf t).map ([c] :: ·)

/-- Texts with delimiters between them, which are taken in turn. -/
def joinedInTurn (ds : List Text) (ts : List Text) : Text :=
  (ts.zipIdx).flatMap fun (t, i) =>
    if i = 0 || ds.isEmpty then t else ds.getD ((i - 1) % ds.length) [] ++ t

def paste (called : Text) (args : List Text) : Act Unit := do
  let all := known [('s', "serial"), ('z', "zero-terminated")] [('d', "delimiters")]
  let (os, operands) ← optionsOr 1 called all true args
  let mark := if has os 'z' then '\x00' else '\n'
  let list := (valueOf? os 'd').getD ['\t']
  match delimitersOf list with
  | none =>
    die called ("delimiter list ends with an unescaped backslash: ".toList ++
      (← quotedName list)) 1
  | some ds =>
    let paths := orInput operands
    if has os 's' then
      for path in paths do
        withOperand (complainOf called) path () fun d => do
          let ls := piecesOf mark (← (Intake.of d).whole)
          put (joinedInTurn ds ls ++ [mark])
    else
      let sources ← paths.mapM fun path => do
        match ← openOperand path with
        | .error e => die called ((← quotedName path) ++ ": ".toList ++ e.message.toList) 1
        | .ok d =>
          match ← readFault? d with
          | some e =>
            complainOf called path e
            return .nothing
          | none => return d
      -- All operands that stand for the standard input share what was read ahead.
      let place (i : Nat) : Nat :=
        if paths[i]? = some ['-'] then (paths.idxOf? ['-']).getD i else i
      iterate (sources.map Intake.of) fun intakes => do
        let (intakes, fields, isOver) ← (List.range paths.length).foldlM
          (fun (intakes, fields, isOver) i => do
            match intakes[place i]? with
            | none => return (intakes, fields, isOver)
            | some intake =>
              let (l, intake) ← intake.upTo mark
              let field := (l.map fun l => (withoutMark mark l).1).getD []
              return (intakes.set (place i) intake, field :: fields, isOver && l.isNone))
          ((intakes, [], true) : List Intake × List Text × Bool)
        if isOver then return .ok ()
        else
          put (joinedInTurn ds fields.reverse ++ [mark])
          return .error intakes

/-! Widths -/

/-- The columns at which tabs stop. -/
structure Stops where
  listed : List Nat
  /-- Behind those that are listed tabs stop at the multiples of a number, perhaps from the last
  one on. -/
  every : Option Nat
  fromLast : Bool

def Stops.next (s : Stops) (column : Nat) : Option Nat :=
  match s.listed.find? (column < ·) with
  | some n => some n
  | none =>
    match s.every with
    | none => none
    | some n =>
      let base := if s.fromLast then s.listed.getLastD 0 else 0
      some (base + ((column - base) / n + 1) * n)

/-- A list of stops as it is written, or what is wrong with it. -/
def Stops.read (t : Text) : Except Text Stops := do
  let pieces := (Text.splitAt ' ' (t.map fun c => if c = ',' then ' ' else c)).filter
    fun p => !p.isEmpty
  let (sign, pieces) : Option Char × List Text := match pieces.reverse with
    | ('/' :: p) :: before => (some '/', before.reverse ++ [p])
    | ('+' :: p) :: before => (some '+', before.reverse ++ [p])
    | _ => (none, pieces)
  let numbers ← pieces.mapM fun p =>
    if p.all Char.isDigit then .ok (Numeral.value p)
    else throw ("tab size contains invalid character(s): ".toList ++
      quote false (p.dropWhile Char.isDigit))
  if numbers.contains 0 then throw "tab size cannot be 0".toList
  if !(numbers.zip numbers.tail).all fun (a, b) => a < b then
    throw "tab sizes must be ascending".toList
  match sign, numbers with
  | some '/', ns => return ⟨ns.dropLast, ns.getLast?, false⟩
  | some _, ns => return ⟨ns.dropLast, ns.getLast?, true⟩
  | none, [n] => return ⟨[], some n, false⟩
  | none, [] => return ⟨[], some 8, false⟩
  | none, ns => return ⟨ns, none, false⟩

/-- Words that are numbers behind a hyphen are stops. -/
def withStops : List Text → List Text
  | ('-' :: c :: cs) :: rest =>
    if c.isDigit && cs.all fun d => d.isDigit || d = ',' then
      "-t".toList :: (c :: cs) :: withStops rest
    else ('-' :: c :: cs) :: withStops rest
  | w :: rest => w :: withStops rest
  | [] => []

def stopsOf (called : Text) (os : List Given) : Act Stops := do
  let lists := (os.filter fun o => o.1 = 't').map Prod.snd
  match Stops.read (lists.intersperse [',']).flatten with
  | .ok s => return s
  | .error why => die called why 1

/-- Blanks stand for tabs. -/
def expanded (s : Stops) (onlyInitial : Bool) : Nat → Bool → Text → Text
  | _, _, [] => []
  | column, isInitial, c :: t =>
    match c with
    | '\n' => c :: expanded s onlyInitial 0 true t
    | '\t' =>
      if isInitial || !onlyInitial then
        let next := (s.next column).getD (column + 1)
        List.replicate (next - column) ' ' ++ expanded s onlyInitial next isInitial t
      else c :: expanded s onlyInitial column isInitial t
    | '\x08' => c :: expanded s onlyInitial (column - 1) false t
    | c => c :: expanded s onlyInitial (column + 1) (isInitial && c = ' ') t

def expand (called : Text) (args : List Text) : Act Unit := do
  let all := known [('i', "initial")] [('t', "tabs")]
  let (os, operands) ← optionsOr 1 called all true (withStops args)
  let s ← stopsOf called os
  overAllLines called '\n' operands (fun _ l => put (expanded s (has os 'i') 0 true l)) ()

/-- Blanks up to a column where tabs stop become one. -/
def unexpandedLine (s : Stops) (everywhere : Bool) : Nat → Nat → Text → Bool → Text → Text
  | 0, _, blanks, _, t => blanks.reverse ++ t
  | _ + 1, _, blanks, _, [] => blanks.reverse
  | fuel + 1, column, blanks, converts, c :: t =>
    if converts && (c = ' ' || c = '\t') then
      match s.next column with
      | none => blanks.reverse ++ c :: t
      | some next =>
        if c = '\t' then '\t' :: unexpandedLine s everywhere fuel next [] true t
        else if column + 1 = next then
          -- One blank alone stays unless more follow or precede it.
          let kept : Text := if blanks.isEmpty then
            (match t with
              | d :: _ => if d = ' ' || d = '\t' then ['\t'] else [' ']
              | [] => [' ']) else ['\t']
          kept ++ unexpandedLine s everywhere fuel next [] true t
        else unexpandedLine s everywhere fuel (column + 1) (c :: blanks) true t
    else
      let column := if c = '\x08' then column - 1 else column + 1
      blanks.reverse ++ c :: unexpandedLine s everywhere fuel column [] (converts && everywhere) t

def unexpand (called : Text) (args : List Text) : Act Unit := do
  let all := known [('a', "all"), ('α', "first-only")] [('t', "tabs")]
  let (os, operands) ← optionsOr 1 called all true (withStops args)
  let s ← stopsOf called os
  let everywhere := (has os 'a' || has os 't') && !has os 'α'
  overAllLines called '\n' operands
    (fun _ l => put (unexpandedLine s everywhere (l.length + 1) 0 [] true l)) ()

/-! Folding -/

def columnAfter (octets : Bool) (column : Nat) (c : Char) : Nat :=
  if octets then column + 1
  else
    match c with
    | '\x08' => column - 1
    | '\r' => 0
    | '\t' => column + 8 - column % 8
    | _ => column + 1

/-- A line in pieces of a width; with the option for it they end behind blanks. The piece under
construction is backward. -/
def foldedLine (octets atBlanks : Bool) (width : Nat) : Nat → Text → Nat → Text → Text
  | 0, piece, _, t => piece.reverse ++ t
  | _ + 1, piece, _, [] => piece.reverse
  | fuel + 1, piece, column, c :: t =>
    let next := columnAfter octets column c
    if next ≤ width then foldedLine octets atBlanks width fuel (c :: piece) next t
    else
      let behind := piece.takeWhile fun d => d ≠ ' ' && d ≠ '\t'
      if atBlanks && behind.length < piece.length then
        let front := piece.drop behind.length
        let column := behind.reverse.foldl (columnAfter octets) 0
        front.reverse ++ '\n' :: foldedLine octets atBlanks width fuel behind column (c :: t)
      else if piece.isEmpty then foldedLine octets atBlanks width fuel [c] next t
      else piece.reverse ++ '\n' :: foldedLine octets atBlanks width fuel [] 0 (c :: t)

/-- Words that are numbers behind a hyphen tell the width. -/
def withWidth : List Text → List Text
  | ('-' :: cs) :: rest =>
    if Numeral.isNumeral cs then "-w".toList :: cs :: withWidth rest
    else ('-' :: cs) :: withWidth rest
  | w :: rest => w :: withWidth rest
  | [] => []

def fold (called : Text) (args : List Text) : Act Unit := do
  let all := known [('b', "bytes"), ('s', "spaces")] [('w', "width")]
  let (os, operands) ← optionsOr 1 called all true (withWidth args)
  let width ← match valueOf? os 'w' with
    | none => pure 80
    | some t =>
      match Numeral.read? t with
      | some (n + 1) => pure (n + 1)
      | some 0 => die called ("invalid number of columns: ".toList ++ (← quoted t) ++
          ": Numerical result out of range".toList) 1
      | none => die called ("invalid number of columns: ".toList ++ (← quoted t)) 1
  overAllLines called '\n' operands (fun _ l => do
    let (t, hasEnd) := withoutMark '\n' l
    put (foldedLine (has os 'b') (has os 's') width (3 * t.length + 2) [] 0 t)
    if hasEnd then put ['\n']) ()

/-! Comparing sorted files -/

def comm (called : Text) (args : List Text) : Act Unit := do
  let all := known [('1', ""), ('2', ""), ('3', ""), ('z', "zero-terminated"), ('α', "total"),
    ('β', "check-order"), ('γ', "nocheck-order")] [('δ', "output-delimiter")]
  let (os, operands) ← optionsOr 1 called all true args
  let mark := if has os 'z' then '\x00' else '\n'
  let delimiter := match valueOf? os 'δ' with
    | none => ['\t']
    | some [] => ['\x00']
    | some t => t
  match operands with
  | [] => misuse called "missing operand".toList 1
  | [a] => misuse called ("missing operand after ".toList ++ (← quoted a)) 1
  | _ :: _ :: c :: _ => misuse called ("extra operand ".toList ++ (← quoted c)) 1
  | [a, b] =>
    let linesIn (path : Text) : Act (List Text) := do
      match ← openOperand path with
      | .error e => die called ((← quotedName path) ++ ": ".toList ++ e.message.toList) 1
      | .ok d =>
        match ← readFault? d with
        | some e => die called ((← quotedName path) ++ ": ".toList ++ e.message.toList) 1
        | none => return piecesOf mark (← (Intake.of d).whole)
    let first ← linesIn a
    let second ← linesIn b
    let isSorted (ls : List Text) : Bool := (ls.zip ls.tail).all fun (a, b) => a ≤ b
    let front (column : Nat) : Text :=
      ((List.range (column - 1)).flatMap fun i =>
        if has os (Char.ofNat (49 + i)) then [] else delimiter)
    let show_ (column : Nat) (l : Text) : Act Unit := do
      if !has os (Char.ofNat (48 + column)) then put (front column ++ l ++ [mark])
    let (m, n, k) ← iterate (first, second, 0, 0, 0) fun (xs, ys, m, n, k) => do
      match xs, ys with
      | [], [] => return .ok (m, n, k)
      | x :: xs, [] =>
        show_ 1 x
        return .error (xs, [], m + 1, n, k)
      | [], y :: ys =>
        show_ 2 y
        return .error ([], ys, m, n + 1, k)
      | x :: xs, y :: ys =>
        if x = y then
          show_ 3 x
          return .error (xs, ys, m, n, k + 1)
        else if x < y then
          show_ 1 x
          return .error (xs, y :: ys, m + 1, n, k)
        else
          show_ 2 y
          return .error (x :: xs, ys, m, n + 1, k)
    if has os 'α' then
      let counts := [m, n, k].map Numeral.write
      put ((counts.intersperse delimiter).flatten ++ delimiter ++ "total".toList ++ [mark])
    if !has os 'γ' then
      let mut wrong := false
      for (ls, name) in [(first, "1"), (second, "2")] do
        if !isSorted ls then
          warn called ("file ".toList ++ name.toList ++ " is not in sorted order".toList)
          wrong := true
      if wrong then
        if !has os 'β' then warn called "input is not in sorted order".toList
        quit 1

/-! Joining -/

/-- The fields of a line; without a mark between them they are separated by blanks. -/
def fieldsIn (mark : Option Char) (l : Text) : List Text :=
  match mark with
  | some c => Text.splitAt c l
  | none =>
    (Text.splitAt ' ' (l.map fun c => if c = '\t' then ' ' else c)).filter fun f => !f.isEmpty

/-- What is printed of joined lines: fields of the first or the second file, or the common one. -/
abbrev JoinFormat := List (Nat × Nat)

def readJoinFormat (t : Text) : Option JoinFormat :=
  let pieces := (Text.splitAt ' ' (t.map fun c => if c = ',' then ' ' else c)).filter
    fun p => !p.isEmpty
  pieces.mapM fun p =>
    match p with
    | ['0'] => some (0, 0)
    | '1' :: '.' :: n => (Numeral.read? n).map fun n => (1, n)
    | '2' :: '.' :: n => (Numeral.read? n).map fun n => (2, n)
    | _ => none

/-- Lines with the same key at the beginning. -/
def sameKey (key : List Text → Text) : List (List Text) → List (List Text) × List (List Text)
  | [] => ([], [])
  | l :: ls =>
    let isLike (m : List Text) : Bool := key m = key l
    ((l :: ls).takeWhile isLike, (l :: ls).dropWhile isLike)

def join (called : Text) (args : List Text) : Act Unit := do
  let all := known [('i', "ignore-case"), ('z', "zero-terminated"), ('α', "header"),
      ('β', "check-order"), ('γ', "nocheck-order")]
    [('1', ""), ('2', ""), ('j', ""), ('t', ""), ('a', ""), ('v', ""), ('e', ""), ('o', "")]
  let (os, operands) ← optionsOr 1 called all true args
  let lineEnd := if has os 'z' then '\x00' else '\n'
  let mark? := (valueOf? os 't').bind List.head?
  let field (c : Char) : Act Nat := do
    match (valueOf? os c).orElse fun _ => valueOf? os 'j' with
    | none => return 1
    | some t =>
      match Numeral.read? t with
      | some (n + 1) => return n + 1
      | _ => die called ("invalid field number: ".toList ++ (← quoted t)) 1
  let f ← field '1'
  let g ← field '2'
  match operands with
  | [] => misuse called "missing operand".toList 1
  | [a] => misuse called ("missing operand after ".toList ++ (← quoted a)) 1
  | _ :: _ :: c :: _ => misuse called ("extra operand ".toList ++ (← quoted c)) 1
  | [a, b] =>
    let linesIn (path : Text) : Act (List (List Text)) := do
      match ← openOperand path with
      | .error e => die called ((← quotedName path) ++ ": ".toList ++ e.message.toList) 1
      | .ok d => return (piecesOf lineEnd (← (Intake.of d).whole)).map (fieldsIn mark?)
    let first ← linesIn a
    let second ← linesIn b
    let cased (t : Text) : Text := if has os 'i' then t.map Char.toUpper else t
    let key (n : Nat) (fs : List Text) : Text := cased (fs.getD (n - 1) [])
    let missing := (valueOf? os 'e').getD []
    let filled (t : Text) : Text := if t.isEmpty then missing else t
    let formats := (os.filter fun o => o.1 = 'o').map Prod.snd
    let between : Text := [mark?.getD ' ']
    let auto := formats = ["auto".toList]
    let width (ls : List (List Text)) : Nat := (ls.headD []).length
    let format? : Option JoinFormat :=
      if auto then
        let rest (file n count : Nat) : JoinFormat :=
          ((List.range count).filter fun i => i + 1 ≠ n).map fun i => (file, i + 1)
        some ((0, 0) :: rest 1 f (width first) ++ rest 2 g (width second))
      else if formats.isEmpty then none
      else readJoinFormat (formats.intersperse [',']).flatten
    let show_ (x y : Option (List Text)) : Act Unit := do
      let common : Text := match x, y with
        | some x, _ => x.getD (f - 1) []
        | none, some y => y.getD (g - 1) []
        | none, none => []
      let fields : List Text := match format? with
        | some format =>
          format.map fun (file, n) =>
            filled (match file with
              | 0 => common
              | 1 => ((x.bind fun x => x[n - 1]?).getD [])
              | _ => ((y.bind fun y => y[n - 1]?).getD []))
        | none =>
          let others (fs : Option (List Text)) (n : Nat) : List Text :=
            (fs.getD []).eraseIdx (n - 1) |>.map filled
          filled common :: others x f ++ others y g
      put ((fields.intersperse between).flatten ++ [lineEnd])
    let wanted (c : Char) (n : String) : Bool := os.any fun o => o.1 = c && o.2 = n.toList
    let showsPaired := !has os 'v'
    let unpaired1 := wanted 'a' "1" || wanted 'v' "1"
    let unpaired2 := wanted 'a' "2" || wanted 'v' "2"
    let (first, second) ← if has os 'α' then do
        if first.isEmpty && second.isEmpty then pure (first, second)
        else
          show_ (first.head?) (second.head?)
          pure (first.tail, second.tail)
      else pure (first, second)
    iterate (first, second) fun (xs, ys) => do
      match xs, ys with
      | [], [] => return .ok ()
      | x :: xs, [] =>
        if unpaired1 then show_ (some x) none
        return .error (xs, [])
      | [], y :: ys =>
        if unpaired2 then show_ none (some y)
        return .error ([], ys)
      | x :: xs', y :: ys' =>
        if key f x = key g y then
          let (left, xs) := sameKey (key f) xs
          let (right, ys) := sameKey (key g) ys
          if showsPaired then
            for x in left do
              for y in right do
                show_ (some x) (some y)
          return .error (xs, ys)
        else if key f x < key g y then
          if unpaired1 then show_ (some x) none
          return .error (xs', ys)
        else
          if unpaired2 then show_ none (some y)
          return .error (xs, ys')

end RemoteInterpreter.Shell.Tool
