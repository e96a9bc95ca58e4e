import RemoteInterpreter.Shell.Escapes
import RemoteInterpreter.Shell.Tool.Running

/-!
# Gathering arguments

The tool that runs another program with what it has read as arguments.
-/

namespace RemoteInterpreter.Shell.Tool

namespace Gathering

/-- How what is read falls apart. -/
inductive Splitting where
  /-- At blanks that are not quoted. -/
  | words
  /-- At the ends of lines. -/
  | lines
  | mark (c : Char)

/-- A part of what is read, and whether a line ends behind it. -/
structure Portion where
  text : Text
  endsLine : Bool

/-- What is wrong with what is read. -/
def unmatched (q : Char) : Text :=
  "unmatched ".toList ++ (if q = '"' then "double".toList else "single".toList) ++
    " quote; by default quotes are special to xargs unless you use the -0 option".toList

/-- An item up to a blank, or to the end of the line. -/
def item (whole : Bool) : Nat → Text → Text → Except Text (Text × Text)
  | 0, before, t => return (before.reverse, t)
  | fuel + 1, before, t => do
    match t with
    | [] => return (before.reverse, [])
    | '\\' :: c :: rest => item whole fuel (c :: before) rest
    | ['\\'] => return (before.reverse, [])
    | '\n' :: _ => return (before.reverse, t)
    | c :: rest =>
      if c = '"' || c = '\'' then
        let inner := rest.takeWhile fun d => d ≠ c && d ≠ '\n'
        match rest.drop inner.length with
        | d :: behind =>
          if d = c then item whole fuel (inner.reverse ++ before) behind else throw (unmatched c)
        | [] => throw (unmatched c)
      else if !whole && (c = ' ' || c = '\t') then return (before.reverse, t)
      else item whole fuel (c :: before) rest

/-- The items up to the end, or up to the first one that is wrong. A line that ends in a blank goes
on in the next one. -/
def itemsOf (whole : Bool) : Nat → Text → List Portion × Option Text
  | 0, _ => ([], none)
  | fuel + 1, t =>
    let t := t.dropWhile isBlank
    match t with
    | [] => ([], none)
    | t =>
      match item whole (t.length + 1) [] t with
      | .error why => ([], some why)
      | .ok (u, rest) =>
        let blanks := rest.takeWhile fun c => c = ' ' || c = '\t'
        let behind := rest.drop blanks.length
        let ends := behind.head? = some '\n' && (whole || blanks.isEmpty)
        let (more, why) := itemsOf whole fuel rest
        (⟨u, ends || behind.isEmpty⟩ :: more, why)

def Splitting.items (s : Splitting) (t : Text) : List Portion × Option Text :=
  match s with
  | .words => itemsOf false (t.length + 1) t
  | .lines => itemsOf true (t.length + 1) t
  | .mark c => ((piecesOf c t).map fun u => ⟨u, true⟩, none)

/-- How much goes into one call. -/
structure Bounds where
  items : Option Nat
  lines : Option Nat
  size : Nat

/-- Items for one call after the other, given the size of what stands before them. -/
def batches (b : Bounds) (front : Nat) (all : List Portion) : List (List Text) :=
  let (done, batch, _, _) := all.foldl
    (fun ((done, batch, lines, size) : List (List Text) × List Text × Nat × Nat) i =>
      let more := size + i.text.length + 1
      let isFull := b.items.any (· ≤ batch.length) || b.lines.any (· ≤ lines) || b.size < more
      let line := if i.endsLine then 1 else 0
      if isFull && !batch.isEmpty then
        (batch.reverse :: done, [i.text], line, front + i.text.length + 1)
      else (done, i.text :: batch, lines + line, more)) ([], [], 0, front)
  (if batch.isEmpty then done else batch.reverse :: done).reverse

/-- A text in which a sign stands for another text. -/
def replaced (sign new : Text) : Nat → Text → Text
  | 0, t => t
  | _ + 1, [] => []
  | fuel + 1, c :: t =>
    if !sign.isEmpty && sign.isPrefixOf (c :: t) then
      new ++ replaced sign new fuel ((c :: t).drop sign.length)
    else c :: replaced sign new fuel t

/-- The mark between items as it is told. -/
def markOf? (t : Text) : Option Char :=
  match t with
  | [c] => some c
  | '\\' :: 'x' :: digits =>
    if digits.isEmpty || !digits.all (isDigitOf 16) then none else some (octet (valueIn 16 digits))
  | '\\' :: rest =>
    match escape rest with
    | (c, []) => some c
    | _ => none
  | _ => none

end Gathering

open Gathering

def xargs (l : Launcher) (called : Text) (args : List Text) : Act Unit := do
  let all := known [('0', "null"), ('o', "open-tty"), ('p', "interactive"),
      ('r', "no-run-if-empty"), ('t', "verbose"), ('x', "exit")]
    [('a', "arg-file"), ('d', "delimiter"), ('E', ""), ('I', ""), ('L', ""),
      ('n', "max-args"), ('P', "max-procs"), ('s', "max-chars"), ('α', "process-slot-var")] ++
    [⟨'e', "eof", .maybe⟩, ⟨'i', "replace", .maybe⟩, ⟨'l', "max-lines", .maybe⟩]
  let (os, words) ← optionsOr 1 called all false args
  let number (c : Char) (t : Text) (least : Nat) : Act Nat := do
    match Numeral.read? t with
    | none =>
      misuse called ("invalid number \"".toList ++ t ++ "\" for -".toList ++
        c :: " option".toList) 1
    | some n =>
      if n < least then
        misuse called ("value ".toList ++ t ++ " for -".toList ++ c ::
          " option should be >= ".toList ++ Numeral.write least) 1
      else return n
  let counts ← os.mapM fun (c, t) => do
    if c = 'n' || c = 'L' then return (c, ← number c t 1)
    else if c = 'l' then return ('L', ← if t.isEmpty then pure 1 else number c t 1)
    else if c = 's' then return (c, ← number c t 1)
    else if c = 'P' then return (c, ← number c t 0)
    else return (c, 0)
  let name (c : Char) : String :=
    if c = 'n' then "--max-args" else if c = 'L' then "--max-lines" else "--replace/-I/-i"
  let shapes := (os.map Prod.fst).filterMap fun c =>
    if c = 'n' then some 'n' else if c = 'L' || c = 'l' then some 'L'
    else if c = 'I' || c = 'i' then some 'I' else none
  let rec clashes : List Char → List (Char × Char)
    | a :: b :: rest => (if a = b then [] else [(a, b)]) ++ clashes (b :: rest)
    | _ => []
  for (a, b) in clashes shapes do
    if !(a = 'I' && b = 'n' && counts.any fun k => k = ('n', 1)) then
      warn called (("warning: options " ++ name a ++ " and " ++ name b ++
        " are mutually exclusive, ignoring previous " ++
        (if a = 'I' then "--replace" else name a) ++ " value").toList)
  let shape := match shapes.getLast? with
    | some 'n' =>
      if shapes.contains 'I' && counts.any (fun k => k = ('n', 1)) then some 'I' else some 'n'
    | s => s
  let mark ← match lastOf? os ['0', 'd'] with
    | some 'd' =>
      let t := (valueOf? os 'd').getD []
      match markOf? t with
      | some c => pure (some c)
      | none =>
        die called ("Invalid input delimiter specification ".toList ++ t ++
          (": the delimiter must be either a single character or an escape sequence " ++
            "starting with \\.").toList) 1
    | some _ => pure (some '\x00')
    | none => pure none
  let sign := match valueOf? os 'I', valueOf? os 'i' with
    | some t, _ => t
    | none, some t => if t.isEmpty then ['\x7b', '\x7d'] else t
    | none, none => []
  let replaces := shape = some 'I'
  let splitting : Splitting := match mark with
    | some c => .mark c
    | none => if replaces then .lines else .words
  let d ← match valueOf? os 'a' with
    | some path =>
      match ← openForReading path with
      | .ok d => pure d
      | .error e =>
        die called ("Cannot open input file ".toList ++ (← quoted path) ++ ": ".toList ++
          e.message.toList) 1
    | none => pure (((← strand).descriptor? 0).getD .nothing)
  let t ← (Intake.of d).whole
  let (items, why) := splitting.items t
  let items : List Portion := match valueOf? os 'E' with
    | some word => items.takeWhile fun i => i.text ≠ word
    | none => items
  if mark.isNone && t.contains '\x00' then
    warn called (("WARNING: a NUL character occurred in the input.  It cannot be passed " ++
      "through in the argument list.  Did you mean to use the --null option?").toList)
  let items := items.map fun (i : Portion) => { i with text := i.text.takeWhile (· ≠ '\x00') }
  let words := if words.isEmpty then ["echo".toList] else words
  let front := (words.map fun w => w.length + 1).sum
  let count (c : Char) : Option Nat := (counts.filter fun k => k.1 = c).getLast?.map Prod.snd
  let bounds : Bounds :=
    { items := if shape = some 'n' then count 'n' else none
      lines := if shape = some 'L' then count 'L' else none
      size := (count 's').getD 131072 }
  let calls := if replaces then
      items.map fun i => words.map fun w => replaced sign i.text (w.length + 1) w
    else
      let bs := batches bounds front items
      let bs := if bs.isEmpty && !has os 'r' && why.isNone then [[]] else bs
      bs.map (words ++ ·)
  let unicode := isUnicode (← strand)
  let failed ← calls.foldlM (fun failed call => do
    match call with
    | [] => return failed
    | program :: rest =>
      flush
      if has os 't' then
        writeError (((call.map (quoteIfNeeded unicode)).intersperse [' ']).flatten ++ ['\n'])
      let prepare (s : Strand) : Strand :=
        if has os 'a' then s else s.setDescriptor 0 (some .nothing)
      match ← launch l prepare program rest with
      | .error e =>
        die called (program ++ ": ".toList ++ e.message.toList) (failureStatus e)
      | .ok o =>
        match o.status with
        | none => starve
        | some status =>
          reach o.clock
          match o.signal with
          | some n =>
            die called (program ++ ": terminated by signal ".toList ++ Numeral.write n) 125
          | none =>
            if status = 255 then
              die called (program ++ ": exited with status 255; aborting".toList) 124
            else return failed || status ≠ 0) false
  match why with
  | some why => die called why 1
  | none => setStatus (if failed then 123 else 0)

end RemoteInterpreter.Shell.Tool
