import RemoteInterpreter.Shell.Tool.Intake

/-!
# Blocks and parts

Tools that copy a text block by block, that cut it into files, and that mix its lines.
-/

namespace RemoteInterpreter.Shell.Tool

/-! Blocks -/

/-- What is told to the tool that copies blocks. -/
structure BlockWishes where
  source : Option Text
  target : Option Text
  inSize : Nat
  outSize : Nat
  count : Option Nat
  skip : Nat
  seek : Nat
  /-- How long records are that lines are made of. -/
  recordSize : Nat
  conversions : List Text
  status : Text

def blockSuffixes : List (String × Nat) := ("c", 1) :: ("w", 2) :: ("b", 512) :: ("k", 1024) ::
  ("kB", 1000) :: powerSuffixes

/-- A size, perhaps a product. -/
def blockNumber? (t : Text) : Option Nat :=
  (Text.splitAt 'x' t).foldl (fun n part =>
    match n, (if part.head?.any Char.isDigit then scaled? blockSuffixes part else none) with
    | some n, some m => some (n * m)
    | _, _ => none) (some 1)

def knownConversions : List String :=
  ["ascii", "ebcdic", "ibm", "block", "unblock", "lcase", "ucase", "sparse", "swab", "sync", "excl",
   "nocreat", "notrunc", "noerror", "fdatasync", "fsync"]

def blockWish (called : Text) (w : BlockWishes) (t : Text) : Act BlockWishes := do
  match Text.cut? '=' t with
  | none => misuse called ("unrecognized operand ".toList ++ (← quoted t)) 1
  | some (name, value) =>
    let number : Act Nat := do
      match blockNumber? value with
      | some n => return n
      | none => die called ("invalid number: ".toList ++ (← quoted value)) 1
    let positive : Act Nat := do
      let n ← number
      if n = 0 then die called ("invalid number: ".toList ++ (← quoted value)) 1 else return n
    match Text.str name with
    | "if" => return { w with source := some value }
    | "of" => return { w with target := some value }
    | "bs" =>
      let n ← positive
      return { w with inSize := n, outSize := n }
    | "ibs" => return { w with inSize := ← positive }
    | "obs" => return { w with outSize := ← positive }
    | "cbs" => return { w with recordSize := ← positive }
    | "count" => return { w with count := some (← number) }
    | "skip" | "iseek" => return { w with skip := ← number }
    | "seek" | "oseek" => return { w with seek := ← number }
    | "conv" =>
      let names := Text.splitAt ',' value
      match names.find? fun n => !knownConversions.contains (Text.str n) with
      | some n => misuse called ("invalid conversion: ".toList ++ (← quoted n)) 1
      | none => return { w with conversions := names }
    | "status" => return { w with status := value }
    | "iflag" | "oflag" => return w
    | _ => misuse called ("unrecognized operand ".toList ++ (← quoted t)) 1

/-- Lines as records of a size. -/
def blocked (size : Nat) (t : Text) : Text :=
  (piecesOf '\n' t).flatMap fun l => (padRight size l).take size

/-- Records of a size as lines. -/
def unblocked (size : Nat) : Nat → Text → Text
  | 0, _ | _ + 1, [] => []
  | fuel + 1, t =>
    ((t.take size).reverse.dropWhile (· = ' ')).reverse ++ '\n' :: unblocked size fuel (t.drop size)

/-- Every two octets change their places. -/
def swapped : Text → Text
  | a :: b :: t => b :: a :: swapped t
  | t => t

def dd (called : Text) (args : List Text) : Act Unit := do
  let (_, args) ← optionsOr 1 called [] true args
  let w ← args.foldlM (blockWish called) ⟨none, none, 512, 512, none, 0, 0, 0, [], []⟩
  let has_ (name : String) : Bool := w.conversions.contains name.toList
  let fails {α : Type} (path : Text) (e : Filesystem.Fault) : Act α := do
    die called ("failed to open ".toList ++ (← quotedFully path) ++ ": ".toList ++
      e.message.toList) 1
  let source ← match w.source with
    | none => pure (((← strand).descriptor? 0).getD .nothing)
    | some path =>
      match ← openForReading path with
      | .ok d => pure d
      | .error e => fails path e
  let target ← match w.target with
    | none => pure ((← strand).descriptor? 1)
    | some path =>
      match ← openForWriting ⟨false, !has_ "notrunc", false, false⟩ path with
      | .ok d => pure (some d)
      | .error (.path e) => fails path e
      | .error .exists => fails path .missing
  if 0 < w.seek then
    match target with
    | some (.file n) =>
      changeWorld fun world =>
        { world with opened := world.opened.modify n fun o =>
            { o with offset := w.seek * w.outSize, ahead := none } }
    | _ => pure ()
  iterate 0 fun (n : Nat) => do
    if w.skip ≤ n then return .ok ()
    else
      let t ← readBlock source w.inSize
      if t.isEmpty then return .ok () else return .error (n + 1)
  let converted (t : Text) : Text :=
    let t := if has_ "swab" then swapped t else t
    let t := if has_ "ucase" then t.map Char.toUpper else t
    let t := if has_ "lcase" then t.map Char.toLower else t
    if has_ "sync" then t ++ List.replicate (w.inSize - t.length) '\x00' else t
  /- Records may lie in several blocks: they are put out at the end. -/
  let ofRecords (t : Text) : Text :=
    if w.recordSize = 0 then t
    else if has_ "block" then blocked w.recordSize t
    else if has_ "unblock" then unblocked w.recordSize (t.length + 1) t
    else t
  let waits := 0 < w.recordSize && (has_ "block" || has_ "unblock")
  let put_ (t : Text) : Act Unit := do
    let _ ← writeTo target t
  let start : Nat × Nat × Nat × List Text := (0, 0, 0, [])
  let (full, part, size, waiting) ← iterate start fun (full, part, size, waiting) => do
    if w.count.any (· ≤ full + part) then return .ok (full, part, size, waiting)
    else
      let t ← readBlock source w.inSize
      if t.isEmpty then return .ok (full, part, size, waiting)
      else
        let u := converted t
        if !waits then put_ u
        let size := size + u.length
        let waiting := if waits then u :: waiting else []
        return .error (if t.length = w.inSize then (full + 1, part, size, waiting)
          else (full, part + 1, size, waiting))
  if waits then put_ (ofRecords waiting.reverse.flatten)
  if w.status ≠ "none".toList then
    let records (a b : Nat) : Text := Numeral.write a ++ '+' :: Numeral.write b
    let out := if w.inSize = w.outSize then records full part
      else records (size / w.outSize) (if size % w.outSize = 0 then 0 else 1)
    writeError (records full part ++ " records in\n".toList ++ out ++ " records out\n".toList)
    if w.status ≠ "noxfer".toList then
      writeError (Numeral.write size ++ " bytes copied, 1e-05 s, 0.0 kB/s\n".toList)

/-! Parts -/

/-- A number of some length in digits. -/
def digitsOf (digits : Text) (length n : Nat) : Text :=
  let base := max 2 digits.length
  (List.range length).reverse.map fun k => digits.getD (n / base ^ k % base) 'a'

/-- The name of a part whose length is not told: the last digit at the front makes it longer. -/
def growingName (digits : Text) : Nat → Nat → Nat → Text
  | 0, _, _ => []
  | fuel + 1, level, n =>
    let base := digits.length
    let count := (base - 1) * base ^ (1 + level)
    if n < count then
      List.replicate level (digits.getLastD 'z') ++ digitsOf digits (2 + level) n
    else growingName digits fuel (level + 1) (n - count)

/-- Lines in groups of a size. -/
def linesInGroups (size : Nat) : Nat → List Text → List Text
  | 0, _ | _ + 1, [] => []
  | fuel + 1, ls => (ls.take size).flatten :: linesInGroups size fuel (ls.drop size)

/-- Lines with their ends. -/
def linesWithEnds (mark : Char) : Nat → Text → List Text
  | 0, _ | _ + 1, [] => []
  | fuel + 1, t =>
    let l := t.takeWhile (· ≠ mark)
    let l := t.take (l.length + 1)
    l :: linesWithEnds mark fuel (t.drop l.length)

def blocksOf (size : Nat) : Nat → Text → List Text
  | 0, _ | _ + 1, [] => []
  | fuel + 1, t => t.take size :: blocksOf size fuel (t.drop size)

/-- As many lines as there is room for; a line for which there is none is cut. -/
def linesInBlocks (size : Nat) : Text → List Text → List Text
  | before, [] => if before.isEmpty then [] else [before]
  | before, l :: ls =>
    if before.length + l.length ≤ size then linesInBlocks size (before ++ l) ls
    else
      let cut := blocksOf size (l.length + 1) l
      (if before.isEmpty then [] else [before]) ++ cut.dropLast ++
        linesInBlocks size (cut.getLastD []) ls

/-- Where a part begins of as many parts that are as long as can be. -/
def partStart (length count k : Nat) : Nat := length / count * k + min k (length % count)

/-- Parts of about the same length. -/
def evenParts (t : Text) (count : Nat) : List Text :=
  (List.range count).map fun k =>
    let start := partStart t.length count k
    (t.drop start).take (partStart t.length count (k + 1) - start)

/-- A line belongs to the part that it begins in. -/
def evenLines (mark : Char) (t : Text) (count : Nat) : List Text :=
  let ls := linesWithEnds mark (t.length + 1) t
  let starts := (ls.foldl (fun (at_, found) l => (at_ + l.length, at_ :: found))
    ((0, []) : Nat × List Nat)).2.reverse
  (List.range count).map fun k =>
    ((ls.zip starts).filter fun (_, n) =>
      partStart t.length count k ≤ n && n < partStart t.length count (k + 1)).flatMap Prod.fst

/-- The lines go round. -/
def lineRounds (mark : Char) (t : Text) (count : Nat) : List Text :=
  let ls := (linesWithEnds mark (t.length + 1) t).zipIdx
  (List.range count).map fun k => (ls.filter fun l => l.2 % count = k).flatMap Prod.fst

/-- How a text is cut. -/
inductive Cut where
  | lines (count : Nat)
  | octets (size : Nat)
  | lineOctets (size : Nat)
  /-- A number of parts, of which perhaps one is wanted. -/
  | parts (cut : Char → Text → Nat → List Text) (count : Nat) (wanted : Option Nat)

def Cut.partsOf (c : Cut) (mark : Char) (t : Text) : List Text :=
  match c with
  | .lines n =>
    let ls := linesWithEnds mark (t.length + 1) t
    linesInGroups n (ls.length + 1) ls
  | .octets n => blocksOf n (t.length + 1) t
  | .lineOctets n => linesInBlocks n [] (linesWithEnds mark (t.length + 1) t)
  | .parts cut n _ => cut mark t n

/-- A number of parts as it is told. -/
def partsTold (called t : Text) : Act Cut := do
  let (way, rest) : (Char → Text → Nat → List Text) × Text := match t with
    | 'l' :: '/' :: rest => (evenLines, rest)
    | 'r' :: '/' :: rest => (lineRounds, rest)
    | t => (fun _ => evenParts, t)
  let wrong {α : Type} (what : String) (t : Text) : Act α := do
    die called (what.toList ++ ": ".toList ++ (← quoted t)) 1
  match Text.cut? '/' rest with
  | some (k, n) =>
    match (Numeral.read? n).filter (0 < ·) with
    | none => wrong "invalid number of chunks" n
    | some count =>
      match Numeral.read? k with
      | some part =>
        if 0 < part && part ≤ count then return .parts way count (some part)
        else wrong "invalid chunk number" k
      | none => wrong "invalid number of chunks" rest
  | none =>
    match (Numeral.read? rest).filter (0 < ·) with
    | none => wrong "invalid number of chunks" rest
    | some count => return .parts way count none

def split (l : Launcher) (called : Text) (args : List Text) : Act Unit := do
  let all := known [('d', ""), ('x', ""), ('e', "elide-empty-files"), ('u', "unbuffered"),
      ('v', "verbose")] [('a', "suffix-length"), ('b', "bytes"), ('C', "line-bytes"),
      ('l', "lines"), ('n', "number"), ('t', "separator"), ('α', "additional-suffix"),
      ('β', "filter")] ++
    [⟨'δ', "numeric-suffixes", .maybe⟩, ⟨'ε', "hex-suffixes", .maybe⟩, ⟨'v', "verbose", .nothing⟩]
  /- Digits count lines. -/
  let args := args.flatMap fun t =>
    let letters := t.tail.takeWhile fun c => "dexuv".toList.contains c
    let digits := t.tail.drop letters.length
    if t.head? = some '-' && !digits.isEmpty && digits.all Char.isDigit then
      [t.take (letters.length + 1), "-l".toList, digits].filter (· ≠ ['-'])
    else [t]
  let (os, words) ← optionsOr 1 called all true args
  let number (what : String) (t : Text) : Act Nat := do
    let n? := if t.head?.any Char.isDigit then scaled? sizeSuffixes t else none
    match n?.filter (0 < ·) with
    | some n => return n
    | none => die called (what.toList ++ ": ".toList ++ (← quoted t)) 1
  let cuts ← (os.filter fun o => "bCln".toList.contains o.1).foldlM (fun cuts (c, t) => do
    if !cuts.isEmpty then misuse called "cannot split in more than one way".toList 1
    match c with
    | 'b' => return [Cut.octets (← number "invalid number of bytes" t)]
    | 'C' => return [Cut.lineOctets (← number "invalid number of lines" t)]
    | 'n' => return [← partsTold called t]
    | _ => return [Cut.lines (← number "invalid number of lines" t)]) []
  let suffix := (valueOf? os 'α').getD []
  if suffix.contains '/' then
    misuse called ("invalid suffix ".toList ++ (← quoted suffix) ++
      ", contains directory separator".toList) 1
  let told ← (valueOf? os 'a').mapM fun t => do
    match Numeral.read? t with
    | some n => return n
    | none => die called ("invalid suffix length: ".toList ++ (← quoted t)) 1
  let mark ← match valueOf? os 't' with
    | none => pure '\n'
    | some [c] => pure c
    | some ['\\', '0'] => pure '\x00'
    | some [] => die called "empty record separator".toList 1
    | some t => die called ("multi-character separator ".toList ++ (← quoted t)) 1
  if 2 < words.length then misuse called ("extra operand ".toList ++ (← quoted (words.getD 2 []))) 1
  let path := words.headD ['-']
  let front := words.getD 1 ['x']
  let cut := cuts.headD (.lines 1000)
  let t ← match ← openOperand path with
    | .error e =>
      die called ("cannot open ".toList ++ (← quotedFully path) ++ " for reading: ".toList ++
        e.message.toList) 1
    | .ok d => (Intake.of d).whole
  let parts := cut.partsOf mark t
  let isNumeric := has os 'd' || has os 'δ'
  let isHex := has os 'x' || has os 'ε'
  let digits : Text := if isNumeric then "0123456789".toList
    else if isHex then "0123456789abcdef".toList
    else "abcdefghijklmnopqrstuvwxyz".toList
  let base := digits.length
  let first := ((valueOf? os (if isNumeric then 'δ' else 'ε')).map (valueIn base)).getD 0
  let length : Option Nat := match told.filter (0 < ·), cut with
    | some n, _ => some n
    | none, .parts _ count _ =>
      (List.range 64).find? fun n => 2 ≤ n && count + first ≤ base ^ n
    | none, _ => if 0 < first then some 2 else none
  let nameOf (n : Nat) : Option Text := match length with
    | some k => if n < base ^ k then some (digitsOf digits k n) else none
    | none => some (growingName digits 64 0 n)
  match cut with
  | .parts _ _ (some k) => put (parts.getD (k - 1) [])
  | _ =>
    for (part, n) in (parts.filter fun p => !(has os 'e' && p.isEmpty)).zipIdx first do
      match nameOf n with
      | none => die called "output file suffixes exhausted".toList 1
      | some name =>
        let name := front ++ name ++ suffix
        match valueOf? os 'β' with
        | some command =>
          if has os 'v' then putLine ("executing with FILE=".toList ++ (← quotedName name))
          flush
          let d ← openText part
          match ← launch l (fun s =>
              (s.setDescriptor 0 (some d)).putVariable "FILE".toList
                { Variable.unset with value := some name, isExported := true }) "/bin/sh".toList
              ["-c".toList, command] with
          | .error _ => pure ()
          | .ok o =>
            if o.status.isNone then starve
            reach o.clock
            if 0 < o.status.getD 0 then
              die called ("with FILE=".toList ++ (← quotedName name) ++ ", exit ".toList ++
                Numeral.write (o.status.getD 0) ++ " from command: ".toList ++ command)
                (o.status.getD 0)
        | none =>
          if has os 'v' then putLine ("creating file ".toList ++ (← quotedFully name))
          match ← openForWriting ⟨false, true, false, false⟩ name with
          | .ok d =>
            let _ ← writeTo (some d) part
          | .error (.path e) =>
            die called ((← quotedName name) ++ ": ".toList ++ e.message.toList) 1
          | .error .exists => pure ()

/-! Mixtures -/

/-- Another order of a list, which a number chooses. -/
def mixed {α : Type} : Nat → Nat → List α → List α
  | 0, _, xs => xs
  | fuel + 1, seed, xs =>
    let next := (seed * 6364136223846793005 + 1442695040888963407) % 2 ^ 64
    match xs.drop (next / 2 ^ 33 % max 1 xs.length) with
    | [] => []
    | x :: behind =>
      x :: mixed fuel next (xs.take (xs.length - behind.length - 1) ++ behind)

def shuf (called : Text) (args : List Text) : Act Unit := do
  let all := known [('e', "echo"), ('r', "repeat"), ('z', "zero-terminated")]
    [('i', "input-range"), ('n', "head-count"), ('o', "output"), ('α', "random-source")]
  let (os, words) ← optionsOr 1 called all true args
  let mark := if has os 'z' then '\x00' else '\n'
  let extraOperand {α : Type} (t : Text) : Act α := do
    misuse called ("extra operand ".toList ++ (← quoted t)) 1
  let counts ← (os.filter fun o => o.1 = 'n').mapM fun (_, t) => do
    match Numeral.read? t with
    | some n => return n
    | none => die called ("invalid line count: ".toList ++ (← quoted t)) 1
  let count := counts.foldl (fun (least : Option Nat) n => some (min n (least.getD n))) none
  let range ← (valueOf? os 'i').mapM fun t => do
    let ends := (Text.cut? '-' t).bind fun (a, b) =>
      (Numeral.read? a).bind fun a => (Numeral.read? b).map fun b => (a, b)
    match ends.filter fun (a, b) => a ≤ b + 1 with
    | some (a, b) => return (List.range (b + 1 - a)).map fun k => Numeral.write (a + k)
    | none => die called ("invalid input range: ".toList ++ (← quoted t)) 1
  if has os 'e' && range.isSome then
    misuse called "cannot combine -e and -i options".toList 1
  let items : List Text ← match range, words with
    | some items, [] => pure items
    | some _, extra :: _ => extraOperand extra
    | none, words =>
      if has os 'e' then pure words
      else
        match words with
        | _ :: extra :: _ => extraOperand extra
        | words =>
          match ← openOperand (words.headD ['-']) with
          | .error e =>
            die called ((← quotedName (words.headD [])) ++ ": ".toList ++ e.message.toList) 1
          | .ok d => do
            let t ← (Intake.of d).whole
            pure (piecesOf mark t)
  let seed := (← strand).clock + items.length
  let put_ ← match valueOf? os 'o' with
    | none => pure put
    | some path =>
      match ← openForWriting ⟨false, true, false, false⟩ path with
      | .ok d => pure fun t => do
        let _ ← writeTo (some d) t
      | .error (.path e) => die called ((← quotedName path) ++ ": ".toList ++ e.message.toList) 1
      | .error .exists => pure put
  if has os 'r' then
    if items.isEmpty && count ≠ some 0 then die called "no lines to repeat".toList 1
    iterate (0, seed) fun ((n, seed) : Nat × Nat) => do
      if count.any (· ≤ n) then return .ok ()
      else
        let next := (seed * 6364136223846793005 + 1442695040888963407) % 2 ^ 64
        put_ (items.getD (next / 2 ^ 33 % max 1 items.length) [] ++ [mark])
        return .error (n + 1, next)
  else
    for t in (mixed items.length seed items).take (count.getD items.length) do
      put_ (t ++ [mark])

end RemoteInterpreter.Shell.Tool
