import RemoteInterpreter.Binary64.Shortest
import RemoteInterpreter.Shell.Tool.Digest
import RemoteInterpreter.Shell.Tool.Intake

/-!
# Dumping

Tools that show octets by numbers, by letters, or by a digest of them all.
-/

namespace RemoteInterpreter.Shell.Tool

/-! Numbers -/

namespace Dumping

/-- How octets are shown. -/
inductive Shape where
  /-- Numbers of so many octets in a base, with a sign or without. -/
  | number (size base : Nat) (isSigned : Bool)
  | characters
  | names
  deriving DecidableEq

structure Form where
  shape : Shape
  /-- The characters stand behind the line. -/
  hasText : Bool

def Shape.size : Shape → Nat
  | .number n _ _ => n
  | _ => 1

/-- How many characters the widest number takes. -/
def Shape.width : Shape → Nat
  | .number n 8 _ => (8 * n + 2) / 3
  | .number n 16 _ => 2 * n
  | .number n _ isSigned =>
    let digits := (Numeral.write (2 ^ (8 * n) - 1)).length
    if isSigned then (Numeral.write (2 ^ (8 * n - 1))).length + 1 else digits
  | _ => 3

def controlNames : List String :=
  ["nul", "soh", "stx", "etx", "eot", "enq", "ack", "bel", "bs", "ht", "nl", "vt", "ff", "cr",
   "so", "si", "dle", "dc1", "dc2", "dc3", "dc4", "nak", "syn", "etb", "can", "em", "sub", "esc",
   "fs", "gs", "rs", "us", "sp"]

def threeOctal (c : Char) : Text := (octal c).drop 1

def Shape.show (s : Shape) (t : Text) : Text :=
  match s with
  | .number size base isSigned =>
    let n := Digest.littleWord (Digest.octetsOf t)
    let digits := Nat.toDigits base n
    if base = 10 then
      if isSigned && 2 ^ (8 * size - 1) ≤ n then Numeral.writeInt ((n : Int) - 2 ^ (8 * size))
      else digits
    else List.replicate (s.width - digits.length) '0' ++ digits
  | .characters =>
    match t with
    | [c] =>
      if ' ' ≤ c && c ≤ '~' then [c]
      else if c = '\x00' then ['\\', '0']
      else
        match escapedChar [c] with
        | ['\\', e] => ['\\', e]
        | _ => threeOctal c
    | _ => []
  | .names =>
    match t with
    | [c] =>
      let n := c.toNat % 128
      if n = 127 then "del".toList
      else match controlNames[n]? with
        | some name => name.toList
        | none => [Char.ofNat n]
    | _ => []

/-- The sizes that letters name. -/
def sizeLetter? (c : Char) : Option Nat :=
  match c with
  | 'C' => some 1
  | 'S' => some 2
  | 'I' => some 4
  | 'L' => some 8
  | _ => none

/-- The forms that a text tells, or what is wrong with it. -/
def forms (unicode : Bool) (whole : Text) : Nat → Text → Except Text (List Form)
  | 0, _ | _ + 1, [] => return []
  | fuel + 1, c :: rest => do
    let also (s : Shape) (rest : Text) : Except Text (List Form) := do
      let (hasText, rest) : Bool × Text := match rest with
        | 'z' :: rest => (true, rest)
        | rest => (false, rest)
      return ⟨s, hasText⟩ :: (← forms unicode whole fuel rest)
    let sized (base : Nat) (isSigned : Bool) : Except Text (List Form) := do
      match rest.head?.bind sizeLetter? with
      | some n => also (.number n base isSigned) (rest.drop 1)
      | none =>
        let digits := rest.takeWhile Char.isDigit
        let n := if digits.isEmpty then 4 else Numeral.value digits
        if [1, 2, 4, 8].contains n then also (.number n base isSigned) (rest.drop digits.length)
        else
          throw ("invalid type string ".toList ++ quote unicode whole ++
            ";\nthis system doesn't provide a ".toList ++ Numeral.write n ++
            "-byte integral type".toList)
    match c with
    | 'a' => also .names rest
    | 'c' => also .characters rest
    | 'd' => sized 10 true
    | 'o' => sized 8 false
    | 'u' => sized 10 false
    | 'x' => sized 16 false
    | c =>
      throw ("invalid character '".toList ++ c :: "' in type string ".toList ++
        quote unicode whole)

/-- The form that an old option stands for. -/
def oldForm? (c : Char) : Option Form :=
  match c with
  | 'a' => some ⟨.names, false⟩
  | 'b' => some ⟨.number 1 8 false, false⟩
  | 'c' => some ⟨.characters, false⟩
  | 'd' => some ⟨.number 2 10 false, false⟩
  | 'h' | 'x' => some ⟨.number 2 16 false, false⟩
  | 'i' => some ⟨.number 4 10 true, false⟩
  | 'l' => some ⟨.number 8 10 true, false⟩
  | 'o' | 'B' => some ⟨.number 2 8 false, false⟩
  | 's' => some ⟨.number 2 10 true, false⟩
  | _ => none

/-- One line of a form. Fields are spread over the width that the widest form takes. -/
def Form.line (f : Form) (perLine width : Nat) (t : Text) : Text :=
  let size := f.shape.size
  let fields := perLine / size
  let pad := width - fields * f.shape.width
  let shown := (Digest.chunks size (t.length + 1) t).zipIdx.flatMap fun (u, i) =>
    let left := pad * (fields - i) / fields - pad * (fields - i - 1) / fields
    let u := u ++ List.replicate (size - u.length) '\x00'
    padLeft (left + f.shape.width) (f.shape.show u)
  if f.hasText then
    let text := t.map fun c => if ' ' ≤ c && c ≤ '~' then c else '.'
    padRight width shown ++ "  >".toList ++ text ++ ['<']
  else shown

/-- A place in what is dumped. Without a base none is shown. -/
def address (base : Option Nat) (n : Nat) : Text :=
  match base with
  | none => []
  | some b =>
    let digits := Nat.toDigits b n
    List.replicate ((if b = 16 then 6 else 7) - digits.length) '0' ++ digits

structure Plan where
  forms : List Form
  base : Option Nat
  perLine : Nat
  showsAll : Bool

def Plan.width (p : Plan) : Nat :=
  (p.forms.map fun f => (f.shape.width + 1) * (p.perLine / f.shape.size)).foldl max 0

def Plan.block (p : Plan) (at_ : Nat) (t : Text) : Text :=
  (p.forms.zipIdx.map fun (f, i) =>
    let front := if i = 0 then address p.base at_
      else List.replicate (address p.base at_).length ' '
    front ++ f.line p.perLine p.width t ++ ['\n']).flatten

/-- Lines of a dump. Of full lines that repeat the one before only a sign is shown. -/
def Plan.dump (p : Plan) : Nat → Nat → Option Text → Bool → Text → List Text
  | 0, _, _, _, _ => []
  | fuel + 1, n, last, isRepeated, t =>
    match t with
    | [] => if p.base.isSome then [address p.base n ++ ['\n']] else []
    | t =>
      let line := t.take p.perLine
      let rest := t.drop p.perLine
      let isFull := line.length = p.perLine
      if !p.showsAll && isFull && last = some line then
        let more := p.dump fuel (n + line.length) last true rest
        if isRepeated then more else ['*', '\n'] :: more
      else p.block n line :: p.dump fuel (n + line.length) (some line) false rest

/-- A number of octets as it is told. -/
def amount? (t : Text) : Option Nat :=
  let (digits, behind) := match naturalAhead? true t with
    | some (n, behind) => (some n, behind)
    | none => (none, t)
  let all := ("", 1) :: sizeSuffixes
  digits.bind fun n => (all.find? fun s => s.1.toList = behind).map fun s => n * s.2

end Dumping

open Dumping

def od (called : Text) (args : List Text) : Act Unit := do
  let bare := "abcdhiloxBsv".toList.filter (· ≠ 'v')
  let all := known ((bare.map fun c => (c, "")) ++ [('v', "output-duplicates"),
      ('α', "traditional")])
    [('A', "address-radix"), ('j', "skip-bytes"), ('N', "read-bytes"), ('t', "format"),
      ('β', "endian")] ++ [⟨'w', "width", .maybe⟩, ⟨'S', "strings", .maybe⟩]
  let (os, operands) ← optionsOr 1 called all true args
  let unicode := isUnicode (← strand)
  let base ← match valueOf? os 'A' with
    | none => pure (some 8)
    | some t =>
      match t with
      | ['d'] => pure (some 10)
      | ['o'] => pure (some 8)
      | ['x'] => pure (some 16)
      | ['n'] => pure none
      | c :: _ =>
        die called ("invalid output address radix '".toList ++ c ::
          "'; it must be one character from [doxn]".toList) 1
      | [] =>
        die called "invalid output address radix ''; it must be one character from [doxn]".toList 1
  let fs ← os.mapM fun (c, t) => do
    if c = 't' then
      match forms unicode t (t.length + 1) t with
      | .ok fs => return fs
      | .error why => die called why 1
    else return (oldForm? c).toList
  let fs := if fs.flatten.isEmpty then [⟨.number 2 8 false, false⟩] else fs.flatten
  let number (c : Char) : Act (Option Nat) := do
    match valueOf? os c with
    | none => return none
    | some t =>
      match amount? t with
      | some n => return some n
      | none => die called ("invalid -".toList ++ c :: " argument ".toList ++ (← quoted t)) 1
  let skip ← number 'j'
  let most ← number 'N'
  let unit := (fs.map fun f => f.shape.size).foldl Nat.lcm 1
  let perLine ← match valueOf? os 'w' with
    | none => pure (if unit < 16 then 16 / unit * unit else unit)
    | some [] => pure 32
    | some t =>
      match amount? t with
      | some n =>
        if n % unit = 0 && 0 < n then pure n
        else
          warn called ("warning: invalid width ".toList ++ Numeral.write n ++ "; using ".toList ++
            Numeral.write unit ++ " instead".toList)
          pure unit
      | none => die called ("invalid -w argument ".toList ++ (← quoted t)) 1
  let operands := match operands with
    | ('+' :: _) :: rest => rest
    | os => os
  let parts ← (orInput operands).mapM fun path => do
    match ← openOperand path with
    | .error e =>
      complainOf called path e
      return none
    | .ok d =>
      match ← readFault? d with
      | some e =>
        complainOf called path e
        return some []
      | none => return some (← (Intake.of d).whole)
  if parts.all Option.isNone then quit 1
  let t := parts.flatMap fun t => t.getD []
  let skipped := skip.getD 0
  if t.length < skipped then die called "cannot skip past end of combined input".toList 1
  let t := t.drop skipped
  let t := match most with
    | some n => t.take n
    | none => t
  let p : Plan := ⟨fs, base, perLine, has os 'v'⟩
  for l in p.dump (t.length + 2) skipped none false t do
    put l

/-! Letters -/

/-- How octets are written by letters: so many bits to a letter. -/
structure Lettering where
  alphabet : List Char
  bits : Nat
  /-- How many letters belong together. -/
  group : Nat

def sixtyFour : Lettering :=
  ⟨"ABCDEFGHIJKLMNOPQRSTUVWXYZabcdefghijklmnopqrstuvwxyz0123456789+/".toList, 6, 4⟩

def thirtyTwo : Lettering := ⟨"ABCDEFGHIJKLMNOPQRSTUVWXYZ234567".toList, 5, 8⟩

def Lettering.encode (k : Lettering) (t : Text) : Text :=
  let size := k.group * k.bits / 8
  (Digest.chunks size (t.length + 1) t).flatMap fun u =>
    let n := Digest.bigWord (Digest.octetsOf u)
    let letters := (8 * u.length + k.bits - 1) / k.bits
    let n := n * 2 ^ (letters * k.bits - 8 * u.length)
    let signs := (List.range letters).map fun i =>
      k.alphabet.getD (n / 2 ^ ((letters - 1 - i) * k.bits) % 2 ^ k.bits) 'A'
    signs ++ List.replicate (k.group - letters) '='

/-- Octets from letters, and whether all of them could be read. -/
def Lettering.decode (k : Lettering) (t : Text) : Text × Bool :=
  let t := t.filter (· ≠ '\n')
  let (out, isFine) := (Digest.chunks k.group (t.length + 1) t).foldl
    (fun ((out, isFine) : List Text × Bool) u =>
      if !isFine then (out, false)
      else
        let letters := u.takeWhile k.alphabet.contains
        let rest := u.drop letters.length
        let n := letters.foldl (fun n c => n * 2 ^ k.bits + (k.alphabet.idxOf? c).getD 0) 0
        let count := letters.length * k.bits / 8
        let octets := Digest.bigOctets count (n / 2 ^ (letters.length * k.bits - 8 * count))
        let isWhole := u.length = k.group && rest.all (· = '=') &&
          (letters.length * k.bits % 8 < k.bits) && 0 < letters.length
        (octets.map Char.ofNat :: out, isWhole)) ([], true)
  (out.reverse.flatten, isFine)

/-- Lines of a width; without one there is one line, and no end of it. -/
def wrapped (width : Nat) (t : Text) : Text :=
  if width = 0 || t.isEmpty then t
  else (Digest.chunks width (t.length + 1) t).flatMap fun l => l ++ ['\n']

def inLetters (k : Lettering) (called : Text) (args : List Text) : Act Unit := do
  let all := known [('d', "decode"), ('i', "ignore-garbage")] [('w', "wrap")]
  let (os, operands) ← optionsOr 1 called all true args
  let width ← match valueOf? os 'w' with
    | none => pure 76
    | some t =>
      match Numeral.read? t with
      | some n => pure n
      | none => die called ("invalid wrap size: ".toList ++ (← quoted t)) 1
  match operands with
  | _ :: t :: _ => misuse called ("extra operand ".toList ++ (← quoted t)) 1
  | _ => pure ()
  let t ← withOperand (fun path e => do
    die called ((← quotedName path) ++ ": ".toList ++ e.message.toList) 1)
    (operands.headD ['-']) [] fun d => (Intake.of d).whole
  if has os 'd' then
    let t := if has os 'i' then t.filter fun c => k.alphabet.contains c || c = '=' else t
    let (out, isFine) := k.decode t
    put out
    if !isFine then die called "invalid input".toList 1
  else put (wrapped width (k.encode t))

/-! Digests -/

/-- A line for what was read: the digest in front, or behind a name. -/
def digestLine (os : List Given) (name : String) (digest path : Text) : Text :=
  if has os 'τ' then
    name.toList ++ " (".toList ++ path ++ ") = ".toList ++ digest
  else digest ++ [' ', if has os 'b' then '*' else ' '] ++ path

/-- A line with a digest: the digest and the name of a file. -/
def checkLine? (size : Nat) (l : Text) : Option (Text × Text) :=
  let digits := l.takeWhile fun c => c.isDigit || ('a' ≤ c && c ≤ 'f') || ('A' ≤ c && c ≤ 'F')
  match l.drop digits.length with
  | ' ' :: c :: path =>
    if digits.length = size && (c = ' ' || c = '*') && !path.isEmpty then
      some (digits.map Char.toLower, path)
    else none
  | _ => none

def digest (name : String) (f : List Nat → List Nat) (called : Text) (args : List Text) :
    Act Unit := do
  let all := known [('b', "binary"), ('c', "check"), ('τ', "tag"), ('t', "text"), ('z', "zero"),
    ('q', "quiet"), ('s', "status"), ('w', "warn"), ('σ', "strict"), ('ι', "ignore-missing")] []
  let (os, operands) ← optionsOr 1 called all true args
  let digestOf (t : Text) : Text := Digest.hexDigits (f (Digest.octetsOf t))
  let mark := if has os 'z' then '\x00' else '\n'
  for path in orInput operands do
    withOperand (complainOf called) path () fun d => do
      let t ← (Intake.of d).whole
      if !has os 'c' then putLineWith mark (digestLine os name (digestOf t) path)
      else
        let ls := piecesOf '\n' t
        let size := (digestOf []).length
        let entries := ls.filterMap (checkLine? size)
        let shown ← if path = ['-'] then pure "'standard input'".toList else quotedName path
        if entries.isEmpty then
          lack called (shown ++ ": no properly formatted checksum lines found".toList) 1
        let mut wrong := 0
        let mut unread := 0
        for (expected, file) in entries do
          match ← openOperand file with
          | .error e =>
            unread := unread + 1
            warn called ((← quotedName file) ++ ": ".toList ++ e.message.toList)
            if !has os 's' then putLine (file ++ ": FAILED open or read".toList)
          | .ok d =>
            if digestOf (← (Intake.of d).whole) = expected then
              if !has os 'q' && !has os 's' then putLine (file ++ ": OK".toList)
            else
              wrong := wrong + 1
              if !has os 's' then putLine (file ++ ": FAILED".toList)
        let say (n : Nat) (one many : String) : Act Unit := do
          if 0 < n then
            if !has os 's' then
              warn called ("WARNING: ".toList ++ Numeral.write n ++
                (if n = 1 then one else many).toList)
            setStatus 1
        let bad := ls.length - entries.length
        if 0 < bad && !entries.isEmpty && !has os 's' then
          warn called ("WARNING: ".toList ++ Numeral.write bad ++
            (if bad = 1 then " line is improperly formatted"
              else " lines are improperly formatted").toList)
        say unread " listed file could not be read" " listed files could not be read"
        say wrong " computed checksum did NOT match" " computed checksums did NOT match"
where
  putLineWith (mark : Char) (t : Text) : Act Unit := put (t ++ [mark])

def cksum (called : Text) (args : List Text) : Act Unit := do
  let all := known [('τ', "tag"), ('υ', "untagged"), ('z', "zero"), ('r', "raw")]
    [('a', "algorithm"), ('l', "length")]
  let (os, operands) ← optionsOr 1 called all true args
  let digests : List (String × String × (List Nat → List Nat)) :=
    [("md5", "MD5", Digest.md5), ("sha1", "SHA1", Digest.sha1), ("sha224", "SHA224", Digest.sha224),
     ("sha256", "SHA256", Digest.sha256), ("sha384", "SHA384", Digest.sha384),
     ("sha512", "SHA512", Digest.sha512)]
  let chosen := (valueOf? os 'a').bind fun t => digests.lookup (Text.str t)
  for path in orInput operands do
    withOperand (complainOf called) path () fun d => do
      let octets := Digest.octetsOf (← (Intake.of d).whole)
      match chosen with
      | some (name, f) =>
        let hex := Digest.hexDigits (f octets)
        putLine (if has os 'υ' then hex ++ "  ".toList ++ path
          else name.toList ++ " (".toList ++ path ++ ") = ".toList ++ hex)
      | none =>
        let name := if operands.isEmpty then [] else ' ' :: path
        putLine (Numeral.write (Digest.cyclic octets) ++ ' ' :: Numeral.write octets.length ++ name)

def sum (called : Text) (args : List Text) : Act Unit := do
  let all := known [('r', ""), ('s', "sysv")] []
  let (os, operands) ← optionsOr 1 called all true args
  for path in orInput operands do
    withOperand (complainOf called) path () fun d => do
      let octets := Digest.octetsOf (← (Intake.of d).whole)
      let name := if operands.isEmpty then [] else ' ' :: path
      if lastOf? os ['r', 's'] = some 's' then
        putLine (Numeral.write (Digest.plain octets) ++ ' ' ::
          Numeral.write ((octets.length + 511) / 512) ++ name)
      else
        let digits := Numeral.write (Digest.rotating octets)
        putLine (List.replicate (5 - digits.length) '0' ++ digits ++ ' ' ::
          padLeft 5 (Numeral.write ((octets.length + 1023) / 1024)) ++ name)

end RemoteInterpreter.Shell.Tool
