import RemoteInterpreter.Shell.Printf
import RemoteInterpreter.Shell.Tool.Search

/-!
# Numbers

Tools that count from one number to another, that calculate, and that take numbers apart.
-/

namespace RemoteInterpreter.Shell.Tool

/-! Sequences -/

/-- A number with decimal places: `digits` divided by a power of ten. -/
structure Decimals where
  digits : Int
  places : Nat
  /-- How many characters it takes to write its whole part. -/
  width : Nat
  /-- It is written without decimal places that are to be kept. -/
  isBare : Bool

namespace Decimals

/-- The same number with more places. -/
def scaledTo (places : Nat) (d : Decimals) : Int := d.digits * 10 ^ (places - d.places)

/-- A number as it is written, if it is one. -/
def read? (t : Text) : Option Decimals := do
  let t := t.dropWhile isBlank
  let t := match t with
    | '+' :: t => t
    | t => t
  let (negative, u) : Bool × Text := match t with
    | '-' :: u => (true, u)
    | u => (false, u)
  let sign : Int := if negative then -1 else 1
  match u with
  | '0' :: x :: hex =>
    if x = 'x' || x = 'X' then
      if hex.isEmpty || !hex.all (isDigitOf 16) then none
      else return ⟨sign * valueIn 16 hex, 0, t.length, true⟩
    else decimal sign t u
  | u => decimal sign t u
where
  decimal (sign : Int) (t u : Text) : Option Decimals := do
    let whole := u.takeWhile Char.isDigit
    let rest := u.drop whole.length
    let (hasPoint, fraction, rest) : Bool × Text × Text := match rest with
      | '.' :: rest =>
        let f := rest.takeWhile Char.isDigit
        (true, f, rest.drop f.length)
      | rest => (false, [], rest)
    if whole.isEmpty && fraction.isEmpty then none
    else
      let (exponent, rest) := match rest with
        | e :: rest' =>
          if e = 'e' || e = 'E' then exponentAhead ['e', 'E'] rest else (0, e :: rest')
        | [] => (0, [])
      if !rest.isEmpty then none
      else
        let mantissa := t.takeWhile fun c => c ≠ 'e' && c ≠ 'E'
        let width := mantissa.length
        let width := if hasPoint && fraction.isEmpty then width - 1
          else if hasPoint && whole.isEmpty then width + 1 else width
        let value : Int := sign * (Numeral.value (whole ++ fraction) : Nat)
        if exponent < 0 then
          let places := fraction.length + exponent.natAbs
          return ⟨value, places, width + exponent.natAbs + (if hasPoint then 0 else 1), false⟩
        else
          let n := exponent.toNat
          let kept := min fraction.length n
          let places := fraction.length - kept
          let width := if hasPoint && places = 0 && 0 < kept then width - 1 else width
          return ⟨value * 10 ^ (n - kept), places, width + (n - kept), false⟩

/-- With so many places, in a width that is filled by zeros. -/
def write (places width : Nat) (n : Int) : Text :=
  let digits := Numeral.write n.natAbs
  let digits := List.replicate (places + 1 - digits.length) '0' ++ digits
  let t := if places = 0 then digits
    else digits.take (digits.length - places) ++ '.' :: digits.drop (digits.length - places)
  let front : Text := if n < 0 then ['-'] else []
  front ++ List.replicate (width - front.length - t.length) '0' ++ t

end Decimals

/-- A format for one number: what stands before the number, how it is laid out, and what stands
behind it. -/
structure NumberFormat where
  front : Text
  layout : Layout
  conversion : Char
  behind : Text

/-- The text of a format up to its directive, with doubled signs as one. -/
def plainAhead : Text → Text × Text
  | '%' :: '%' :: t => (fun (u, r) => ('%' :: u, r)) (plainAhead t)
  | '%' :: t => ([], '%' :: t)
  | c :: t => (fun (u, r) => (c :: u, r)) (plainAhead t)
  | [] => ([], [])

/-- A format as it is written, or what is wrong with it. -/
def NumberFormat.read (unicode : Bool) (t : Text) : Except Text NumberFormat := do
  let shown := "format ".toList ++ quote unicode t
  match plainAhead t with
  | (_, []) => throw (shown ++ " has no % directive".toList)
  | (front, _ :: rest) =>
    let flags := rest.takeWhile fun c => "#0+- '".toList.contains c
    let rest := rest.drop flags.length
    let width := rest.takeWhile Char.isDigit
    let rest := rest.drop width.length
    let (precision, rest) : Option Nat × Text := match rest with
      | '.' :: rest =>
        let digits := rest.takeWhile Char.isDigit
        (some (Numeral.value digits), rest.drop digits.length)
      | rest => (none, rest)
    let rest := match rest with
      | 'L' :: rest => rest
      | rest => rest
    match rest with
    | [] => throw (shown ++ " ends in %".toList)
    | c :: rest =>
      if !"efgaEFGA".toList.contains c then
        throw (shown ++ " has unknown %".toList ++ c :: " directive".toList)
      else
        match plainAhead rest with
        | (behind, []) =>
          let has (f : Char) : Bool := flags.contains f
          return ⟨front, ⟨has '#', has '-', has '+', has ' ', has '0', Numeral.value width,
            precision⟩, c, behind⟩
        | _ => throw (shown ++ " has too many % directives".toList)

def NumberFormat.write (f : NumberFormat) (places : Nat) (n : Int) : Text :=
  let x := Binary64.ofRatio (n < 0) n.natAbs (10 ^ places)
  f.front ++ f.layout.float f.conversion x ++ f.behind

/-- How much is written by a tool that never ends before it stands still. -/
def mostWritten : Nat := 2 ^ 20

/-- Numbers may look like options. -/
def guarded (args : List Text) : List Text :=
  let isNumber (w : Text) : Bool := match w with
    | '-' :: c :: _ => c.isDigit || c == '.'
    | _ => false
  let rec go : List Text → List Text
    | [] => []
    | w :: rest =>
      if isNumber w then ['-', '-'] :: w :: rest
      else if w.head? ≠ some '-' then ['-', '-'] :: w :: rest
      else if ["-f", "-s"].contains (Text.str w) || w = "--format".toList ||
          w = "--separator".toList then
        match rest with
        | v :: rest => w :: v :: go rest
        | [] => [w]
      else if w = ['-', '-'] then w :: rest
      else w :: go rest
  go args

def seq (called : Text) (args : List Text) : Act Unit := do
  let all := known [('w', "equal-width")] [('f', "format"), ('s', "separator")]
  let (os, operands) ← optionsOr 1 called all false (guarded args)
  match operands with
  | [] => misuse called "missing operand".toList 1
  | _ :: _ :: _ :: t :: _ => misuse called ("extra operand ".toList ++ (← quoted t)) 1
  | _ => pure ()
  let unicode := isUnicode (← strand)
  let format ← match valueOf? os 'f' with
    | none => pure none
    | some t =>
      match NumberFormat.read unicode t with
      | .ok f => pure (some f)
      | .error why => die called why 1
  if format.isSome && has os 'w' then
    misuse called "format string may not be specified when printing equal width strings".toList 1
  let number (t : Text) : Act (Option Decimals) := do
    match Decimals.read? t with
    | some d => return some d
    | none =>
      match realAhead? t with
      | some a =>
        if !a.behind.isEmpty then wrong t
        else if a.value.isNaN then
          misuse called ("invalid 'not-a-number' argument: ".toList ++ (← quoted t)) 1
        else if a.value.isInfinite then return none
        else wrong t
      | none => wrong t
  let first ← match operands with
    | [_] => pure (some ⟨1, 0, 1, false⟩)
    | t :: _ => number t
    | [] => pure none
  let step ← match operands with
    | [_, t, _] =>
      match ← number t with
      | some d =>
        if d.digits = 0 then
          misuse called ("invalid Zero increment value: ".toList ++ (← quoted t)) 1
        else pure d
      | none => pure ⟨1, 0, 1, false⟩
    | _ => pure ⟨1, 0, 1, false⟩
  let last ← number (operands.getLastD [])
  match first with
  | none => pure ()
  | some first =>
    let shown := max first.places step.places
    let places := max shown ((last.map Decimals.places).getD 0)
    let scale (d : Decimals) : Int := d.scaledTo places
    let width := match last with
      | some last =>
        if has os 'w' then
          let grown (d : Decimals) : Nat :=
            if d.places = 0 && 0 < shown then d.width + 1 + shown
            else if 0 < d.places && shown = 0 then d.width - d.places - 1
            else d.width + shown - d.places
          max (grown first) (grown last)
        else 0
      | none => 0
    let write (n : Int) : Text := match format with
      | some f => f.write places n
      | none => Decimals.write shown width (n / 10 ^ (places - shown))
    let mark := (valueOf? os 's').getD ['\n']
    let stride := scale step
    let isPast (n : Int) : Bool := match last with
      | none => false
      | some last => if stride < 0 then n < scale last else scale last < n
    if !isPast (scale first) then
      put (write (scale first))
      iterate (scale first + stride, 0) fun (n, written) => do
        if isPast n then return .ok ()
        else if last.isNone && mostWritten < written then
          flush
          starve
        else
          let t := mark ++ write n
          put t
          return .error (n + stride, written + t.length)
      put ['\n']
where
  wrong {α : Type} (t : Text) : Act α := do
    misuse called ("invalid floating point argument: ".toList ++ (← quoted t)) 1

/-! Expressions -/

namespace Calculation

/-- Words are left to be read; a fault is told by a message. -/
abbrev Find := StateT (List Text) (Except Text)

def isInteger (t : Text) : Bool :=
  let digits := match t with
    | '-' :: ds => ds
    | ds => ds
  Numeral.isNumeral digits

def valueOf (t : Text) : Int := match t with
  | '-' :: ds => -(Numeral.value ds : Int)
  | ds => (Numeral.value ds : Int)

def integer (t : Text) : Find Int :=
  if isInteger t then return valueOf t else throw "non-integer argument".toList

/-- Nothing and zero are false. -/
def isFalse (t : Text) : Bool :=
  t.isEmpty ||
    let digits := match t with
      | '-' :: ds => ds
      | ds => ds
    !digits.isEmpty && digits.all (· = '0')

structure Setting where
  unicode : Bool
  /-- The words of the whole expression. -/
  words : List Text

/-- The first group of a match at the beginning, or the length of the match. -/
def matched (k : Setting) (t pattern : Text) : Find Text :=
  match Regex.read Regex.Dialect.basic (decoded k.unicode pattern) with
  | .error e => throw e.message.toList
  | .ok m =>
    match m.matchAt (Regex.Spot.of (decoded k.unicode t)) with
    | some s =>
      return if 0 < m.groups then encoded k.unicode ((s.groups.lookup 1).getD [])
        else Numeral.write s.position
    | none => return if 0 < m.groups then [] else ['0']

/-- The word before those that are left. -/
def wordBefore (k : Setting) : Find Text := do
  return k.words.getD (k.words.length - (← get).length - 1) []

def needWord (k : Setting) : Find Text := do
  match ← get with
  | t :: rest =>
    set rest
    return t
  | [] =>
    throw ("syntax error: missing argument after ".toList ++ quote k.unicode (← wordBefore k))

/-- Takes one of some words, if it is the next one. -/
def nextOf? (ops : List String) : Find (Option String) := do
  match ← get with
  | t :: rest =>
    if ops.contains (Text.str t) then
      set rest
      return some (Text.str t)
    else return none
  | [] => return none

/-- An operation on two values. -/
def apply (op : String) (a b : Text) : Find Text := do
  let number (f : Int → Int → Int) : Find Text := do
    return Numeral.writeInt (f (← integer a) (← integer b))
  let divided (f : Int → Int → Int) : Find Text := do
    let m ← integer a
    let n ← integer b
    if n = 0 then throw "division by zero".toList else return Numeral.writeInt (f m n)
  let order := if isInteger a && isInteger b then compare (valueOf a) (valueOf b) else compare a b
  let told (b : Bool) : Find Text := return if b then ['1'] else ['0']
  match op with
  | "*" => number (· * ·)
  | "/" => divided Int.tdiv
  | "%" => divided Int.tmod
  | "+" => number (· + ·)
  | "-" => number (· - ·)
  | "<" => told (order = .lt)
  | "<=" => told (order ≠ .gt)
  | "=" | "==" => told (order = .eq)
  | "!=" => told (order ≠ .eq)
  | ">=" => told (order ≠ .lt)
  | _ => told (order = .gt)

/-- The operators, those that bind the least first. -/
def levels : List (List String) :=
  [["|"], ["&"], ["<", "<=", "=", "==", "!=", ">=", ">"], ["+", "-"], ["*", "/", "%"], [":"]]

mutual

/-- What stands at a level. It is not calculated if its value does not matter. -/
def level (k : Setting) : Nat → List (List String) → Bool → Find Text
  | 0, _, _ => throw "syntax error".toList
  | fuel + 1, [], counts => operand k fuel counts
  | fuel + 1, ops :: tighter, counts => do
    further k fuel ops tighter counts (← level k fuel tighter counts)

def further (k : Setting) : Nat → List String → List (List String) → Bool → Text → Find Text
  | 0, _, _, _, _ => throw "syntax error".toList
  | fuel + 1, ops, tighter, counts, a => do
    match ← nextOf? ops with
    | none => return a
    | some op =>
      match op with
      | "|" =>
        let b ← level k fuel tighter (counts && isFalse a)
        further k fuel ops tighter counts
          (if !isFalse a then a else if isFalse b then ['0'] else b)
      | "&" =>
        let b ← level k fuel tighter (counts && !isFalse a)
        further k fuel ops tighter counts (if isFalse a || isFalse b then ['0'] else a)
      | ":" =>
        let b ← level k fuel tighter counts
        further k fuel ops tighter counts (← if counts then matched k a b else pure a)
      | op =>
        let b ← level k fuel tighter counts
        further k fuel ops tighter counts (← if counts then apply op a b else pure a)

def operand (k : Setting) : Nat → Bool → Find Text
  | 0, _ => throw "syntax error".toList
  | fuel + 1, counts => do
    let t ← needWord k
    match t.str with
    | "+" => needWord k
    | "(" =>
      let value ← level k fuel levels counts
      match ← get with
      | [] => throw ("syntax error: expecting ')' after ".toList ++
          quote k.unicode (← wordBefore k))
      | [')'] :: rest =>
        set rest
        return value
      | t :: _ => throw ("syntax error: expecting ')' instead of ".toList ++ quote k.unicode t)
    | ")" => throw "syntax error: unexpected ')'".toList
    | "length" =>
      let a ← operand k fuel counts
      return Numeral.write (characters k.unicode a).length
    | "match" =>
      let a ← operand k fuel counts
      let b ← operand k fuel counts
      if counts then matched k a b else return a
    | "index" =>
      let a ← operand k fuel counts
      let b ← operand k fuel counts
      let signs := characters k.unicode b
      return match (characters k.unicode a).findIdx? signs.contains with
        | some i => Numeral.write (i + 1)
        | none => ['0']
    | "substr" =>
      let a ← operand k fuel counts
      let i ← operand k fuel counts
      let n ← operand k fuel counts
      if !isInteger i || !isInteger n || valueOf i ≤ 0 || valueOf n ≤ 0 then return []
      else
        return (((characters k.unicode a).drop ((valueOf i).toNat - 1)).take
          (valueOf n).toNat).flatten
    | _ => return t

end

def run (k : Setting) : Except Text Text := do
  let (value, rest) ← (level k (20 * k.words.length + 40) levels true).run k.words
  match rest with
  | [] => return value
  | t :: _ => throw ("syntax error: unexpected argument ".toList ++ quote k.unicode t)

end Calculation

def expr (called : Text) (args : List Text) : Act Unit := do
  let words := match args with
    | ['-', '-'] :: rest => rest
    | args => args
  if words.isEmpty then misuse called "missing operand".toList 2
  match Calculation.run ⟨isUnicode (← strand), words⟩ with
  | .error why => die called why 2
  | .ok value =>
    putLine value
    setStatus (if Calculation.isFalse value then 1 else 0)

/-! Factors -/

/-- The prime factors of a number from a candidate on, the least first. -/
def primeFactors : Nat → Nat → Nat → List Nat
  | 0, _, n => [n]
  | fuel + 1, d, n =>
    if n < 2 then []
    else if n < d * d then [n]
    else if n % d = 0 then d :: primeFactors fuel d (n / d)
    else primeFactors fuel (if d = 2 then 3 else d + 2) n

/-- Equal factors as one power. -/
def asPowers (fs : List Nat) : List (Nat × Nat) :=
  fs.eraseDups.map fun f => (f, fs.count f)

def factor (called : Text) (args : List Text) : Act Unit := do
  let (os, operands) ← optionsOr 1 called (known [('h', "exponents")] []) true args
  let one (t : Text) : Act Unit := do
    let digits := match t with
      | '+' :: ds => ds
      | ds => ds
    if !Numeral.isNumeral digits then
      lack called ((← quoted t) ++ " is not a valid positive integer".toList) 1
    else
      let n := Numeral.value digits
      let fs := primeFactors 2000000 2 n
      let shown := if has os 'h' then
          (asPowers fs).flatMap fun (f, k) =>
            ' ' :: Numeral.write f ++ if k = 1 then [] else '^' :: Numeral.write k
        else fs.flatMap fun f => ' ' :: Numeral.write f
      putLine (Numeral.write n ++ ':' :: shown)
  if operands.isEmpty then
    overAllLines called '\n' [] (fun _ l => do
      let words := (Text.splitAt ' ' (l.map fun c => if isBlank c then ' ' else c)).filter
        fun w => !w.isEmpty
      for w in words do
        one w) ()
  else
    for t in operands do
      one t

end RemoteInterpreter.Shell.Tool
