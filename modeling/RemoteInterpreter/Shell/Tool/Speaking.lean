import RemoteInterpreter.Shell.Builtin
import RemoteInterpreter.Shell.Printf
import RemoteInterpreter.Shell.Tool.Numbers

/-!
# Texts as they are told

Tools that print their arguments, once, formatted, or without end, and that judge them.
-/

namespace RemoteInterpreter.Shell.Tool

/-! Echoes -/

/-- A text with its escapes undone, and whether it ends the output. -/
def withoutEscapes : Nat → Text → Text × Bool
  | 0, _ | _ + 1, [] => ([], false)
  | fuel + 1, '\\' :: t =>
    let also (c : Char) (t : Text) : Text × Bool :=
      let (u, ends) := withoutEscapes fuel t
      (c :: u, ends)
    match t with
    | 'c' :: _ => ([], true)
    | 'x' :: rest =>
      let digits := (rest.take 2).takeWhile (isDigitOf 16)
      if digits.isEmpty then
        let (u, ends) := withoutEscapes fuel rest
        ('\\' :: 'x' :: u, ends)
      else also (octet (valueIn 16 digits)) (rest.drop digits.length)
    | '0' :: rest =>
      let digits := (rest.take 3).takeWhile isOctal
      also (octet (valueIn 8 digits)) (rest.drop digits.length)
    | t =>
      let (c, rest) := escape t
      also c rest
  | fuel + 1, c :: t =>
    let (u, ends) := withoutEscapes fuel t
    (c :: u, ends)

/-- The options of an echo: whether its line is ended and whether there are escapes; and what is
echoed. -/
def echoOptions : List Text → Bool → Bool → Bool × Bool × List Text
  | ('-' :: c :: cs) :: rest, ends, escapes =>
    if (c :: cs).all fun c => c == 'n' || c == 'e' || c == 'E' then
      let last := ((c :: cs).filter (· ≠ 'n')).getLast?
      echoOptions rest (ends && !(c :: cs).contains 'n')
        (match last with
          | some 'e' => true
          | some _ => false
          | none => escapes)
    else (ends, escapes, ('-' :: c :: cs) :: rest)
  | ts, ends, escapes => (ends, escapes, ts)

def echo (args : List Text) : Act Unit := do
  let (ends, escapes, ts) := echoOptions args true false
  let t := (ts.intersperse [' ']).flatten
  let (t, stops) := if escapes then withoutEscapes (t.length + 1) t else (t, false)
  put (t ++ if ends && !stops then ['\n'] else [])

/-- The same line again and again. -/
def yes (called : Text) (args : List Text) : Act Unit := do
  let (_, words) ← optionsOr 1 called [] true args
  let line := (if words.isEmpty then ['y'] else (words.intersperse [' ']).flatten) ++ ['\n']
  let block := (List.replicate (blockSize / line.length + 1) line).flatten
  let _ ← iterate 0 fun (n : Nat) => do
    if mostWritten < n then
      flush
      starve
    else
      put block
      if (← strand).fault.isSome then return .ok () else return .error (n + block.length)

/-! Formats -/

namespace Format

/-- What has been done with a format. -/
structure Progress where
  args : List Text
  /-- An argument was used. -/
  used : Bool

/-- The character of an escape in a format, and what stands behind it; or nothing at the end of all
output. -/
def escaped (called : Text) (isArgument : Bool) (t : Text) : Act (Option (Text × Text)) := do
  let digitsOf (base most : Nat) (t : Text) : Text := (t.take most).takeWhile (isDigitOf base)
  let missing {α : Type} : Act α := die called "missing hexadecimal number in escape".toList 1
  let unicode (most : Nat) (rest : Text) : Act (Option (Text × Text)) := do
    let digits := digitsOf 16 most rest
    if digits.length < most then missing
    else
      let c := Char.ofNat (valueIn 16 digits)
      let s ← strand
      let t := if c < '\u0080' then [c]
        else if isUnicode s then
          (String.utf8EncodeChar c).map fun b => Char.ofNat b.toNat
        else '\\' :: (if most = 4 then 'u' else 'U') :: digits
      return some (t, rest.drop most)
  match t with
  | [] => return some (['\\'], [])
  | c :: rest =>
    match c with
    | 'c' => return none
    | 'x' =>
      let digits := digitsOf 16 2 rest
      if digits.isEmpty then missing
      else return some ([octet (valueIn 16 digits)], rest.drop digits.length)
    | 'u' => unicode 4 rest
    | 'U' => unicode 8 rest
    | '"' => return some (['"'], rest)
    | '0' =>
      let digits := if isArgument then '0' :: digitsOf 8 3 rest else digitsOf 8 3 (c :: rest)
      return some ([octet (valueIn 8 digits)], (c :: rest).drop digits.length)
    | _ =>
      match simpleEscape? c with
      | some d => return some ([d], rest)
      | none =>
        let digits := digitsOf 8 3 t
        if digits.isEmpty then return some (['\\', c], rest)
        else return some ([octet (valueIn 8 digits)], t.drop digits.length)

/-- Prints an argument with its escapes undone. -/
def unescaped (called : Text) : Nat → Text → Act (Text × Bool)
  | 0, _ => return ([], false)
  | _ + 1, [] => return ([], false)
  | fuel + 1, '\\' :: t => do
    match ← escaped called true t with
    | none => return ([], true)
    | some (u, rest) =>
      let (v, ends) ← unescaped called fuel rest
      return (u ++ v, ends)
  | fuel + 1, c :: t => do
    let (v, ends) ← unescaped called fuel t
    return (c :: v, ends)

/-- Complains about an argument that is not a number, all of it. -/
def check (called arg behind : Text) (isMissing isClipped : Bool) : Act Unit := do
  let say (why : String) : Act Unit := do
    lack called ((← quoted arg) ++ ": ".toList ++ why.toList) 1
  if arg.isEmpty then pure ()
  else if isMissing then say "expected a numeric value"
  else if isClipped then say "Numerical result out of range"
  else if !behind.isEmpty then say "value not completely converted"

/-- A quote stands for the number of the character behind it. -/
def character? (called arg : Text) : Act (Option Nat) := do
  match arg with
  | q :: c :: rest =>
    if q = '\'' || q = '"' then
      if !rest.isEmpty then
        warn called ("warning: ".toList ++ rest ++
          ": character(s) following character constant have been ignored".toList)
      return some c.toNat
    else return none
  | _ => return none

def integer (called arg : Text) : Act Int := do
  match ← character? called arg with
  | some n => return n
  | none =>
    let a := integerAhead true arg
    check called arg a.behind a.isMissing a.isClipped
    return a.value

def natural (called arg : Text) : Act Nat := do
  match ← character? called arg with
  | some n => return n
  | none =>
    let a := naturalAhead arg
    check called arg a.behind a.isMissing a.isClipped
    return a.value.toNat

def real (called arg : Text) : Act Binary64 := do
  match ← character? called arg with
  | some n => return .ofNat n
  | none =>
    match realAhead? arg with
    | some a =>
      check called arg a.behind false a.isClipped
      return a.value
    | none =>
      check called arg arg true false
      return .zero false

/-- The next argument. Those that are missing count as empty. -/
def next (p : Progress) : Text × Progress :=
  (p.args.headD [], ⟨p.args.tail, true⟩)

/-- A width or a precision: a star takes it from the arguments. -/
def amount (called t : Text) (p : Progress) : Act (Option Int × Text × Progress) := do
  match t with
  | '*' :: t =>
    let (arg, p) := next p
    return (some (← integer called arg), t, p)
  | t =>
    let digits := t.takeWhile Char.isDigit
    return (if digits.isEmpty then none else some (Numeral.value digits), t.drop digits.length, p)

/-- From behind a percent sign to behind the conversion. The result tells whether the output has
ended. -/
def directive (called t : Text) (p : Progress) : Act (Text × Progress × Bool) := do
  let flags := t.takeWhile fun c => "#-+ 0'".toList.contains c
  let (width, rest, p) ← amount called (t.drop flags.length) p
  let (precision, rest, p) : Option Int × Text × Progress ← match rest with
    | '.' :: rest => do
      let (n, rest, p) ← amount called rest p
      pure (some (n.getD 0), rest, p)
    | rest => pure (none, rest, p)
  let rest := rest.dropWhile fun c => "lLhjtz".toList.contains c
  let shown := '%' :: t.take (t.length - rest.length + 1)
  let conversion := rest.headD '\x00'
  let behind := rest.drop 1
  let bare := flags.isEmpty && width.isNone && precision.isNone
  let fits := "diouxXeEfFgGaAcsb".toList.contains conversion || (conversion = 'q' && bare)
  if !fits then
    let known := shown.takeWhile fun c => c ≠ '\x00'
    die called (known ++ ": invalid conversion specification".toList) 1
  else
    let w := width.getD 0
    let l : Layout :=
      { alternate := flags.contains '#', left := flags.contains '-' || w < 0
        plus := flags.contains '+', space := flags.contains ' ', zeros := flags.contains '0'
        width := w.natAbs
        precision := precision.bind fun n => if n < 0 then none else some n.toNat }
    let (arg, p) := next p
    let ends ← match conversion with
      | 's' => do
        Tool.put (l.text arg)
        pure false
      | 'b' => do
        let (u, ends) ← unescaped called (arg.length + 1) arg
        Tool.put (l.text u)
        pure ends
      | 'q' => do
        Tool.put (quoteIfNeeded (isUnicode (← strand)) arg)
        pure false
      | 'c' => do
        Tool.put (l.padded (arg.take 1))
        pure false
      | 'd' | 'i' => do
        let n ← integer called arg
        Tool.put (l.integer n)
        pure false
      | 'u' | 'o' | 'x' | 'X' => do
        let n ← natural called arg
        let base := if conversion = 'u' then 10 else if conversion = 'o' then 8 else 16
        Tool.put (l.natural base (conversion = 'X') n)
        pure false
      | c => do
        let x ← real called arg
        Tool.put (l.float c x)
        pure false
    return (behind, p, ends)

/-- A format from its beginning to its end. -/
def once (called : Text) : Nat → Text → Progress → Act (Progress × Bool)
  | 0, _, p => return (p, false)
  | _ + 1, [], p => return (p, false)
  | fuel + 1, '%' :: '%' :: t, p => do
    Tool.put ['%']
    once called fuel t p
  | fuel + 1, '%' :: t, p => do
    let (t, p, ends) ← directive called t p
    if ends then return (p, true) else once called fuel t p
  | fuel + 1, '\\' :: t, p => do
    match ← escaped called false t with
    | none => return (p, true)
    | some (u, t) =>
      Tool.put u
      once called fuel t p
  | fuel + 1, c :: t, p => do
    let run := (c :: t).takeWhile fun d => d ≠ '%' && d ≠ '\\'
    Tool.put (if run.isEmpty then [c] else run)
    once called fuel ((c :: t).drop (max 1 run.length)) p

/-- A format is printed as often as it takes to use up all arguments. -/
def all (called format : Text) : Nat → List Text → Act Unit
  | 0, _ => return
  | fuel + 1, args => do
    let (p, ends) ← once called (format.length + 1) format ⟨args, false⟩
    if ends then return
    else
      match p.args with
      | [] => return
      | a :: _ =>
        if p.used then all called format fuel p.args
        else
          warn called ("warning: ignoring excess arguments, starting with ".toList ++ (← quoted a))

end Format

def printf (called : Text) (args : List Text) : Act Unit := do
  let args := match args with
    | ['-', '-'] :: rest => rest
    | args => args
  match args with
  | [] => misuse called "missing operand".toList 1
  | format :: args => Format.all called format (args.length + 1) args

/-! Conditions -/

namespace Condition

/-- Words are left to be read; a fault is told by a message. -/
abbrev Judge := StateT (List Text) (Except Text)

structure Setting where
  unicode : Bool
  look : Bool → Text → Option Test.Found

def unaries : List String :=
  ["-b", "-c", "-d", "-e", "-f", "-G", "-g", "-h", "-k", "-L", "-N", "-n", "-O", "-o", "-p", "-r",
   "-S", "-s", "-t", "-u", "-v", "-w", "-x", "-z"]

def binaries : List String :=
  ["=", "==", "!=", "-eq", "-ne", "-ge", "-gt", "-le", "-lt", "-nt", "-ot", "-ef"]

/-- A number by its sign and its digits. -/
def number (k : Setting) (t : Text) : Except Text Int :=
  let u := (t.dropWhile isBlank)
  let u := (u.reverse.dropWhile isBlank).reverse
  let (negative, digits) := withoutSign u
  if Numeral.isNumeral digits then
    return if negative then -(Numeral.value digits : Int) else (Numeral.value digits : Int)
  else throw ("invalid integer ".toList ++ quote k.unicode t)

def one (k : Setting) (op a : Text) : Except Text Bool :=
  match op.str with
  | "-n" => return !a.isEmpty
  | "-z" => return a.isEmpty
  | "-t" => do
    let _ ← number k a
    return false
  | _ => return Test.ofFile k.look op a

def two (k : Setting) (a op b : Text) : Except Text Bool := do
  let told (holds : Int → Int → Bool) : Except Text Bool := do
    return holds (← number k a) (← number k b)
  match op.str with
  | "=" | "==" => return a = b
  | "!=" => return a ≠ b
  | "-eq" => told fun m n => m = n
  | "-ne" => told fun m n => m ≠ n
  | "-ge" => told fun m n => n ≤ m
  | "-gt" => told fun m n => n < m
  | "-le" => told fun m n => m ≤ n
  | "-lt" => told fun m n => m < n
  | _ => ((Test.ofTwo k.look a op b).run []).map Prod.fst

mutual

/-- Terms that are joined by the word for or. -/
def disjunction (k : Setting) : Nat → Judge Bool
  | 0 => return false
  | fuel + 1 => do
    let a ← conjunction k fuel
    match ← get with
    | ['-', 'o'] :: rest =>
      set rest
      let b ← disjunction k fuel
      return a || b
    | _ => return a

def conjunction (k : Setting) : Nat → Judge Bool
  | 0 => return false
  | fuel + 1 => do
    let a ← term k fuel
    match ← get with
    | ['-', 'a'] :: rest =>
      set rest
      let b ← conjunction k fuel
      return a && b
    | _ => return a

def term (k : Setting) : Nat → Judge Bool
  | 0 => return false
  | fuel + 1 => do
    match ← get with
    | [] => throw "missing argument".toList
    | ['!'] :: rest =>
      set rest
      return !(← term k fuel)
    | ['('] :: rest =>
      set rest
      let a ← disjunction k fuel
      match ← get with
      | [')'] :: rest =>
        set rest
        return a
      | [] => throw "')' expected".toList
      | t :: _ => throw ("')' expected, found ".toList ++ t)
    | a :: op :: b :: rest =>
      if binaries.contains (Text.str op) then
        set rest
        two k a op b
      else single k fuel a (op :: b :: rest)
    | a :: rest => single k fuel a rest

def single (k : Setting) : Nat → Text → List Text → Judge Bool
  | 0, _, _ => return false
  | _ + 1, a, rest => do
    if a.length = 2 && a.head? = some '-' then
      if unaries.contains (Text.str a) then
        match rest with
        | b :: rest =>
          set rest
          one k a b
        | [] => throw ("missing argument after ".toList ++ quote k.unicode a)
      else throw (quote k.unicode a ++ ": unary operator expected".toList)
    else
      set rest
      return !a.isEmpty

end

def whole (k : Setting) (words : List Text) : Except Text Bool := do
  let (b, rest) ← (disjunction k (4 * words.length + 8)).run words
  match rest with
  | [] => return b
  | t :: _ => throw ("extra argument ".toList ++ quote k.unicode t)

def ofTwoWords (k : Setting) (a b : Text) : Except Text Bool :=
  if a = ['!'] then return b.isEmpty
  else if a.length = 2 && a.head? = some '-' then
    if unaries.contains (Text.str a) then one k a b
    else throw (quote k.unicode a ++ ": unary operator expected".toList)
  else throw ("missing argument after ".toList ++ quote k.unicode b)

def ofThreeWords (k : Setting) (a op b : Text) : Except Text Bool :=
  if binaries.contains (Text.str op) then two k a op b
  else if a = ['!'] then (ofTwoWords k op b).map fun v => !v
  else if a = ['('] && b = [')'] then return !op.isEmpty
  else if op = "-a".toList || op = "-o".toList then whole k [a, op, b]
  else throw (quote k.unicode op ++ ": binary operator expected".toList)

/-- Few words are judged by their number. -/
def judge (k : Setting) : List Text → Except Text Bool
  | [] => return false
  | [a] => return !a.isEmpty
  | [a, b] => ofTwoWords k a b
  | [a, b, c] => ofThreeWords k a b c
  | [a, b, c, d] =>
    if a = ['!'] then (ofThreeWords k b c d).map fun v => !v
    else if a = ['('] && d = [')'] then ofTwoWords k b c
    else whole k [a, b, c, d]
  | words => whole k words

end Condition

def test (called : Text) (args : List Text) : Act Unit := do
  let w ← world
  let s ← strand
  let k : Condition.Setting := ⟨isUnicode s, Builtin.describePath w s⟩
  match Condition.judge k args with
  | .ok b => setStatus (if b then 0 else 1)
  | .error why => die called why 2

def testInBrackets (called : Text) (args : List Text) : Act Unit := do
  match args.getLast? with
  | some [']'] => test called args.dropLast
  | _ => die called "missing ']'".toList 2

end RemoteInterpreter.Shell.Tool
