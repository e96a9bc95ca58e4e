import RemoteInterpreter.Shell.Regex
import RemoteInterpreter.Shell.Tool.Awk.Amount

/-!
# Expressions of scripts

What scripts search texts for is written in a form of its own: escapes stand for characters,
within sets, too; the edges of a text are found everywhere; and no operator and no way may
be without an operand.
-/

namespace RemoteInterpreter.Shell.Tool.Awk

/-- What is wrong with an expression that texts are searched for. -/
abbrev PatternFault := String

namespace Pattern

/-- Undoes an escape behind its backslash. -/
def escaped (t : Text) : Option (Char × Text) :=
  match t with
  | [] => none
  | c :: rest =>
    match c with
    | 'n' => some ('\n', rest)
    | 't' => some ('\t', rest)
    | 'f' => some ('\x0c', rest)
    | 'b' => some ('\x08', rest)
    | 'r' => some ('\r', rest)
    | 'a' => some ('\x07', rest)
    | 'v' => some ('\x0b', rest)
    | 'x' =>
      let digits := (rest.take 2).takeWhile (isDigitOf 16)
      if digits.isEmpty then none else some (octet (valueIn 16 digits), rest.drop digits.length)
    | c =>
      let digits := ((c :: rest).take 3).takeWhile isOctal
      if digits.isEmpty then none
      else some (octet (valueIn 8 digits), (c :: rest).drop digits.length)

def classOf? (name : Text) : Option (Char → Bool) :=
  let punctuation (c : Char) : Bool := '!' ≤ c && c ≤ '~' && !c.isAlphanum
  match name.str with
  | "alpha" => some Char.isAlpha
  | "digit" => some Char.isDigit
  | "alnum" => some Char.isAlphanum
  | "upper" => some Char.isUpper
  | "lower" => some Char.isLower
  | "space" => some Amount.isSpace
  | "blank" => some fun c => c == ' ' || c == '\t'
  | "punct" => some punctuation
  | "print" => some fun c => ' ' ≤ c && c ≤ '~'
  | "graph" => some fun c => '!' ≤ c && c ≤ '~'
  | "cntrl" => some fun c => c < ' ' || c == '\x7f'
  | "xdigit" => some (isDigitOf 16)
  | _ => none

def badClass : PatternFault := "bad class -- [], [^] or ["

/-- A character of a set, and what stands behind it. -/
def setCharacter (t : Text) : Option (Char × Text) :=
  match t with
  | [] => none
  | '\\' :: rest =>
    match escaped rest with
    | some r => some r
    | none =>
      match rest with
      | c :: rest => some (c, rest)
      | [] => some ('\\', [])
  | c :: rest => some (c, rest)

/-- The items of a set up to its closing bracket. -/
def setItems : Nat → Bool → Text → Except PatternFault ((Char → Bool) × Text)
  | 0, _, _ => throw badClass
  | fuel + 1, isFirst, t => do
    match t with
    | ']' :: rest =>
      if isFirst then
        let (more, rest) ← setItems fuel false rest
        return (fun c => c == ']' || more c, rest)
      else return (fun _ => false, rest)
    | '[' :: ':' :: rest =>
      let name := rest.takeWhile Char.isAlpha
      match classOf? name, rest.drop name.length with
      | some fits, ':' :: ']' :: rest =>
        let (more, rest) ← setItems fuel false rest
        return (fun c => fits c || more c, rest)
      | none, ':' :: ']' :: _ => throw badClass
      | _, _ =>
        let (more, rest) ← setItems fuel false (':' :: rest)
        return (fun c => c == '[' || more c, rest)
    | t =>
      match setCharacter t with
      | none => throw badClass
      | some (low, rest) =>
        match rest with
        | '-' :: e :: behind =>
          if e = ']' then
            let (more, rest) ← setItems fuel false rest
            return (fun c => c == low || more c, rest)
          else
            let (high, rest) := (setCharacter (e :: behind)).getD (e, behind)
            let (more, rest) ← setItems fuel false rest
            return (fun c => (low ≤ c && c ≤ high) || more c, rest)
        | rest =>
          let (more, rest) ← setItems fuel false rest
          return (fun c => c == low || more c, rest)

def set (t : Text) : Except PatternFault (Regex × Text) := do
  let (isInverted, t) : Bool × Text := match t with
    | '^' :: t => (true, t)
    | t => (false, t)
  let (fits, rest) ← setItems (t.length + 1) true t
  return (.one fun c => fits c != isInverted, rest)

/-- How often something is repeated, behind an opening brace. Other braces stand for themselves. -/
def bounds? (t : Text) : Except PatternFault (Option (Nat × Option Nat × Text)) := do
  let least := t.takeWhile Char.isDigit
  let bad {α : Type} : Except PatternFault α := throw "bad interval expression"
  match t.drop least.length with
  | '\x7d' :: rest =>
    if least.isEmpty then bad
    else return some (Numeral.value least, some (Numeral.value least), rest)
  | ',' :: rest =>
    let most := rest.takeWhile Char.isDigit
    match rest.drop most.length with
    | '\x7d' :: rest =>
      if most.isEmpty then return some (Numeral.value least, none, rest)
      else if Numeral.value most < Numeral.value least then bad
      else return some (Numeral.value least, some (Numeral.value most), rest)
    | _ => return none
  | _ => return none

/-- The operators for repetition behind a part. -/
def repeated : Nat → Regex → Text → Except PatternFault (Regex × Text)
  | 0, r, t => return (r, t)
  | fuel + 1, r, t => do
    match t with
    | '*' :: t => repeated fuel (.repetition r 0 none) t
    | '+' :: t => repeated fuel (.repetition r 1 none) t
    | '?' :: t => repeated fuel (.repetition r 0 (some 1)) t
    | '\x7b' :: rest =>
      match ← bounds? rest with
      | some (least, most, t) => repeated fuel (.repetition r least most) t
      | none => return (r, t)
    | t => return (r, t)

def missingOperand : PatternFault := "missing operand"

mutual

/-- Ways that are separated by bars. -/
def ways : Nat → Nat → Text → Except PatternFault (List Regex × Text)
  | 0, _, _ => throw "resource exhaustion -- regular expression too large"
  | fuel + 1, level, t => do
    let (rs, t) ← parts fuel level t
    match t with
    | '|' :: t =>
      if rs.isEmpty then throw missingOperand
      let (others, t) ← ways fuel level t
      return (.sequence rs :: others, t)
    | t => return ([.sequence rs], t)

def parts : Nat → Nat → Text → Except PatternFault (List Regex × Text)
  | 0, _, _ => throw "resource exhaustion -- regular expression too large"
  | fuel + 1, level, t => do
    let goOn (r : Regex) (t : Text) : Except PatternFault (List Regex × Text) := do
      let (rs, t) ← parts fuel level t
      return (r :: rs, t)
    let single (r : Regex) (t : Text) : Except PatternFault (List Regex × Text) := do
      let (r, t) ← repeated (t.length + 1) r t
      goOn r t
    match t with
    | [] => return ([], [])
    | '|' :: _ => return ([], t)
    | ')' :: rest => if level = 0 then single (.one (· == ')')) rest else return ([], t)
    | '(' :: rest =>
      let (rs, t) ← ways fuel (level + 1) rest
      match t with
      | ')' :: t =>
        if rs.any fun r => match r with | .sequence [] => true | _ => false then
          throw missingOperand
        single (.choice rs) t
      | _ => throw "missing ')'"
    | '*' :: _ | '+' :: _ | '?' :: _ => throw missingOperand
    | '^' :: rest =>
      match rest with
      | '*' :: _ | '+' :: _ => throw "syntax error ^* or ^+"
      | _ => goOn (.start false) rest
    | '$' :: rest => goOn (.finish false) rest
    | '.' :: rest => single (.one fun _ => true) rest
    | '[' :: rest =>
      let (r, t) ← set rest
      single r t
    | ['\\'] => single (.one (· == '\\')) []
    | '\\' :: rest =>
      match escaped rest, rest with
      | some (c, rest), _ => single (.one (· == c)) rest
      | none, c :: rest => single (.one (· == c)) rest
      | none, [] => return ([], [])
    | c :: rest => single (.one (· == c)) rest

end

/-- An expression as scripts write it. -/
def read (t : Text) : Except PatternFault Matcher := do
  let fuel := 4 * t.length + 16
  let (rs, _) ← ways fuel 0 t
  match rs with
  | [.sequence []] => pure ()
  | rs =>
    if rs.any fun r => match r with | .sequence [] => true | _ => false then throw missingOperand
  return ⟨.choice rs, 0, false, fuel + 32768, []⟩

def message (why : PatternFault) (t : Text) : Text :=
  "regular expression compile failed (".toList ++ why.toList ++ ")\n".toList ++ t

end Pattern

/-- A text with its escapes undone. Those that have no meaning stay. -/
def unescaped : Nat → Text → Text
  | 0, _ | _ + 1, [] => []
  | fuel + 1, '\\' :: t =>
    match t with
    | '"' :: t => '"' :: unescaped fuel t
    | '\\' :: t => '\\' :: unescaped fuel t
    | t =>
      match Pattern.escaped t with
      | some (c, t) => c :: unescaped fuel t
      | none => '\\' :: unescaped fuel t
  | fuel + 1, c :: t => c :: unescaped fuel t

def withoutEscapesIn (t : Text) : Text := unescaped (t.length + 1) t

end RemoteInterpreter.Shell.Tool.Awk
