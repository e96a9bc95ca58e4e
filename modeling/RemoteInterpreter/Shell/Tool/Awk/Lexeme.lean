import RemoteInterpreter.Shell.Tool.Awk.Pattern

/-!
# Words of scripts

A script falls apart into tokens. A slash begins an expression where an operand may stand,
and divides otherwise. What is wrong with the words themselves is noted and told when the
script has been read; only a text that has no end and a character that has no meaning end
the reading at once.
-/

namespace RemoteInterpreter.Shell.Tool.Awk

inductive Token where
  | number (x : Binary64)
  | text (t : Text)
  | pattern (m : Matcher)
  | name (s : String)
  /-- A name that an opening parenthesis follows at once. -/
  | call (s : String)
  | builtin (s : String)
  | word (s : String)
  | sign (s : String)
  | newline
  | done

/-- A token where it stands. -/
structure Item where
  token : Token
  shown : Text
  line : Nat
  /-- Parentheses and braces that are open before it. -/
  parentheses : Nat
  braces : Nat

/-- What is wrong with a script. -/
structure Note where
  /-- How many tokens stand before. -/
  place : Nat
  message : Text

def keywords : List String :=
  ["print", "printf", "getline", "if", "else", "while", "do", "for", "in", "break", "continue",
   "next", "nextfile", "exit", "return", "delete", "function", "BEGIN", "END"]

/-- Functions that are always there, with the least and the greatest number of their arguments. -/
def builtins : List (String × Nat × Nat) :=
  [("atan2", 2, 2), ("close", 1, 1), ("cos", 1, 1), ("exp", 1, 1), ("fflush", 0, 1),
   ("gsub", 2, 3), ("index", 2, 2), ("int", 1, 1), ("length", 0, 1), ("log", 1, 1),
   ("match", 2, 2), ("rand", 0, 0), ("sin", 1, 1), ("split", 2, 3), ("sprintf", 1, 255),
   ("sqrt", 1, 1), ("srand", 0, 1), ("sub", 2, 3), ("substr", 2, 3), ("system", 1, 1),
   ("tolower", 1, 1), ("toupper", 1, 1)]

def isNameStart (c : Char) : Bool := c.isAlpha || c == '_'

def isNamePart (c : Char) : Bool := c.isAlphanum || c == '_'

/-- Signs, the longer ones first. -/
def signs : List String :=
  ["++", "--", "+=", "-=", "*=", "/=", "%=", "^=", "==", "!=", "!~", "<=", ">=", "&&", "||", ">>",
   "\x7b", "\x7d", "(", ")", "[", "]", ";", ",", "+", "-", "*", "/", "%", "^", "!", "<", ">", "|",
   "?", ":", "~", "$", "="]

/-- Whether a slash behind a token divides. -/
def Token.isOperand : Token → Bool
  | .number _ | .text _ | .pattern _ | .name _ => true
  | .sign s => [")", "]", "$", "++", "--"].contains s
  | .word s => s = "getline"
  | .builtin s => s = "length"
  | _ => false

structure Lexing where
  line : Nat
  parentheses : Nat
  braces : Nat
  /-- What has been read, the last one first. -/
  items : List Item
  notes : List Note
  /-- The script cannot be read any further. -/
  fatal : Option Text

def lineMessage (line : Nat) (message : Text) : Text :=
  "line ".toList ++ Numeral.write line ++ ": ".toList ++ message

namespace Lexing

def add (token : Token) (shown : Text) (l : Lexing) : Lexing :=
  { l with items := ⟨token, shown, l.line, l.parentheses, l.braces⟩ :: l.items }

def note (message : Text) (l : Lexing) : Lexing :=
  { l with notes := ⟨l.items.length, lineMessage l.line message⟩ :: l.notes }

def runaway (what : String) (t : Text) (l : Lexing) : Lexing :=
  { l with fatal := some (lineMessage l.line
      ("runaway ".toList ++ what.toList ++ ' ' :: t.take 10 ++ " ...".toList)) }

def last (l : Lexing) : Token := (l.items.head?.map Item.token).getD .newline

/-- A number at the beginning of a text, and what stands behind it. -/
def numberAhead (t : Text) : Text × Text :=
  let (_, _, behind) := digitsAhead 10 t
  let behind := match behind with
    | e :: more =>
      let digits := match more with
        | c :: rest => if c = '+' || c = '-' then rest else more
        | [] => []
      if (e = 'e' || e = 'E') && digits.head?.any Char.isDigit then digits.dropWhile Char.isDigit
      else behind
    | [] => []
  (t.take (t.length - behind.length), behind)

/-- The text of a string up to its end, as it is written, and what stands behind it. Ends of lines
behind a backslash are left out. -/
def stringAhead : Nat → Text → Text → Option (Text × Text × Nat) × Text
  | 0, before, _ => (none, before.reverse)
  | fuel + 1, before, t =>
    match t with
    | [] => (none, before.reverse)
    | '"' :: rest => (some (before.reverse, rest, 0), [])
    | '\\' :: '\n' :: rest =>
      match stringAhead fuel before rest with
      | (some (u, rest, n), v) => (some (u, rest, n + 1), v)
      | r => r
    | '\\' :: c :: rest => stringAhead fuel (c :: '\\' :: before) rest
    | '\n' :: _ => (none, before.reverse)
    | c :: rest => stringAhead fuel (c :: before) rest

/-- The text of an expression up to its slash. Within a set a slash stands for itself. -/
def patternAhead : Nat → Bool → Text → Text → Option (Text × Text) × Text
  | 0, _, before, _ => (none, before.reverse)
  | fuel + 1, inSet, before, t =>
    match t with
    | [] | '\n' :: _ => (none, before.reverse)
    | '\\' :: '\n' :: rest => patternAhead fuel inSet before rest
    | '\\' :: '/' :: rest => patternAhead fuel inSet ('/' :: before) rest
    | '\\' :: c :: rest => patternAhead fuel inSet (c :: '\\' :: before) rest
    | '[' :: '^' :: ']' :: rest =>
      if inSet then patternAhead fuel inSet ('[' :: before) ('^' :: ']' :: rest)
      else patternAhead fuel true (']' :: '^' :: '[' :: before) rest
    | '[' :: ']' :: rest =>
      if inSet then patternAhead fuel inSet ('[' :: before) (']' :: rest)
      else patternAhead fuel true (']' :: '[' :: before) rest
    | '[' :: ':' :: rest =>
      let name := rest.takeWhile Char.isAlpha
      if inSet && [':', ']'].isPrefixOf (rest.drop name.length) then
        patternAhead fuel true (']' :: ':' :: name.reverse ++ ':' :: '[' :: before)
          (rest.drop (name.length + 2))
      else patternAhead fuel true (':' :: '[' :: before) rest
    | c :: rest =>
      if c = '/' && !inSet then (some (before.reverse, rest), [])
      else patternAhead fuel (if inSet then c ≠ ']' else c = '[') (c :: before) rest

/-- Blanks, comments and ends of lines. -/
def skipLines : Nat → Lexing → Text → Lexing × Text
  | 0, l, t => (l, t)
  | fuel + 1, l, t =>
    match t with
    | '\n' :: rest => skipLines fuel { l with line := l.line + 1 } rest
    | '#' :: rest => skipLines fuel l (rest.dropWhile (· ≠ '\n'))
    | '\\' :: '\n' :: rest => skipLines fuel { l with line := l.line + 1 } rest
    | c :: rest => if c = ' ' || c = '\t' || c = '\r' then skipLines fuel l rest else (l, t)
    | [] => (l, [])

/-- Takes a sign. -/
def sign (s : String) (l : Lexing) : Lexing :=
  if s = "(" then
    let l := l.add (.sign s) s.toList
    { l with parentheses := l.parentheses + 1 }
  else if s = ")" then
    if l.parentheses = 0 then l.note "extra ')'".toList
    else ({ l with parentheses := l.parentheses - 1 }).add (.sign s) s.toList
  else if s = "\x7b" then
    let l := l.add (.sign s) s.toList
    { l with braces := l.braces + 1 }
  else if s = "\x7d" then
    if l.braces = 0 then l.note "extra '\x7d'".toList
    else
      let l := l.add (.sign s) s.toList
      { l with braces := l.braces - 1, parentheses := 0 }
  else l.add (.sign s) s.toList

def name (s : String) (rest : Text) (l : Lexing) : Lexing :=
  if keywords.contains s then l.add (.word s) s.toList
  else if builtins.any (·.1 = s) then l.add (.builtin s) s.toList
  else if rest.head? = some '(' then l.add (.call s) s.toList
  else l.add (.name s) s.toList

/-- Whether ends of lines have no meaning behind a sign. -/
def joinsLines (s : String) : Bool :=
  ["\x7b", "\x7d", ";", ",", "&&", "||"].contains s

/-- The next token. -/
def step (l : Lexing) (c : Char) (rest : Text) : Lexing × Text :=
  let t := c :: rest
  if c = '"' then
    match stringAhead (t.length + 1) [] rest with
    | (some (u, rest, n), _) =>
      let l := l.add (.text (withoutEscapesIn u)) (c :: u ++ [c])
      ({ l with line := l.line + n }, rest)
    | (none, u) => (l.runaway "string constant" (c :: u), [])
  else if c.isDigit || (c = '.' && rest.head?.any Char.isDigit) then
    let (u, rest) := numberAhead t
    match realAhead? u with
    | some a =>
      let l := if a.isClipped then
          l.note (u ++ (if a.value.isZero then " : decimal underflow" else
            " : decimal overflow").toList)
        else l
      (l.add (.number a.value) u, rest)
    | none => (l.add (.number Amount.zero) u, rest)
  else if isNameStart c then
    let u := t.takeWhile isNamePart
    let rest := t.drop u.length
    let l := l.name (Text.str u) rest
    if u = "else".toList || u = "do".toList then skipLines (rest.length + 1) l rest else (l, rest)
  else if c = '/' && !l.last.isOperand then
    match patternAhead (t.length + 1) false [] rest with
    | (none, u) => (l.runaway "regular expression" (c :: u), [])
    | (some (u, rest), _) =>
      match Pattern.read u with
      | .ok m => (l.add (.pattern m) (c :: u ++ [c]), rest)
      | .error why =>
        let l := l.note (Pattern.message why u)
        (l.add (.pattern (Regex.ofText false u)) (c :: u ++ [c]), rest)
  else
    match signs.find? fun s => s.toList.isPrefixOf t with
    | some s =>
      let isExtra := s = "\x7d" && l.braces = 0
      let l := l.sign s
      let rest := t.drop s.length
      if joinsLines s && !isExtra then skipLines (rest.length + 1) l rest else (l, rest)
    | none =>
      let shown : Text := if ' ' < c && c < '\x7f' then ['\'', c, '\'']
        else "0x".toList ++ (let digits := Nat.toDigits 16 c.toNat
          if digits.length < 2 then '0' :: digits else digits)
      ({ l with fatal := some (Numeral.write l.line ++ ": unexpected character ".toList ++
          shown) }, [])

/-- All tokens. -/
def run : Nat → Lexing → Text → Lexing
  | 0, l, _ => l
  | fuel + 1, l, t =>
    match t with
    | [] => l
    | '\n' :: rest =>
      let l := l.add .newline "end of line".toList
      let (l, rest) := skipLines (rest.length + 1) { l with line := l.line + 1 } rest
      run fuel l rest
    | '#' :: rest => run fuel l (rest.dropWhile (· ≠ '\n'))
    | '\\' :: '\n' :: rest => run fuel { l with line := l.line + 1 } rest
    | '\\' :: '\r' :: '\n' :: rest => run fuel { l with line := l.line + 1 } rest
    | c :: rest =>
      if c = ' ' || c = '\t' || c = '\r' then run fuel l rest
      else
        let (l, rest) := l.step c rest
        run fuel l rest

/-- The tokens of a script, and one for its end. -/
def of (t : Text) : Lexing :=
  let t := t ++ ['\n']
  let (l, t) := skipLines (t.length + 1) ⟨1, 0, 0, [], [], none⟩ t
  let l := run (t.length + 1) l t
  let l := l.add .done "end of file".toList
  { l with items := l.items.reverse, notes := l.notes.reverse }

end Lexing

end RemoteInterpreter.Shell.Tool.Awk
