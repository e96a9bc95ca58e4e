import RemoteInterpreter.Shell.Token

/-!
# Words

How a word is taken out of a script. Quotes, braces and parentheses lie in each other in
layers; a word is over where the outermost layer ends. It comes as a row of items, from
which its pieces are built. Reading pauses where commands stand inside the word.
-/

namespace RemoteInterpreter.Shell

/-- How characters are taken. -/
inductive Quoting where
  | bare
  | single
  | double
  /-- Inside an arithmetic expression. -/
  | sum
  deriving DecidableEq, Repr

structure Layer where
  quoting : Quoting
  /-- Double quotes are around, or were when the layer began. -/
  isDouble : Bool
  /-- How many braces of parameters are open. -/
  braces : Nat
  /-- How many of those were opened inside double quotes. -/
  doubleBraces : Nat
  parens : Nat
  /-- Double quotes are open inside braces. -/
  innerDouble : Bool
  /-- The layer ends with its last brace. -/
  isNested : Bool

def Layer.of (q : Quoting) : Layer :=
  ⟨q, q = .double || q = .sum, 0, 0, 0, false, false⟩

/-- What is behind the name of a parameter. -/
inductive Operator where
  | length
  | trimmed (trim : Trim)
  | orElse (empty : Bool)
  | orAssign (empty : Bool)
  | orFail (empty : Bool)
  | instead (empty : Bool)
  /-- A colon alone. -/
  | colon
  | bad

inductive Item where
  | char (quoted : Bool) (c : Char)
  | mark
  | value (quoted : Bool) (name : Text)
  | opening (quoted : Bool) (name : Text) (operator : Operator)
  | closing
  | sum (quoted : Bool)
  | sumEnd
  | output (quoted : Bool) (c : Command)

/-! Parameters -/

/-- What an operator sign stands for. -/
def signed? (empty : Bool) (c : Option Char) : Option Operator :=
  match c with
  | some '-' => some (.orElse empty)
  | some '=' => some (.orAssign empty)
  | some '?' => some (.orFail empty)
  | some '+' => some (.instead empty)
  | _ => none

/-- From the character behind a name in braces. Without an operator there is only a value. -/
def operatorFrom (c : Option Char) (s : Source) : Option Operator × Source :=
  let trim (sign : Char) (short long : Trim) : Option Operator × Source :=
    match s.takeJoined with
    | (d, t) =>
      if d = some sign then (some (.trimmed long), t)
      else (some (.trimmed short), t.unget d)
  match c with
  | some '\x7d' => (none, s)
  | some ':' =>
    match s.takeJoined with
    | (some '\x7d', t) => (some .colon, t)
    | (d, t) => (some ((signed? true d).getD .bad), t)
  | some '%' => trim '%' .shortestSuffix .longestSuffix
  | some '#' => trim '#' .shortestPrefix .longestPrefix
  | c => (some ((signed? false c).getD .bad), s)

/-- A name of letters or of digits, and the character behind it. -/
def nameFrom (allDigits : Bool) (c : Char) (s : Source) : Text × Option Char × Source :=
  if Identifier.isStart c then
    let (t, d, s) := s.takeWhile Identifier.isPart
    (c :: t, d, s)
  else if allDigits then
    let (t, d, s) := s.takeWhile Char.isDigit
    (c :: t, d, s)
  else
    let (d, s) := s.takeJoined
    ([c], d, s)

/-- A parameter without braces, from its first character. -/
def plainParameter (c : Char) (s : Source) : Text × Source :=
  let (name, d, s) := nameFrom false c s
  (name, s.unget d)

/-- Behind a number sign in braces: either a length is wanted, or the sign is the name. -/
def lengthParameter (d : Option Char) (s : Source) : Text × Option Operator × Source :=
  let isName (c : Char) : Bool := c == '_' || c.isAlphanum
  match d with
  | some c =>
    if isName c then
      let (name, e, s) := nameFrom true c s
      (name, some (if e = some '\x7d' then .length else .bad), s.unget e)
    else
      let (e, t) := s.takeJoined
      if c = '\x7d' || e ≠ some '\x7d' then
        let (o, t) := operatorFrom d (t.unget e)
        (['#'], o, t)
      else if isParameterSign c then ([c], some .length, t.unget e)
      else ([], some .bad, t.unget e)
  | none =>
    let (o, t) := operatorFrom none s
    (['#'], o, t)

/-- A parameter in braces, from its first character. -/
def bracedParameter (c : Option Char) (s : Source) : Text × Option Operator × Source :=
  match c with
  | none => ([], some .bad, s)
  | some '\x7d' => ([], some .bad, s.unget c)
  | some c =>
    if Identifier.isStart c || c.isDigit then
      let (name, d, s) := nameFrom true c s
      let (o, s) := operatorFrom d s
      (name, o, s)
    else
      let (d, s) := s.takeJoined
      if c = '#' then lengthParameter d s
      else if isParameterSign c then
        let (o, s) := operatorFrom d s
        ([c], o, s)
      else ([], some .bad, s.unget d)

/-! Scanning -/

structure Scan where
  source : Source
  layer : Layer
  /-- The layers around it, the innermost first. -/
  outer : List Layer
  /-- The latest first. -/
  items : List Item
  isQuoted : Bool

/-- The line that ends a text inside a script, and whether tabs before it do not count. -/
structure Ending where
  mark : Text
  strips : Bool

/-- Where scanning comes to a stop. -/
inductive Pause where
  /-- The word is over before a character. -/
  | finished (s : Scan) (c : Option Char)
  | command (s : Scan)
  | backquoted (s : Scan)

inductive Step where
  | next (s : Scan)
  /-- A line has ended. -/
  | line (s : Scan)
  | stop (p : Pause)

namespace Scan

def of (q : Quoting) (s : Source) : Scan := ⟨s, .of q, [], [], false⟩

def put (i : Item) (s : Scan) : Scan := { s with items := i :: s.items }

/-- Whether what stands here is quoted. -/
def quotes (s : Scan) : Bool := s.layer.quoting ≠ .bare

def putChar (c : Char) (s : Scan) : Scan := s.put (.char s.quotes c)

def push (l : Layer) (s : Scan) : Scan := { s with layer := l, outer := s.layer :: s.outer }

def pop (s : Scan) : Scan :=
  match s.outer with
  | l :: ls => { s with layer := l, outer := ls }
  | [] => s

/-- Quotes inside a script's texts are nothing special. -/
def mark (ending : Option Ending) (s : Scan) : Scan :=
  if ending.isSome then s else s.put .mark

def toggleDouble (s : Scan) : Scan :=
  if s.layer.braces = 0 then s
  else { s with layer := { s.layer with innerDouble := !s.layer.innerDouble } }

def backslash (ending : Option Ending) (s : Scan) : Step :=
  let (c, source) := s.source.take
  let s := { s with source := source }
  match c with
  | none => .next (s.put (.char true '\\'))
  | some '\n' => .next { s with source := s.source.nextLine }
  | some c =>
    let isEscape := c == '\\' || c == '`' || c == '$' ||
      (c == '"' && !(ending.isSome && s.layer.braces = 0)) ||
      (c == '\x7d' && s.layer.braces ≠ 0)
    let s := if s.layer.isDouble && !isEscape then s.put (.char true '\\') else s
    .next { s.put (.char true c) with isQuoted := true }

def openQuote (ending : Option Ending) (q : Quoting) (s : Scan) : Step :=
  let l := { s.layer with quoting := q, isDouble := s.layer.isDouble || q = .double }
  let s := { s with layer := l }
  .next ((if q = .double then s.toggleDouble else s).mark ending)

def closeQuote (ending : Option Ending) (c : Char) (s : Scan) : Step :=
  if ending.isSome && s.layer.braces = 0 then .next (s.putChar c)
  else
    let l := if s.layer.doubleBraces = 0 then { s.layer with quoting := .bare, isDouble := false }
      else s.layer
    let s := { s with layer := l, isQuoted := true }
    .next ((if c = '"' then s.toggleDouble else s).mark ending)

/-- Patterns are not quoted by what is around the braces. -/
def beginOperation (name : Text) (o : Operator) (s : Scan) : Scan :=
  let quoting := match o with
    | .trimmed _ => .bare
    | _ => if s.layer.quoting = .sum then .double else s.layer.quoting
  let s' := s.put (.opening s.quotes name o)
  let s' := if quoting ≠ s.layer.quoting || s.layer.innerDouble then
    s'.push { Layer.of quoting with isNested := true } else s'
  let l := s'.layer
  { s' with layer :=
      { l with
        braces := l.braces + 1
        doubleBraces := if l.isDouble then l.doubleBraces + 1 else l.doubleBraces } }

def closeBrace (s : Scan) : Step :=
  let l := s.layer
  if l.innerDouble || l.braces = 0 then .next (s.putChar '\x7d')
  else
    let l := { l with braces := l.braces - 1 }
    let s := { s with layer := l }.put .closing
    if l.braces = 0 && l.isNested then .next s.pop
    else .next { s with layer := { l with doubleBraces := l.doubleBraces - 1 } }

def dollar (s : Scan) : Step :=
  let (c, source) := s.source.takeJoined
  let alone : Step := .next { s.putChar '$' with source := source.unget c }
  if source.checks.ending then alone
  else
    match c with
    | none => alone
    | some '(' =>
      match source.takeJoined with
      | (some '(', source) =>
        .next ({ s.put (.sum s.quotes) with source := source }.push (.of .sum))
      | (d, source) => .stop (.command { s with source := source.unget d })
    | some '\x7b' =>
      let (d, source) := source.takeJoined
      let (name, o, source) := bracedParameter d source
      let s := { s with source := source }
      match o with
      | none => .next (s.put (.value s.quotes name))
      | some o => .next (s.beginOperation name o)
    | some c =>
      if Identifier.isStart c || isParameterSign c then
        let (name, source) := plainParameter c source
        .next { s.put (.value s.quotes name) with source := source }
      else alone

def closeParen (s : Scan) : Step :=
  let l := s.layer
  if 0 < l.parens then .next { s.putChar ')' with layer := { l with parens := l.parens - 1 } }
  else
    match s.source.takeJoined with
    | (some ')', source) => .next { s.put .sumEnd with source := source }.pop
    | (d, source) => .next { s.putChar ')' with source := source.unget d }

/-- What ends a word that is not quoted. -/
def isDelimiter (c : Char) : Bool :=
  c == ' ' || c == '\t' || c == ';' || c == '&' || c == '|' || c == '<' || c == '>' || c == '(' ||
    c == ')'

/-- Octets that the shell keeps for itself count as quoted. -/
def isKept (c : Char) : Bool := '\x81' ≤ c && c ≤ '\x88'

def step (ending : Option Ending) (c : Char) (s : Scan) : Step :=
  let stopUnlessBraced : Step :=
    if s.layer.braces = 0 then .stop (.finished s (some c)) else .next (s.putChar c)
  let backquote : Step :=
    if s.source.checks.ending then .next (s.putChar c) else .stop (.backquoted s)
  match s.layer.quoting, c with
  | q, '\n' =>
    if q = .bare && s.layer.braces = 0 then .stop (.finished s (some c))
    else .line { s.putChar c with source := s.source.nextLine }
  | .single, '\'' => s.closeQuote ending c
  | .single, c => .next (s.putChar c)
  | _, '\\' => s.backslash ending
  | _, '`' => backquote
  | _, '$' => s.dollar
  | _, '\x7d' => s.closeBrace
  | .bare, '\'' => s.openQuote ending .single
  | .bare, '"' => s.openQuote ending .double
  | .double, '"' => s.closeQuote ending c
  | .sum, '(' =>
    .next { s.putChar c with layer := { s.layer with parens := s.layer.parens + 1 } }
  | .sum, ')' => s.closeParen
  | .bare, c =>
    if isDelimiter c then stopUnlessBraced else .next (s.put (.char (isKept c) c))
  | _, c => .next (s.putChar c)

def takeNext (s : Scan) : Option Char × Scan :=
  let (c, source) := if s.layer.quoting = .single then s.source.take else s.source.takeJoined
  (c, { s with source := source })

/-- What is behind a mark, if it stands here: the end of a line, or the end of all. -/
def behindMark : Text → Option Char → Source → Option (Option Char × Source)
  | [], c, s => if c = none || c = some '\n' then some (none, s.nextLine) else none
  | m :: ms, c, s =>
    if c = some m then
      let (c, s) := s.take
      behindMark ms c s
    else none

def withoutTabsFor : Nat → Option Char → Source → Option Char × Source
  | fuel + 1, some '\t', s =>
    let (c, s) := s.take
    withoutTabsFor fuel c s
  | _, c, s => (c, s)

/-- At the beginning of a line: the text is over if this is the line that ends it. -/
def beginLine (ending : Option Ending) (c : Option Char) (s : Scan) : Option Char × Scan :=
  match ending with
  | none => (c, s)
  | some e =>
    let (c, source) := if e.strips then withoutTabsFor Source.longest c s.source else (c, s.source)
    match behindMark e.mark c source with
    | some (c, source) => (c, { s with source := source })
    | none => (c, { s with source := source })

def runFor (ending : Option Ending) : Nat → Option Char → Scan → Pause
  | 0, c, s => .finished s c
  | fuel + 1, c, s =>
    match c with
    | none => .finished s none
    | some c =>
      match s.step ending c with
      | .stop p => p
      | .next s =>
        let (c, s) := s.takeNext
        runFor ending fuel c s
      | .line s =>
        let (c, s) := s.takeNext
        let (c, s) := s.beginLine ending c
        runFor ending fuel c s

/-- From the first character of a word. -/
def run (ending : Option Ending) (c : Option Char) (s : Scan) : Pause :=
  let (c, s) := s.beginLine ending c
  runFor ending Source.longest c s

/-- Goes on behind commands inside the word. -/
def resume (ending : Option Ending) (s : Scan) : Pause :=
  let (c, s) := s.takeNext
  runFor ending Source.longest c s

/-- What is not closed where a word is over. -/
def lack? (ending : Option Ending) (s : Scan) : Option String :=
  if s.layer.quoting = .sum then some "Missing '))'"
  else if s.layer.quoting ≠ .bare && ending.isNone then some "Unterminated quoted string"
  else if s.layer.braces ≠ 0 then some "Missing '\x7d'"
  else none

end Scan

/-! Pieces -/

/-- A word in the making, from its end: its pieces, and those behind the braces around it. -/
structure Assembly where
  pieces : Word
  behind : List Word

def Operator.operation (w : Word) : Operator → Operation
  | .length => .length
  | .trimmed t => .trimmed t w
  | .orElse e => .orElse e w
  | .orAssign e => .orAssign e w
  | .orFail e => .orFail e w
  | .instead e => .instead e w
  | .colon => .plain
  | .bad => .bad

def Assembly.add (a : Assembly) (i : Item) : Assembly :=
  match i with
  | .char quoted c =>
    match a.pieces with
    | .literal q t :: ps =>
      if q = quoted then { a with pieces := .literal q (c :: t) :: ps }
      else { a with pieces := .literal quoted [c] :: a.pieces }
    | ps => { a with pieces := .literal quoted [c] :: ps }
  | .mark =>
    match a.pieces with
    | .value true ['@'] .plain :: .mark :: ps =>
      { a with pieces := .value true ['@'] .plain :: ps }
    | ps => { a with pieces := .mark :: ps }
  | .value quoted name => { a with pieces := .value quoted name .plain :: a.pieces }
  | .output quoted c => { a with pieces := .output quoted c :: a.pieces }
  | .closing | .sumEnd => ⟨[], a.pieces :: a.behind⟩
  | .opening quoted name .colon =>
    ⟨.value quoted name .plain :: a.pieces, a.behind.tail⟩
  | .opening quoted name o =>
    ⟨.value quoted name (o.operation a.pieces) :: a.behind.headD [], a.behind.tail⟩
  | .sum quoted => ⟨.arithmetic quoted a.pieces :: a.behind.headD [], a.behind.tail⟩

/-- The word that some items make up, the latest of which comes first. All parameters by themselves
in quotes may be no field at all. -/
def Word.ofItems (items : List Item) : Word := (items.foldl Assembly.add ⟨[], []⟩).pieces

/-- The text of items that are all quoted or none. -/
def Item.text? : List Item → Option Text
  | [] => some []
  | .char false c :: items => (Item.text? items).map (c :: ·)
  | _ => none

/-- The characters among items. -/
def Item.chars (items : List Item) : Text :=
  items.filterMap fun i => match i with
    | .char _ c => some c
    | _ => none

/-- A word as it was read. -/
structure Lexeme where
  word : Word
  /-- Its text, if nothing in it is quoted or expanded. -/
  text? : Option Text
  /-- Its characters, whether they are quoted or not. -/
  chars : Text
  isQuoted : Bool

def Lexeme.empty : Lexeme := ⟨[], some [], [], false⟩

def Scan.lexeme (s : Scan) : Lexeme :=
  ⟨.ofItems s.items, Item.text? s.items.reverse, Item.chars s.items.reverse, s.isQuoted⟩

end RemoteInterpreter.Shell
