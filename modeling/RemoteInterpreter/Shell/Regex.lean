import RemoteInterpreter.Shell.Pattern

/-!
# Regular expressions

The expressions of the tools that search and edit lines, in their basic and in their
extended form. Of all matches that begin first the longest counts, and of its parts the
earlier ones are as long as they can be.
-/

namespace RemoteInterpreter.Shell

inductive Regex where
  | one (fits : Char → Bool)
  /-- The beginning of the text, or of any line in it. -/
  | start (ofLine : Bool)
  | finish (ofLine : Bool)
  /-- Between two characters, of which it matters whether they belong to words. -/
  | between (fits : Bool → Bool → Bool)
  | sequence (parts : List Regex)
  | choice (ways : List Regex)
  | repetition (r : Regex) (least : Nat) (most : Option Nat)
  | group (n : Nat) (r : Regex)
  | again (n : Nat)

/-- What is wrong with an expression. -/
inductive RegexFault where
  | openBracket
  | openGroup
  | closingGroup
  | openBrace
  | braceContent
  | nothingToRepeat
  | tooGreat
  | reference
  | backslash
  | className
  | range
  | collation
  | bareClass
  deriving DecidableEq, Repr

def RegexFault.message : RegexFault → String
  | .openBracket => "Unmatched [, [^, [:, [., or [="
  | .openGroup => "Unmatched ( or \\("
  | .closingGroup => "Unmatched ) or \\)"
  | .openBrace => "Unmatched \\\x7b"
  | .braceContent => "Invalid content of \\\x7b\\\x7d"
  | .nothingToRepeat => "Invalid preceding regular expression"
  | .tooGreat => "Regular expression too big"
  | .reference => "Invalid back reference"
  | .backslash => "Trailing backslash"
  | .className => "Invalid character class name"
  | .range => "Invalid range end"
  | .collation => "Invalid collation character"
  | .bareClass => "character class syntax is [[:space:]], not [:space:]"

namespace Regex

def isWordPart (c : Char) : Bool := c.isAlphanum || c == '_'

/-! Matching -/

/-- How far a match has come. -/
structure Spot where
  position : Nat
  /-- The character before. -/
  before : Option Char
  rest : Text
  /-- Where the groups began and what they are, the latest first. -/
  groups : List (Nat × Text)

/-- The beginning of a text. -/
def Spot.of (t : Text) : Spot := ⟨0, none, t, []⟩

def Spot.advance (n : Nat) (s : Spot) : Spot :=
  if n = 0 then s
  else
    { s with
      position := s.position + n
      before := (s.rest.take n).getLast?.orElse fun _ => s.before
      rest := s.rest.drop n }

/-- Of spots that differ in nothing that matters the first one stays. -/
def distinct (spots : List Spot) : List Spot :=
  match spots with
  | [] | [_] => spots
  | spots =>
    (spots.foldl (fun (kept : List Spot) s =>
      if kept.any fun k => k.position = s.position then kept else s :: kept) []).reverse

/-- Where runs of characters that fit can end, the longest first. -/
def runs (fits : Char → Bool) (least : Nat) (most : Option Nat) (s : Spot) : List Spot :=
  let run := s.rest.takeWhile fits
  let longest := match most with
    | some n => min n run.length
    | none => run.length
  let rec go : Nat → Nat → Spot → List Spot → List Spot
    | 0, _, _, found => found
    | fuel + 1, n, s, found =>
      let found := if least ≤ n then s :: found else found
      match s.rest with
      | c :: rest =>
        if n < longest then go fuel (n + 1) ⟨s.position + 1, some c, rest, s.groups⟩ found
        else found
      | [] => found
  go (longest + 1) 0 s []

/-- Where a match can end, the preferred ways first. Where the same text can be matched in several
ways the preferred one counts, unless the expression refers to its groups. -/
def ends (refers : Bool) : Nat → Regex → Spot → List Spot
  | 0, _, _ => []
  | fuel + 1, r, s =>
    let tidy (spots : List Spot) : List Spot := if refers then spots else distinct spots
    match r with
    | .one fits =>
      match s.rest with
      | c :: rest => if fits c then [⟨s.position + 1, some c, rest, s.groups⟩] else []
      | [] => []
    | .start ofLine =>
      if s.position = 0 || (ofLine && s.before == some '\n') then [s] else []
    | .finish ofLine =>
      if s.rest.isEmpty || (ofLine && s.rest.head? == some '\n') then [s] else []
    | .between fits =>
      if fits (s.before.any isWordPart) (s.rest.head?.any isWordPart) then [s] else []
    | .sequence [] => [s]
    | .sequence [p] => ends refers fuel p s
    | .sequence (p :: ps) =>
      tidy ((ends refers fuel p s).flatMap (ends refers fuel (.sequence ps)))
    | .choice ways =>
      let all := ways.flatMap fun w => ends refers fuel w s
      match all with
      | [] | [_] => all
      | all => tidy (all.mergeSort fun a b => b.position ≤ a.position)
    | .repetition (.one fits) least most => runs fits least most s
    | .repetition r least most =>
      let stop := if least = 0 then [s] else []
      if most = some 0 then stop
      else
        let further := (ends refers fuel r s).filter fun t => s.position < t.position || 0 < least
        tidy (further.flatMap
          (ends refers fuel (.repetition r (least - 1) (most.map (· - 1)))) ++ stop)
    | .group n r =>
      (ends refers fuel r s).map fun t =>
        { t with groups := (n, s.rest.take (t.position - s.position)) :: t.groups }
    | .again n =>
      match s.groups.lookup n with
      | none => []
      | some t => if t.isPrefixOf s.rest then [s.advance t.length] else []

def longest (spots : List Spot) : Option Spot :=
  spots.foldl (fun best s =>
    match best with
    | none => some s
    | some b => if b.position < s.position then some s else best) none

end Regex

/-- An expression that has been read. -/
structure Matcher where
  regex : Regex
  /-- How many groups there are. -/
  groups : Nat
  /-- It refers to its groups. -/
  refers : Bool
  /-- How deep it is nested. -/
  depth : Nat
  /-- Operators that had nothing to work on. -/
  idle : List Char

namespace Matcher

open Regex (Spot)

/-- Where matches that begin here can end. -/
def endsAt (m : Matcher) (s : Spot) : List Spot :=
  Regex.ends m.refers (2 * s.rest.length + m.depth) m.regex { s with groups := [] }

/-- The match that begins here. -/
def matchAt (m : Matcher) (s : Spot) : Option Spot := Regex.longest (m.endsAt s)

/-- The first match from here on: where it begins and where it ends. -/
def find (m : Matcher) : Nat → Spot → Option (Spot × Spot)
  | 0, _ => none
  | fuel + 1, s =>
    match m.matchAt s with
    | some t => some (s, t)
    | none => if s.rest.isEmpty then none else find m fuel (s.advance 1)

/-- The first match from a spot on. -/
def from? (m : Matcher) (s : Spot) : Option (Spot × Spot) := m.find (s.rest.length + 1) s

def search (m : Matcher) (t : Text) : Option (Spot × Spot) := m.from? (Spot.of t)

end Matcher

namespace Regex

/-! Reading -/

/-- How expressions are written. -/
structure Dialect where
  extended : Bool
  ignoresCase : Bool
  /-- Operators that have nothing to work on stand for themselves. -/
  isLenient : Bool
  /-- The ends of lines are found within the text. -/
  hasLines : Bool
  /-- There are escapes within sets. -/
  escapesInSets : Bool
  /-- There are references to groups, and escapes that stand for classes. -/
  isRich : Bool
  /-- There are escapes for digits. -/
  hasDigits : Bool

def Dialect.basic : Dialect := ⟨false, false, false, false, false, true, false⟩

/-- What stands for an octet that is no part of a character. -/
def isBroken (c : Char) : Bool := 0x10ff00 ≤ c.toNat

abbrev Read (α : Type) := Except RegexFault α

def literal (d : Dialect) (c : Char) : Regex :=
  if d.ignoresCase && c.isAlpha then .one fun e => e.toLower == c.toLower else .one (· == c)

/-- An item of a set that has a name: what fits it, and what stands behind it. -/
def named? (sign : Char) (t : Text) : Read ((Char → Bool) × Text) :=
  let rec name : Text → Option (Text × Text)
    | c :: d :: rest =>
      if c = sign && d = ']' then some ([], rest)
      else (name (d :: rest)).map fun (n, rest) => (c :: n, rest)
    | _ => none
  match name t with
  | none => throw .openBracket
  | some (n, rest) =>
    if sign = ':' then
      let classes := ["alnum", "alpha", "blank", "cntrl", "digit", "graph", "lower", "print",
        "punct", "space", "upper", "xdigit"]
      if classes.contains n.str then return (inClass n.str, rest) else throw .className
    else
      match n with
      | [c] => return ((· == c), rest)
      | _ => throw .collation

/-- The items of a set up to its closing bracket. -/
def items (d : Dialect) : Nat → Bool → Text → Read ((Char → Bool) × Text)
  | 0, _, _ => throw .openBracket
  | fuel + 1, isFirst, t => do
    let also (f : Char → Bool) (t : Text) : Read ((Char → Bool) × Text) := do
      let (g, rest) ← items d fuel false t
      return (fun c => f c || g c, rest)
    let single (t : Text) : Option (Char × Text) := match t with
      | '\\' :: c :: rest =>
        if d.escapesInSets then
          let e := match c with
            | 'n' => '\n'
            | 't' => '\t'
            | 'r' => '\r'
            | 'f' => '\x0c'
            | 'v' => '\x0b'
            | 'a' => '\x07'
            | c => c
          some (e, rest)
        else some ('\\', c :: rest)
      | '[' :: '.' :: c :: '.' :: ']' :: rest => some (c, rest)
      | c :: rest => some (c, rest)
      | [] => none
    match t with
    | [] => throw .openBracket
    | ']' :: rest => if isFirst then ranged single also rest ']' else return (fun _ => false, rest)
    | '[' :: ':' :: rest =>
      let (f, rest) ← named? ':' rest
      also f rest
    | '[' :: '=' :: rest =>
      let (f, rest) ← named? '=' rest
      also f rest
    | t =>
      match t with
      | '[' :: '.' :: rest =>
        let (f, behind) ← named? '.' rest
        match behind with
        | '-' :: e :: _ => if e = ']' then also f behind else rangedFrom single also t
        | _ => also f behind
      | t => rangedFrom single also t
where
  ranged (single : Text → Option (Char × Text))
      (also : (Char → Bool) → Text → Read ((Char → Bool) × Text)) (rest : Text) (low : Char) :
      Read ((Char → Bool) × Text) := do
    match rest with
    | '-' :: e :: more =>
      if e = ']' then also (· == low) rest
      else
        match single (e :: more) with
        | none => throw .openBracket
        | some (high, behind) =>
          if high < low then throw .range else also (fun c => low ≤ c && c ≤ high) behind
    | rest => also (· == low) rest
  rangedFrom (single : Text → Option (Char × Text))
      (also : (Char → Bool) → Text → Read ((Char → Bool) × Text)) (t : Text) :
      Read ((Char → Bool) × Text) := do
    match single t with
    | none => throw .openBracket
    | some (low, rest) => ranged single also rest low

/-- A set behind its opening bracket, and what stands behind it. -/
def set (d : Dialect) (t : Text) : Read (Regex × Text) := do
  let (isInverted, t) : Bool × Text := match t with
    | '^' :: t => (true, t)
    | t => (false, t)
  let (fits, rest) ← items d (t.length + 1) true t
  let anyCase (c : Char) : Bool :=
    if d.ignoresCase then fits c.toLower || fits c.toUpper else fits c
  let used := t.take (t.length - rest.length)
  match used with
  | ':' :: more =>
    if !isInverted && 2 ≤ more.length && more.dropLast.getLast? = some ':' then throw .bareClass
  | _ => pure ()
  return (.one fun c => if isInverted then !anyCase c && !isBroken c else anyCase c, rest)

/-- How often something is repeated, up to the closing brace. -/
def bounds (closing : Text) (t : Text) : Read (Nat × Option Nat × Text) := do
  let least := t.takeWhile Char.isDigit
  let behind := t.drop least.length
  let low := Numeral.value least
  let finish (most : Option Nat) (t : Text) : Read (Nat × Option Nat × Text) := do
    if closing.isPrefixOf t then
      if most.any (· < low) then throw .braceContent
      else if 32767 < low || most.any (32767 < ·) then throw .tooGreat
      else return (low, most, t.drop closing.length)
    else if t.isEmpty then throw .openBrace
    else throw .braceContent
  match behind with
  | ',' :: t =>
    let most := t.takeWhile Char.isDigit
    finish (if most.isEmpty then none else some (Numeral.value most)) (t.drop most.length)
  | t =>
    if t.isEmpty then throw .openBrace
    else if least.isEmpty then throw .braceContent
    else finish (some low) t

/-- An operator for repetition: how often something is repeated, and what stands behind it. -/
def repeating? (d : Dialect) (t : Text) : Read (Option (Nat × Option Nat × Text)) := do
  match d.extended, t with
  | _, '*' :: t => return some (0, none, t)
  | true, '+' :: t => return some (1, none, t)
  | true, '?' :: t => return some (0, some 1, t)
  | false, '\\' :: '+' :: t => return some (1, none, t)
  | false, '\\' :: '?' :: t => return some (0, some 1, t)
  | true, '\x7b' :: rest =>
    match bounds ['\x7d'] rest with
    | .ok b => return some b
    | .error e =>
      if d.isLenient && e ≠ .tooGreat then return none else throw e
  | false, '\\' :: '\x7b' :: rest => return some (← bounds ['\\', '\x7d'] rest)
  | _, _ => return none

/-- The operators for repetition behind a part. -/
def repeated (d : Dialect) : Nat → Regex → Text → Read (Regex × Text)
  | 0, r, t => return (r, t)
  | fuel + 1, r, t => do
    match ← repeating? d t with
    | some (least, most, t) => repeated d fuel (.repetition r least most) t
    | none => return (r, t)

/-- What stands for a class or an edge behind a backslash. -/
def escaped? (c : Char) : Option Regex :=
  match c with
  | 'w' => some (.one isWordPart)
  | 'W' => some (.one fun c => !isWordPart c && !isBroken c)
  | 's' => some (.one isBlank)
  | 'S' => some (.one fun c => !isBlank c && !isBroken c)
  | 'b' => some (.between fun a b => a != b)
  | 'B' => some (.between fun a b => a == b)
  | '<' => some (.between fun a b => !a && b)
  | '>' => some (.between fun a b => a && !b)
  | '\x60' => some (.start false)
  | '\'' => some (.finish false)
  | _ => none

/-- What has been read of an expression. -/
structure Progress where
  /-- How many groups have been begun. -/
  groups : Nat
  /-- The groups that are complete. -/
  complete : List Nat
  refers : Bool
  /-- Operators that had nothing to work on, the latest first. -/
  idle : List Char

mutual

/-- Ways that are separated by bars, and what stands behind them. -/
def ways (d : Dialect) : Nat → Nat → Progress → Text → Read (List Regex × Progress × Text)
  | 0, _, _, _ => throw .tooGreat
  | fuel + 1, level, p, t => do
    let (rs, p, t) ← parts d fuel level true p t
    let more (t : Text) : Read (List Regex × Progress × Text) := do
      let (others, p, t) ← ways d fuel level p t
      return (.sequence rs :: others, p, t)
    match d.extended, t with
    | true, '|' :: t => more t
    | false, '\\' :: '|' :: t => more t
    | _, t => return ([.sequence rs], p, t)

def parts (d : Dialect) : Nat → Nat → Bool → Progress → Text →
    Read (List Regex × Progress × Text)
  | 0, _, _, _, _ => throw .tooGreat
  | fuel + 1, level, isFirst, p, t => do
    let single (r : Regex) (t : Text) : Read (List Regex × Progress × Text) := do
      let (r, t) ← repeated d fuel r t
      let (rs, p, t) ← parts d fuel level false p t
      return (r :: rs, p, t)
    /- An edge can be repeated only in the extended form. -/
    let bare (r : Regex) (t : Text) : Read (List Regex × Progress × Text) := do
      let (rs, p, t) ← parts d fuel level true p t
      return (r :: rs, p, t)
    let grouped (t : Text) : Read (List Regex × Progress × Text) := do
      let n := p.groups + 1
      let (rs, p, t) ← ways d fuel (level + 1) { p with groups := n } t
      let closing : Text := if d.extended then [')'] else ['\\', ')']
      if !closing.isPrefixOf t then throw .openGroup
      let (r, t) ← repeated d fuel (.group n (.choice rs)) (t.drop closing.length)
      let (rs, p, t) ← parts d fuel level false { p with complete := n :: p.complete } t
      return (r :: rs, p, t)
    let referring (n : Nat) (t : Text) : Read (List Regex × Progress × Text) := do
      if !p.complete.contains n then throw .reference
      let (r, t) ← repeated d fuel (.again n) t
      let (rs, p, t) ← parts d fuel level false { p with refers := true } t
      return (r :: rs, p, t)
    /- An operator with nothing before it. -/
    let lonely : Read (Option (List Regex × Progress × Text)) := do
      if !isFirst then return none
      else if d.extended then
        match ← repeating? d t with
        | none => return none
        | some (_, _, rest) =>
          if d.isLenient then
            let p := { p with idle := t.headD '*' :: p.idle }
            return some (← parts d fuel level true p rest)
          else throw .nothingToRepeat
      else
        match t with
        | '\\' :: '\x7b' :: rest =>
          if d.isLenient then return some (← single (literal d '\x7b') rest)
          else throw .nothingToRepeat
        | '\\' :: '+' :: rest => return some (← single (literal d '+') rest)
        | '\\' :: '?' :: rest => return some (← single (literal d '?') rest)
        | _ => return none
    match ← lonely with
    | some r => return r
    | none =>
      match d.extended, t with
      | _, [] => return ([], p, [])
      | true, '|' :: _ => return ([], p, t)
      | true, ')' :: rest =>
        if level = 0 then
          if d.isLenient then single (literal d ')') rest else throw .closingGroup
        else return ([], p, t)
      | false, '\\' :: '|' :: _ => return ([], p, t)
      | false, '\\' :: ')' :: _ =>
        if level = 0 then throw .closingGroup else return ([], p, t)
      | true, '(' :: t => grouped t
      | false, '\\' :: '(' :: t => grouped t
      | false, '*' :: rest => single (literal d '*') rest
      | extended, '^' :: rest =>
        if extended && d.isLenient then
          match ← repeating? d rest with
          | some (0, _, _) => bare (.sequence []) rest
          | _ => bare (.start d.hasLines) rest
        else if extended || isFirst then bare (.start d.hasLines) rest
        else single (literal d '^') rest
      | extended, '$' :: rest =>
        let closes := rest.isEmpty || ['\\', ')'].isPrefixOf rest || ['\\', '|'].isPrefixOf rest
        if extended || closes then
          let (r, rest) ← if extended then repeated d fuel (.finish d.hasLines) rest
            else pure (.finish d.hasLines, rest)
          let (rs, p, t) ← parts d fuel level false p rest
          return (r :: rs, p, t)
        else single (literal d '$') rest
      | _, '.' :: t => single (.one fun c => !isBroken c) t
      | _, '[' :: rest =>
        let (r, t) ← set d rest
        single r t
      | _, ['\\'] => throw .backslash
      | _, '\\' :: c :: t =>
        if d.hasDigits && (c = 'd' || c = 'D') then
          single (.one fun e => e.isDigit == (c == 'd')) t
        else if d.isRich then
          match escaped? c with
          | some r => single r t
          | none =>
            if '1' ≤ c && c ≤ '9' then referring (c.toNat - '0'.toNat) t
            else single (literal d c) t
        else single (literal d c) t
      | _, c :: t => single (literal d c) t

end

/-- An expression, or what is wrong with it. -/
def read (d : Dialect) (t : Text) : Except RegexFault Matcher := do
  let fuel := 4 * t.length + 16
  let (rs, p, _) ← ways d fuel 0 ⟨0, [], false, []⟩ t
  return ⟨.choice rs, p.groups, p.refers, fuel + 32768, p.idle.reverse⟩

/-- What stands for a text and for nothing else. -/
def ofText (ignoresCase : Bool) (t : Text) : Matcher :=
  let d : Dialect := { Dialect.basic with ignoresCase := ignoresCase }
  ⟨.sequence (t.map (literal d)), 0, false, 2 * t.length + 16, []⟩

end Regex

end RemoteInterpreter.Shell
