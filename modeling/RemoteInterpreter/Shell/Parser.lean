import RemoteInterpreter.Shell.Lexeme

/-!
# Parsing shell scripts

One reader for every form of the language. A script is read by complete commands, so
what stands before a line that cannot be read is run nevertheless, and may change what
the lines behind it mean. The fuel of the readers bounds how deep they call each other.
-/

namespace RemoteInterpreter.Shell

/-- A text inside the script that is to be read behind the end of the line. -/
structure Awaited where
  number : Nat
  ending : Ending
  /-- Nothing in it is expanded. -/
  isQuoted : Bool

/-- What a redirection is of, as long as its word has not been read. -/
inductive Redirecting where
  | file (fd : Nat) (opening : Opening)
  | sameAs (fd : Nat)
  | text (fd : Nat) (strips : Bool)

structure Reader where
  source : Source
  /-- The last token. -/
  token : Token
  /-- The last token is read again. -/
  isBack : Bool
  /-- The last word. -/
  lexeme : Lexeme
  redirecting : Redirecting
  awaited : List Awaited
  texts : List (Nat × Word)
  /-- How many texts inside the script there have been. -/
  count : Nat

def Reader.of (aliases : List (Text × Text)) (t : Text) : Reader :=
  ⟨.of aliases t, .newline, false, .empty, .sameAs 0, [], [], 0⟩

namespace Script

abbrev Parse := StateT Reader (Except SyntaxError)

def source : Parse Source := do return (← get).source

def setSource (s : Source) : Parse Unit := modify fun r => { r with source := s }

def expect (c : Checks) : Parse Unit :=
  modify fun r => { r with source := { r.source with checks := c } }

def refuse {α : Type} (message : String) : Parse α := do
  let s ← source
  throw ⟨s.line, ("Syntax error: " ++ message).toList, s.ended⟩

def unexpected {α : Type} : Parse α := do refuse ((← get).token.shown ++ " unexpected")

def expecting {α : Type} (t : Token) : Parse α := do
  refuse ((← get).token.shown ++ " unexpected (expecting " ++ t.shown ++ ")")

def putBack : Parse Unit := modify fun r => { r with isBack := true }

def settle (t : Token) : Parse Token := do
  modify fun r => { r with token := t }
  return t

/-- The sign of a redirection, from its first character. -/
def redirecting (fd? : Option Nat) (c : Char) (s : Source) : Redirecting × Source :=
  let (d, t) := s.takeJoined
  if c = '>' then
    let fd := fd?.getD 1
    match d with
    | some '>' => (.file fd .appending, t)
    | some '|' => (.file fd .replacing, t)
    | some '&' => (.sameAs fd, t)
    | d => (.file fd .writing, t.unget d)
  else
    let fd := fd?.getD 0
    match d with
    | some '<' =>
      match t.takeJoined with
      | (some '-', t) => (.text fd true, t)
      | (d, t) => (.text fd false, t.unget d)
    | some '&' => (.sameAs fd, t)
    | some '>' => (.file fd .both, t)
    | d => (.file fd .reading, t.unget d)

/-- A word is over. A digit alone before a redirection names what is redirected. -/
def finishWord (s : Scan) (c : Option Char) : Parse Token := do
  let fd? : Option (Option Nat) := match s.items with
    | [] => some none
    | [.char false d] => if d.isDigit then some (some (Numeral.value [d])) else none
    | _ => none
  match c, fd? with
  | some c, some fd? =>
    if (c = '<' || c = '>') && !s.isQuoted then
      let (r, source) := redirecting fd? c s.source
      modify fun x => { x with source := source, redirecting := r }
      settle .redirection
    else word s c
  | c, _ => word s c
where
  word (s : Scan) (c : Option Char) : Parse Token := do
    modify fun x => { x with source := s.source.unget c, lexeme := s.lexeme }
    settle .word

/-- The text between backquotes, with its escapes undone. -/
def backquotedFor (quoted : Bool) : Nat → Text → Source → Option (Text × Source)
  | 0, _, _ => none
  | fuel + 1, before, s =>
    match s.takeJoined with
    | (none, _) => none
    | (some '`', s) => some (before.reverse, s)
    | (some '\\', s) =>
      match s.take with
      | (some c, s) =>
        let isEscape := c == '\\' || c == '`' || c == '$' || (quoted && c == '"')
        backquotedFor quoted fuel (if isEscape then c :: before else c :: '\\' :: before) s
      | (none, s) => backquotedFor quoted fuel ('\\' :: before) s
    | (some '\n', s) => backquotedFor quoted fuel ('\n' :: before) s.nextLine
    | (some c, s) => backquotedFor quoted fuel (c :: before) s

/-- The line where the lack of a closing backquote shows. -/
def endLine (s : Source) : Nat := s.line + s.rest.count '\n'

def isName (t : Text) : Bool := Identifier.isIdentifier t

def joined (before : Option Command) (c : Command) : Command :=
  match before with
  | some first => .both first c
  | none => c

mutual

/-- A word, and the character behind it. -/
def scanned : Nat → Option Ending → Pause → Parse (Scan × Option Char)
  | 0, _, _ => unexpected
  | fuel + 1, ending, p => do
    match p with
    | .finished s c =>
      setSource s.source
      match s.lack? ending with
      | some why => refuse why
      | none => return (s, c)
    | .command s =>
      setSource s.source
      let c ← substitution fuel
      let s := { s with source := ← source }
      scanned fuel ending ((s.put (.output s.quotes c)).resume ending)
    | .backquoted s =>
      setSource s.source
      let c ← backquote fuel s.layer.isDouble
      let s := { s with source := ← source }
      scanned fuel ending ((s.put (.output s.quotes c)).resume ending)

/-- Commands up to the closing parenthesis. Texts that are still awaited there are empty. -/
def substitution : Nat → Parse Command
  | 0 => unexpected
  | fuel + 1 => do
    let outside := (← get).awaited
    modify fun r => { r with awaited := [] }
    let c ← list fuel false true none
    if (← readToken fuel) ≠ .closing then expecting .closing
    modify fun r =>
      { r with
        awaited := outside
        texts := r.awaited.map (fun a => (a.number, [])) ++ r.texts }
    return (c.getD .nothing).fill (← get).texts

/-- Commands up to the closing backquote. What they leave is not read. -/
def backquote : Nat → Bool → Parse Command
  | 0, _ => unexpected
  | fuel + 1, quoted => do
    let outside ← get
    match backquotedFor quoted Source.longest [] outside.source with
    | none =>
      let why := "Syntax error: EOF in backquote substitution".toList
      throw ⟨endLine outside.source, why, true⟩
    | some (t, behind) =>
      set { outside with
        source := { outside.source with rest := t, line := 1, within := [], leaving := [] }
        awaited := [] }
      let c ← list fuel false true none
      modify fun r => { r with source := behind, awaited := outside.awaited, isBack := false }
      return (c.getD .nothing).fill (← get).texts

def rawToken : Nat → Parse Token
  | 0 => unexpected
  | fuel + 1 => do
    let r ← get
    if r.isBack then
      set { r with isBack := false }
      return r.token
    else
      let (c, s) := r.source.start
      setSource s
      let pair (d : Char) (one two : Token) : Parse Token := do
        match s.takeJoined with
        | (e, s) =>
          if e = some d then
            setSource s
            settle two
          else
            setSource (s.unget e)
            settle one
      match c with
      | none => settle .ending
      | some '\n' =>
        setSource s.nextLine
        settle .newline
      | some '&' => pair '&' .ampersand .and
      | some '|' => pair '|' .bar .or
      | some ';' => pair ';' .semicolon .endOfArm
      | some '(' => settle .opening
      | some ')' => settle .closing
      | c =>
        let (s, c) ← scanned fuel none ((Scan.of .bare s).run none c)
        finishWord s c

/-- The texts that are awaited, now that the line is over. -/
def readTexts : Nat → Parse Unit
  | 0 => unexpected
  | fuel + 1 => do
    let r ← get
    match r.awaited with
    | [] => pure ()
    | a :: rest =>
      set { r with awaited := rest }
      let (c, s) := if a.isQuoted then r.source.take else r.source.takeJoined
      let quoting : Quoting := if a.isQuoted then .single else .double
      let (s, _) ← scanned fuel (some a.ending) ((Scan.of quoting s).run (some a.ending) c)
      modify fun r => { r with texts := (a.number, Word.ofItems s.items) :: r.texts }
      readTexts fuel

def skipLines : Nat → Token → Parse Token
  | 0, _ => unexpected
  | fuel + 1, t => do
    if t = .newline then
      readTexts fuel
      skipLines fuel (← rawToken fuel)
    else return t

/-- The next token, by what is looked for. -/
def readToken : Nat → Parse Token
  | 0 => unexpected
  | fuel + 1 => do tokenFor fuel (← source).checks

def tokenFor : Nat → Checks → Parse Token
  | 0, _ => unexpected
  | fuel + 1, wanted => do
    let t ← rawToken fuel
    let t ← if wanted.lines then skipLines fuel t else pure t
    let also := (← source).checks
    expect .none
    let r ← get
    match t, r.lexeme.isQuoted, r.lexeme.text? with
    | .word, false, some name =>
      if (wanted.words || also.words) && reserved.contains name.str then
        settle (.reserved name.str)
      else if wanted.aliases || also.aliases then
        match r.source.alias? name with
        | some text =>
          setSource (r.source.enter name text)
          tokenFor fuel
            { wanted with words := wanted.words || also.words, aliases := true }
        | none => return t
      else return t
    | t, _, _ => return t

/-- Commands up to the end of a complete one, or up to something that closes their list. -/
def list : Nat → Bool → Bool → Option Command → Parse (Option Command)
  | 0, _, _, _ => unexpected
  | fuel + 1, isWhole, mayEnd, before => do
    expect { Checks.newCommand with lines := !isWhole }
    let atEnd (c : Option Command) : Parse (Option Command) := do
      readTexts fuel
      putBack
      let _ ← settle .ending
      return c
    match ← readToken fuel with
    | .newline =>
      readTexts fuel
      return some (before.getD .nothing)
    | .ending => atEnd before
    | t =>
      putBack
      if mayEnd && t.closesList then return before
      else
        let c ← conditional fuel
        let t ← readToken fuel
        let c := match t, c with
          | .ampersand, .group line c rs => .background line c rs
          | .ampersand, c => .background 0 c []
          | _, c => c
        let all := some (joined before c)
        match t with
        | .ending => atEnd all
        | .newline =>
          putBack
          list fuel isWhole (!isWhole) all
        | .ampersand | .semicolon => list fuel isWhole (!isWhole) all
        | _ =>
          if isWhole then unexpected
          putBack
          return all

/-- Commands inside others. They may be missing only at the end. -/
def body : Nat → Parse Command
  | 0 => unexpected
  | fuel + 1 => do return (← list fuel false false none).getD .nothing

/-- Commands joined by the conditional operators, which bind to the left. -/
def conditional : Nat → Parse Command
  | 0 => unexpected
  | fuel + 1 => do more fuel (← pipeline fuel)

def more : Nat → Command → Parse Command
  | 0, _ => unexpected
  | fuel + 1, first => do
    match ← readToken fuel with
    | .and =>
      expect .newCommand
      more fuel (.ifBoth first (← pipeline fuel))
    | .or =>
      expect .newCommand
      more fuel (.ifNot first (← pipeline fuel))
    | _ =>
      putBack
      return first

def pipeline : Nat → Parse Command
  | 0 => unexpected
  | fuel + 1 => do
    let isNegated := (← readToken fuel) = .reserved "!"
    if isNegated then expect .command else putBack
    let c ← match ← stages fuel with
      | [c] => pure c
      | cs => pure (.pipeline cs)
    return if isNegated then .negated c else c

def stages : Nat → Parse (List Command)
  | 0 => unexpected
  | fuel + 1 => do
    let first ← command fuel
    match ← readToken fuel with
    | .bar =>
      expect .newCommand
      return first :: (← stages fuel)
    | _ =>
      putBack
      return [first]

def command : Nat → Parse Command
  | 0 => unexpected
  | fuel + 1 => do
    let line := (← source).line
    let close (t : Token) : Parse Unit := do
      if (← readToken fuel) ≠ t then expecting t
    match ← readToken fuel with
    | .reserved "if" =>
      let c ← branches fuel
      close (.reserved "fi")
      redirected fuel line c
    | .reserved "while" => looped fuel line true
    | .reserved "until" => looped fuel line false
    | .reserved "for" =>
      let c ← forEach fuel line
      close (.reserved "done")
      redirected fuel line c
    | .reserved "case" =>
      let c ← choice fuel line
      redirected fuel line c
    | .opening =>
      let c ← body fuel
      close .closing
      expect .command
      return .subshell line c (← redirects fuel)
    | .reserved "\x7b" =>
      let c ← body fuel
      close (.reserved "\x7d")
      redirected fuel line c
    | .word | .redirection =>
      putBack
      simple fuel (← source).line
    | _ => unexpected

/-- Redirections behind a command. -/
def redirected : Nat → Nat → Command → Parse Command
  | 0, _, _ => unexpected
  | fuel + 1, line, c => do
    expect .command
    match ← redirects fuel with
    | [] => return c
    | rs => return .group line c rs

def redirects : Nat → Parse (List Redirect)
  | 0 => unexpected
  | fuel + 1 => do
    match ← readToken fuel with
    | .redirection =>
      let r ← redirect fuel
      return r :: (← redirects fuel)
    | _ =>
      putBack
      return []

/-- The word behind the sign of a redirection. -/
def redirect : Nat → Parse Redirect
  | 0 => unexpected
  | fuel + 1 => do
    let r := (← get).redirecting
    match r with
    | .text _ _ => expect { Checks.none with ending := true }
    | _ => pure ()
    if (← readToken fuel) ≠ .word then unexpected
    let l := (← get).lexeme
    match r with
    | .file fd o => return .file fd o l.word
    | .sameAs fd => return .sameAs fd l.word
    | .text fd strips =>
      let number := (← get).count
      modify fun x =>
        { x with
          count := number + 1
          awaited := x.awaited ++ [⟨number, ⟨l.chars, strips⟩, l.isQuoted⟩] }
      return .awaited fd number

def looped : Nat → Nat → Bool → Parse Command
  | 0, _, _ => unexpected
  | fuel + 1, line, expected => do
    let condition ← body fuel
    if (← readToken fuel) ≠ .reserved "do" then expecting (.reserved "do")
    let c ← body fuel
    if (← readToken fuel) ≠ .reserved "done" then expecting (.reserved "done")
    redirected fuel line (.loop expected condition c)

/-- Behind the word that begins a branch, up to the one that ends all. -/
def branches : Nat → Parse Command
  | 0 => unexpected
  | fuel + 1 => do
    let condition ← body fuel
    if (← readToken fuel) ≠ .reserved "then" then expecting (.reserved "then")
    let yes ← body fuel
    match ← readToken fuel with
    | .reserved "elif" => return .branch condition yes (← branches fuel)
    | .reserved "else" => return .branch condition yes (← body fuel)
    | _ =>
      putBack
      return .branch condition yes .nothing

/-- Up to the word that ends the commands. -/
def forEach : Nat → Nat → Parse Command
  | 0, _ => unexpected
  | fuel + 1, line => do
    let t ← readToken fuel
    let l := (← get).lexeme
    match t, l.isQuoted, l.text? with
    | .word, false, some name =>
      if !isName name then refuse "Bad for loop variable"
      expect .newCommand
      let items ← match ← readToken fuel with
        | .reserved "in" =>
          let items ← words fuel
          match (← get).token with
          | .newline | .semicolon => pure (some items)
          | _ => unexpected
        | .semicolon => pure none
        | _ =>
          putBack
          pure none
      expect .newCommand
      if (← readToken fuel) ≠ .reserved "do" then expecting (.reserved "do")
      return .each line name items (← body fuel)
    | _, _, _ => refuse "Bad for loop variable"

/-- Words up to another token. -/
def words : Nat → Parse (List Word)
  | 0 => unexpected
  | fuel + 1 => do
    match ← readToken fuel with
    | .word =>
      let w := (← get).lexeme.word
      return w :: (← words fuel)
    | _ => return []

def choice : Nat → Nat → Parse Command
  | 0, _ => unexpected
  | fuel + 1, line => do
    if (← readToken fuel) ≠ .word then expecting .word
    let subject := (← get).lexeme.word
    expect .newCommand
    if (← readToken fuel) ≠ .reserved "in" then expecting (.reserved "in")
    expect { Checks.newCommand with aliases := false }
    let t ← readToken fuel
    return .choice line subject (← arms fuel t)

/-- Arms from their first token on. -/
def arms : Nat → Token → Parse (List Arm)
  | 0, _ => unexpected
  | fuel + 1, t => do
    if t = .reserved "esac" then return []
    else
      if t = .opening then let _ ← readToken fuel
      let patterns ← alternatives fuel
      if (← get).token ≠ .closing then expecting .closing
      let c ← list fuel false true none
      let arm := Arm.mk patterns (c.getD .nothing)
      expect { Checks.newCommand with aliases := false }
      match ← readToken fuel with
      | .reserved "esac" => return [arm]
      | .endOfArm =>
        expect { Checks.newCommand with aliases := false }
        let t ← readToken fuel
        return arm :: (← arms fuel t)
      | _ => expecting .endOfArm

/-- The patterns of an arm. A missing one is the word before it. -/
def alternatives : Nat → Parse (List Word)
  | 0 => unexpected
  | fuel + 1 => do
    let first := (← get).lexeme.word
    if (← readToken fuel) = .bar then
      let _ ← readToken fuel
      return first :: (← alternatives fuel)
    else return [first]

/-- A simple command, or the definition of a function. -/
def simple : Nat → Nat → Parse Command
  | 0, _ => unexpected
  | fuel + 1, line => simpleFrom fuel line [] [] []

/-- What was read of a simple command comes latest first. -/
def simpleFrom : Nat → Nat → List (Text × Word) → List Lexeme → List Redirect → Parse Command
  | 0, _, _, _, _ => unexpected
  | fuel + 1, line, assignments, ws, rs => do
    expect { Checks.none with aliases := ws.isEmpty }
    let finish : Parse Command := do
      putBack
      return .simple line assignments.reverse (ws.reverse.map Lexeme.word) rs.reverse
    match ← readToken fuel with
    | .word =>
      let l := (← get).lexeme
      let assigned? : Option (Text × Word) := match l.word with
        | .literal false t :: w => (assignedName? t).map fun (name, value) =>
            (name, if value.isEmpty then w else .literal false value :: w)
        | _ => none
      match assigned?, ws with
      | some a, [] => simpleFrom fuel line (a :: assignments) ws rs
      | _, ws => simpleFrom fuel line assignments (l :: ws) rs
    | .redirection =>
      let r ← redirect fuel
      simpleFrom fuel line assignments ws (r :: rs)
    | .opening =>
      match assignments, ws, rs with
      | [], [l], [] =>
        if (← readToken fuel) ≠ .closing then expecting .closing
        match l.isQuoted, l.text? with
        | false, some name =>
          if !isName name || isSpecial name then refuse "Bad function name"
          expect .newCommand
          return .define name (← command fuel)
        | _, _ => refuse "Bad function name"
      | _, _, _ => finish
    | _ => finish

end

/-- How deep the readers call each other. -/
def depth : Nat := 100000

/-- The next complete command, or none at the end. -/
def next (r : Reader) : Except SyntaxError (Option Command × Reader) := do
  let r := { r with
    isBack := false, awaited := [], texts := []
    source := { r.source with checks := .none, ended := false } }
  let (c, r) ← (list depth true false none).run r
  return (c.map (·.fill r.texts), { r with texts := [] })

/-- A text in which parameters and commands are expanded, but nothing else. -/
def textWord (aliases : List (Text × Text)) (t : Text) : Except SyntaxError Word := do
  let r := Reader.of aliases t
  let (c, s) := r.source.takeJoined
  let ending : Ending := ⟨[aliasEnd], false⟩
  let ((s, _), _) ← (scanned depth (some ending) ((Scan.of .double s).run (some ending) c)).run r
  return Word.ofItems s.items

end Script

end RemoteInterpreter.Shell
