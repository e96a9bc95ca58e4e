import RemoteInterpreter.Shell.Tool.Awk.Syntax

/-!
# Reading scripts

What is wrong with a script is noted, and the reading goes on behind the statement, so
that all of it is told at once. A name stands for a table or for a variable by the way it
is used; where it is handed to a function, by what the function does with it. The fuel of
the readers bounds how deep they call each other.
-/

namespace RemoteInterpreter.Shell.Tool.Awk

/-- A name that is handed to a function as it is. -/
structure Handing where
  /-- The function in which that happens. -/
  inside : Option String
  name : String
  function : String
  index : Nat

structure Call where
  function : String
  /-- Whether the arguments are tables, as far as that is known. -/
  args : List (Option Bool)
  line : Nat

structure Reading where
  items : List Item
  /-- How many tokens have been read. -/
  place : Nat
  notes : List Note
  /-- Whether global names stand for tables. -/
  kinds : List (String × Bool)
  /-- The same for the parameters of functions. -/
  localKinds : List ((String × String) × Bool)
  handings : List Handing
  calls : List Call
  functions : List Function
  inside : Option String
  locals : List String
  /-- How many loops there are around. -/
  loops : Nat
  /-- There is a record here. -/
  hasRecord : Bool
  ranges : Nat

abbrev Parse := ExceptT Unit (StateM Reading)

namespace Parse

def item : Parse Item := do
  return (((← get).items.head?).getD ⟨.done, "end of file".toList, 0, 0, 0⟩)

def token : Parse Token := do return (← item).token

def advance : Parse Unit :=
  modify fun r => { r with items := r.items.tail, place := r.place + 1 }

def noteAt (place line : Nat) (message : Text) : Parse Unit :=
  modify fun r => { r with notes := ⟨place, lineMessage line message⟩ :: r.notes }

def note (message : Text) : Parse Unit := do
  noteAt (← get).place (← item).line message

/-- The script is wrong at the next token. -/
def wrong {α : Type} : Parse α := do
  let i ← item
  let isEnd := match i.token with
    | .newline | .done => true
    | .sign s => s = ";" || s = "\x7d"
    | _ => false
  let isDone := match i.token with
    | .done => true
    | _ => false
  if isDone && 0 < i.braces then note ("missing \x7d near ".toList ++ i.shown)
  else if isEnd && 0 < i.parentheses then note ("missing ) near ".toList ++ i.shown)
  else note ("syntax error at or near ".toList ++ i.shown)
  throw ()

def isSign (s : String) : Parse Bool := do
  match ← token with
  | .sign u => return u = s
  | _ => return false

def isWord (s : String) : Parse Bool := do
  match ← token with
  | .word u => return u = s
  | _ => return false

/-- Takes a sign if it is the next token. -/
def taken (s : String) : Parse Bool := do
  if ← isSign s then
    advance
    return true
  else return false

def expect (s : String) : Parse Unit := do
  if !(← taken s) then wrong

def skipNewline : Parse Unit := do
  match ← token with
  | .newline => advance
  | _ => pure ()

/-- The sign that is next, if it is one of a list. -/
def signOf? {α : Type} (all : List (String × α)) : Parse (Option α) := do
  match ← token with
  | .sign s => return all.lookup s
  | _ => return none

def kindName (isTable : Bool) : Text := (if isTable then "array" else "variable").toList

/-- Whether a name stands for a table, if that is known. -/
def Reading.kind? (name : String) (r : Reading) : Option Bool :=
  if r.locals.contains name then r.localKinds.lookup (r.inside.getD "", name)
  else r.kinds.lookup name

/-- A name is used for a variable or for a table. -/
def uses (isTable : Bool) (name : String) : Parse Unit := do
  let r ← get
  let isLocal := r.locals.contains name
  match Reading.kind? name r with
  | none =>
    if isLocal then
      set { r with localKinds := ((r.inside.getD "", name), isTable) :: r.localKinds }
    else set { r with kinds := (name, isTable) :: r.kinds }
  | some known =>
    if known ≠ isTable then
      note ("illegal reference to ".toList ++ (if isLocal then "local ".toList else []) ++
        kindName known ++ ' ' :: name.toList)

/-- Whether a name is one of a function, behind which an argument list follows. -/
def Reading.isFunction (name : String) (r : Reading) : Bool :=
  !r.locals.contains name &&
    (r.functions.any (·.name = name) || r.calls.any (·.function = name) || r.inside = some name)

/-- What is known of the arguments of a call. -/
def Reading.argumentKinds (args : List Expr) (r : Reading) : List (Option Bool) :=
  args.map fun
    | .place (.variable s) => Reading.kind? s r
    | _ => some false

/-- Whether the parameters of a function stand for tables, if it is known already. -/
def Reading.paramKinds? (name : String) (r : Reading) : Option (List (Option Bool)) :=
  let kinds (params : List String) : List (Option Bool) :=
    params.map fun s => r.localKinds.lookup (name, s)
  if r.inside = some name then some (kinds r.locals)
  else (r.functions.find? (·.name = name)).map fun f => kinds f.params

/-- Looks at the arguments of a call. -/
def checkCall (name : String) (line : Nat) (args : List Expr) : Parse Unit := do
  let r ← get
  let kinds := Reading.argumentKinds args r
  match Reading.paramKinds? name r with
  | none => set { r with calls := ⟨name, kinds, line⟩ :: r.calls }
  | some params =>
    if params.length < args.length then
      noteAt r.place line ("too many arguments in call to ".toList ++ name.toList)
    for ((e, param), i) in (args.zip params).zipIdx do
      match param, e with
      | some isTable, .place (.variable s) =>
        match Reading.kind? s (← get) with
        | none => uses isTable s
        | some known => if known ≠ isTable then mismatch r.place i known isTable
      | some true, _ => mismatch r.place i false true
      | _, _ => pure ()
where
  mismatch (place i : Nat) (actual wanted : Bool) : Parse Unit :=
    noteAt place line ("type error in arg(".toList ++ Numeral.write (i + 1) ++
      ") in call to ".toList ++ name.toList ++ " (actual local ".toList ++ kindName actual ++
      " vs local ".toList ++ kindName wanted ++ [')'])

/-- A text that is searched for is an expression. -/
def asPattern (isSplitting : Bool) (e : Expr) : Parse Expr := do
  match e with
  | .text t =>
    if isSplitting && t.length < 2 then return e
    else
      match Pattern.read t with
      | .ok m => return .pattern m
      | .error why =>
        note (Pattern.message why t)
        return e
  | e => return e

def assignments : List (String × Option Operation) :=
  [("=", none), ("+=", some .add), ("-=", some .sub), ("*=", some .mul), ("/=", some .div),
   ("%=", some .rem), ("^=", some .pow)]

def relations : List (String × Relation) :=
  [("==", .eq), ("!=", .ne), ("<", .lt), ("<=", .le), (">", .gt), (">=", .ge)]

/-- Whether an operand may begin with a token where texts are joined. -/
def beginsOperand : Token → Bool
  | .number _ | .text _ | .pattern _ | .name _ | .call _ | .builtin _ => true
  | .word s => s = "getline"
  | .sign s => ["(", "!", "$", "++", "--", "-", "+"].contains s
  | _ => false

/-- A name that stands alone as an argument. -/
def loneName? : Parse (Option String) := do
  match (← get).items with
  | ⟨.name s, _, _, _, _⟩ :: ⟨.sign c, _, _, _, _⟩ :: _ =>
    return if c = "," || c = ")" then some s else none
  | _ => return none

mutual

def expr (inPrint : Bool) : Nat → Parse Expr
  | 0 => throw ()
  | fuel + 1 => do
    let c ← disjunction inPrint fuel
    if ← taken "?" then
      skipNewline
      let a ← expr inPrint fuel
      skipNewline
      expect ":"
      skipNewline
      let b ← expr inPrint fuel
      return .choose c a b
    else return c

def disjunction (inPrint : Bool) : Nat → Parse Expr
  | 0 => throw ()
  | fuel + 1 => do
    disjunctionBehind inPrint fuel (← conjunction inPrint fuel)

def disjunctionBehind (inPrint : Bool) : Nat → Expr → Parse Expr
  | 0, _ => throw ()
  | fuel + 1, a => do
    if ← taken "||" then disjunctionBehind inPrint fuel (.either a (← conjunction inPrint fuel))
    else return a

def conjunction (inPrint : Bool) : Nat → Parse Expr
  | 0 => throw ()
  | fuel + 1 => do
    conjunctionBehind inPrint fuel (← membership inPrint fuel)

def conjunctionBehind (inPrint : Bool) : Nat → Expr → Parse Expr
  | 0, _ => throw ()
  | fuel + 1, a => do
    if ← taken "&&" then conjunctionBehind inPrint fuel (.both a (← membership inPrint fuel))
    else return a

def membership (inPrint : Bool) : Nat → Parse Expr
  | 0 => throw ()
  | fuel + 1 => do
    membershipBehind fuel (← fitting inPrint fuel)

def membershipBehind : Nat → Expr → Parse Expr
  | 0, _ => throw ()
  | fuel + 1, a => do
    if ← isWord "in" then
      advance
      match ← token with
      | .name s =>
        uses true s
        advance
        membershipBehind fuel (.member [a] s)
      | _ => wrong
    else return a

def fitting (inPrint : Bool) : Nat → Parse Expr
  | 0 => throw ()
  | fuel + 1 => do
    fittingBehind inPrint fuel (← comparison inPrint fuel)

def fittingBehind (inPrint : Bool) : Nat → Expr → Parse Expr
  | 0, _ => throw ()
  | fuel + 1, a => do
    match ← signOf? [("~", false), ("!~", true)] with
    | some isInverted =>
      advance
      let b ← asPattern false (← comparison inPrint fuel)
      fittingBehind inPrint fuel (.fits isInverted a b)
    | none => return a

def comparison (inPrint : Bool) : Nat → Parse Expr
  | 0 => throw ()
  | fuel + 1 => do
    comparisonBehind inPrint fuel (← joined inPrint fuel)

def comparisonBehind (inPrint : Bool) : Nat → Expr → Parse Expr
  | 0, _ => throw ()
  | fuel + 1, a => do
    match ← signOf? relations with
    | some r =>
      if inPrint && r = .gt then return a
      else
        advance
        comparisonBehind inPrint fuel (.compare r a (← joined inPrint fuel))
    | none => return a

/-- Texts that are joined, or an assignment. -/
def joined (inPrint : Bool) : Nat → Parse Expr
  | 0 => throw ()
  | fuel + 1 => do
    let a ← sum inPrint fuel
    match a, ← signOf? assignments with
    | .place p, some o =>
      advance
      skipNewline
      let e ← expr inPrint fuel
      return match o with
        | none => .assign p e
        | some o => .update o p e
    | _, _ => joinedBehind inPrint fuel a

def joinedBehind (inPrint : Bool) : Nat → Expr → Parse Expr
  | 0, _ => throw ()
  | fuel + 1, a => do
    if beginsOperand (← token) then
      joinedBehind inPrint fuel (.join a (← sum inPrint fuel))
    else return a

def sum (inPrint : Bool) : Nat → Parse Expr
  | 0 => throw ()
  | fuel + 1 => do
    sumBehind inPrint fuel (← product inPrint fuel)

def sumBehind (inPrint : Bool) : Nat → Expr → Parse Expr
  | 0, _ => throw ()
  | fuel + 1, a => do
    match ← signOf? [("+", Operation.add), ("-", .sub)] with
    | some o =>
      advance
      sumBehind inPrint fuel (.calculate o a (← product inPrint fuel))
    | none => return a

def product (inPrint : Bool) : Nat → Parse Expr
  | 0 => throw ()
  | fuel + 1 => do
    productBehind inPrint fuel (← signed inPrint fuel)

def productBehind (inPrint : Bool) : Nat → Expr → Parse Expr
  | 0, _ => throw ()
  | fuel + 1, a => do
    match ← signOf? [("*", Operation.mul), ("/", .div), ("%", .rem)] with
    | some o =>
      advance
      productBehind inPrint fuel (.calculate o a (← signed inPrint fuel))
    | none => return a

def signed (inPrint : Bool) : Nat → Parse Expr
  | 0 => throw ()
  | fuel + 1 => do
    match ← signOf? [("!", Expr.not), ("-", Expr.negate), ("+", Expr.plus)] with
    | some f =>
      advance
      return f (← signed inPrint fuel)
    | none => piped inPrint fuel (← power inPrint fuel)

/-- What commands print is read. -/
def piped (inPrint : Bool) : Nat → Expr → Parse Expr
  | 0, _ => throw ()
  | fuel + 1, a => do
    if !inPrint && (← isSign "|") then
      advance
      if !(← isWord "getline") then wrong
      advance
      let into ← target? inPrint fuel
      piped inPrint fuel (.readCommand a into)
    else return a

def power (inPrint : Bool) : Nat → Parse Expr
  | 0 => throw ()
  | fuel + 1 => do
    let a ← counted inPrint fuel
    if ← taken "^" then
      let b ← exponent inPrint fuel
      return .calculate .pow a b
    else return a

def exponent (inPrint : Bool) : Nat → Parse Expr
  | 0 => throw ()
  | fuel + 1 => do
    match ← signOf? [("!", Expr.not), ("-", Expr.negate), ("+", Expr.plus)] with
    | some f =>
      advance
      return f (← exponent inPrint fuel)
    | none => power inPrint fuel

def counted (inPrint : Bool) : Nat → Parse Expr
  | 0 => throw ()
  | fuel + 1 => do
    match ← signOf? [("++", true), ("--", false)] with
    | some up =>
      advance
      match ← token with
      | .name _ | .sign "$" => pure ()
      | _ => wrong
      match ← primary inPrint fuel with
      | .place p => return .count up true p
      | _ => wrong
    | none =>
      let a ← primary inPrint fuel
      match a, ← signOf? [("++", true), ("--", false)] with
      | .place p, some up =>
        advance
        return .count up false p
      | _, _ => return a

/-- What something is read into, if that is told. -/
def target? (inPrint : Bool) : Nat → Parse (Option Place)
  | 0 => throw ()
  | fuel + 1 => do
    match ← token with
    | .name _ | .sign "$" =>
      match ← primary inPrint fuel with
      | .place p => return some p
      | _ => wrong
    | _ => return none

/-- Expressions between commas. -/
def list (inPrint : Bool) : Nat → Parse (List Expr)
  | 0 => throw ()
  | fuel + 1 => do
    let e ← expr inPrint fuel
    if ← taken "," then
      let es ← list inPrint fuel
      return e :: es
    else return [e]

/-- Arguments behind their opening parenthesis. -/
def arguments (function : Option String) : Nat → Nat → Parse (List Expr)
  | 0, _ => throw ()
  | fuel + 1, index => do
    let one : Parse Expr := do
      match function, ← loneName? with
      | some f, some s =>
        let r ← get
        set { r with handings := ⟨r.inside, s, f, index⟩ :: r.handings }
        advance
        return .place (.variable s)
      | _, _ => expr false fuel
    if index = 0 && (← taken ")") then return []
    else
      let e ← one
      if ← taken "," then
        let es ← arguments function fuel (index + 1)
        return e :: es
      else
        expect ")"
        return [e]

def primary (inPrint : Bool) : Nat → Parse Expr
  | 0 => throw ()
  | fuel + 1 => do
    let i ← item
    match i.token with
    | .number x =>
      advance
      return .number x
    | .text t =>
      advance
      return .text t
    | .pattern m =>
      advance
      return .pattern m
    | .name s | .call s =>
      advance
      let r ← get
      let isCall := match i.token with
        | .call _ => (Reading.kind? s r).isNone && !r.locals.contains s
        | _ => false
      if isCall || Reading.isFunction s r then
        expect "("
        let args ← arguments (some s) fuel 0
        checkCall s i.line args
        return .call s args
      else if ← taken "[" then
        uses true s
        let es ← list false fuel
        expect "]"
        return .place (.element s es)
      else
        uses false s
        return .place (.variable s)
    | .builtin s => builtinCall s fuel
    | .sign "$" =>
      advance
      match ← signOf? [("-", Expr.negate), ("+", Expr.plus), ("!", Expr.not)] with
      | some f =>
        advance
        return .place (.field (f (← primary inPrint fuel)))
      | none =>
        match ← signOf? [("++", true), ("--", false)] with
        | some _ => return .place (.field (← counted inPrint fuel))
        | none => return .place (.field (← primary inPrint fuel))
    | .sign "(" =>
      advance
      match ← list false fuel with
      | [e] =>
        expect ")"
        return .group e
      | es =>
        expect ")"
        if ← isWord "in" then
          advance
          match ← token with
          | .name s =>
            uses true s
            advance
            return .member es s
          | _ => wrong
        else wrong
    | .word "getline" =>
      advance
      let into ← target? inPrint fuel
      if ← taken "<" then
        let path ← power inPrint fuel
        return .readFile path into
      else return .readMain into
    | _ => wrong

def builtinCall (s : String) : Nat → Parse Expr
  | 0 => throw ()
  | fuel + 1 => do
    let i ← item
    let place := (← get).place
    advance
    let check (n : Nat) : Parse Unit := do
      let (least, most) := (builtins.lookup s).getD (0, 0)
      if n < least || most < n then
        noteAt place i.line ("wrong number of arguments in call to ".toList ++ s.toList)
    if !(← isSign "(") then
      if s = "length" then return .builtin s []
      else wrong
    else
      advance
      match s, ← loneName? with
      | "length", some name =>
        advance
        expect ")"
        return .builtin s [.place (.variable name)]
      | _, _ =>
        if s = "split" then
          let t ← expr false fuel
          expect ","
          match ← token with
          | .name table =>
            uses true table
            advance
            if ← taken "," then
              let e ← asPattern true (← expr false fuel)
              expect ")"
              return .split t table (some e)
            else
              expect ")"
              return .split t table none
          | _ => wrong
        else if s = "sub" || s = "gsub" then
          let pattern ← asPattern false (← expr false fuel)
          expect ","
          let new ← expr false fuel
          if ← taken "," then
            match ← expr false fuel with
            | .place p =>
              expect ")"
              return .replace (s = "gsub") pattern new p
            | _ => wrong
          else
            expect ")"
            return .replace (s = "gsub") pattern new (.field (.number Amount.zero))
        else
          let args ← arguments none fuel 0
          check args.length
          match s, args with
          | "match", [t, pattern] => return .builtin s [t, ← asPattern false pattern]
          | _, _ => return .builtin s args

end

/-! Statements -/

def isEnd (t : Token) : Bool :=
  match t with
  | .newline => true
  | .sign s => s = ";" || s = "\x7d"
  | _ => false

/-- The end of a statement. A closing brace is one, too. -/
def separator : Parse Unit := do
  match ← token with
  | .newline => advance
  | .sign ";" => advance
  | .sign "\x7d" => pure ()
  | _ => wrong

/-- Whether a parenthesis opens all arguments of a printing statement. -/
def closesArguments (t : Token) : Bool :=
  match t with
  | .newline => true
  | .sign s => [";", "\x7d", ">", ">>", "|"].contains s
  | _ => false

/-- The arguments of a printing statement. -/
def printed (fuel : Nat) : Parse (List Expr) := do
  let before ← get
  let t ← token
  if closesArguments t then return []
  else
    match t with
    | .sign "(" =>
      advance
      let inside : Parse (Option (List Expr)) := do
        if ← taken ")" then return if closesArguments (← token) then some [] else none
        else
          let es ← list false fuel
          if ← taken ")" then return if closesArguments (← token) then some es else none
          else return none
      let r ← (tryCatch inside fun _ => pure none : Parse _)
      match r with
      | some es => return es
      | none =>
        set before
        list true fuel
    | _ => list true fuel

/-- Where a printing statement prints to. -/
def outlet? (fuel : Nat) : Parse (Option (OutletKind × Expr)) := do
  match ← signOf? [(">", OutletKind.file), (">>", .appended), ("|", .command)] with
  | some k =>
    advance
    return some (k, ← expr false fuel)
  | none => return none

def inLoop {α : Type} (a : Parse α) : Parse α := do
  modify fun r => { r with loops := r.loops + 1 }
  let x ← a
  modify fun r => { r with loops := r.loops - 1 }
  return x

/-- Behind what is wrong, up to the end of the statement. -/
def recover : Nat → Parse Unit
  | 0 => throw ()
  | fuel + 1 => do
    match ← token with
    | .newline | .sign ";" => advance
    | .sign "\x7d" => pure ()
    | .done => throw ()
    | _ =>
      advance
      recover fuel

mutual

def statement : Nat → Parse Statement
  | 0 => throw ()
  | fuel + 1 => do
    let i ← item
    let optional : Parse (Option Expr) := do
      if isEnd (← token) then return none else return some (← expr false fuel)
    let finish (s : Statement) : Parse Statement := do
      separator
      return s
    match i.token with
    | .sign "\x7b" => block fuel
    | .sign ";" | .newline =>
      advance
      return .nothing
    | .sign "\x7d" => return .nothing
    | .word "print" =>
      advance
      let args ← printed fuel
      finish (.print args (← outlet? fuel))
    | .word "printf" =>
      advance
      let args ← printed fuel
      if args.isEmpty then note "no arguments in call to printf".toList
      finish (.printf args (← outlet? fuel))
    | .word "if" =>
      advance
      expect "("
      let c ← expr false fuel
      expect ")"
      skipNewline
      let yes ← statement fuel
      if ← isWord "else" then
        advance
        let no ← statement fuel
        return .when c yes no
      else return .when c yes .nothing
    | .word "while" =>
      advance
      expect "("
      let c ← expr false fuel
      expect ")"
      skipNewline
      let body ← inLoop (statement fuel)
      return .loop true (some c) none body
    | .word "do" =>
      advance
      let body ← inLoop (statement fuel)
      if !(← isWord "while") then wrong
      advance
      expect "("
      let c ← expr false fuel
      expect ")"
      finish (.loop false (some c) none body)
    | .word "for" =>
      advance
      expect "("
      match (← get).items with
      | ⟨.name x, _, _, _, _⟩ :: ⟨.word "in", _, _, _, _⟩ :: ⟨.name table, _, _, _, _⟩ ::
          ⟨.sign ")", _, _, _, _⟩ :: _ =>
        uses false x
        uses true table
        advance
        advance
        advance
        advance
        skipNewline
        let body ← inLoop (statement fuel)
        return .each x table body
      | _ =>
        let first ← if ← isSign ";" then pure none else do pure (some (← expr false fuel))
        expect ";"
        let c ← if ← isSign ";" then pure none else do pure (some (← expr false fuel))
        expect ";"
        let behind ← if ← isSign ")" then pure none else do pure (some (← expr false fuel))
        expect ")"
        skipNewline
        let body ← inLoop (statement fuel)
        let loop := Statement.loop true c behind body
        return match first with
          | some e => .block [.expression e, loop]
          | none => loop
    | .word "break" | .word "continue" =>
      advance
      if (← get).loops = 0 then note (i.shown ++ " statement outside of loop".toList)
      finish (match i.token with
        | .word "break" => .break
        | _ => .continue)
    | .word "next" | .word "nextfile" =>
      advance
      if !(← get).hasRecord then note ("improper use of ".toList ++ i.shown)
      finish (match i.token with
        | .word "next" => .next
        | _ => .nextFile)
    | .word "exit" =>
      advance
      finish (.exit (← optional))
    | .word "return" =>
      advance
      if (← get).inside.isNone then note "return outside function body".toList
      finish (.return (← optional))
    | .word "delete" =>
      advance
      match ← token with
      | .name s =>
        uses true s
        advance
        if ← taken "[" then
          let es ← list false fuel
          expect "]"
          finish (.delete s es)
        else finish (.delete s [])
      | _ => wrong
    | _ => finish (.expression (← expr false fuel))

/-- Statements up to the closing brace. -/
def statements : Nat → Parse (List Statement)
  | 0 => throw ()
  | fuel + 1 => do
    if ← isSign "\x7d" then
      advance
      return []
    else
      let s ← tryCatch (statement fuel) fun _ => do
        recover (fuel + 1)
        return .nothing
      let ss ← statements fuel
      return s :: ss

def block : Nat → Parse Statement
  | 0 => throw ()
  | fuel + 1 => do
    expect "\x7b"
    let ss ← statements fuel
    return .block ss

end

/-! Rules -/

/-- Names up to the closing parenthesis. -/
def parameters : Nat → List String → Parse (List String)
  | 0, _ => throw ()
  | fuel + 1, before => do
    match ← token with
    | .name s =>
      if before.contains s then
        note (s.toList ++ " is duplicated in argument list".toList)
      advance
      if ← taken "," then parameters fuel (before ++ [s])
      else
        expect ")"
        return before ++ [s]
    | _ =>
      if before.isEmpty then
        expect ")"
        return []
      else wrong

def function (fuel : Nat) : Parse Unit := do
  advance
  let name ← match ← token with
    | .name s | .call s => pure s
    | _ => wrong
  let isVariable := ((← get).kinds.lookup name).isSome
  if isVariable then
    note ("illegal reference to variable ".toList ++ name.toList)
    throw ()
  if (← get).functions.any (·.name = name) then note ("redefinition of ".toList ++ name.toList)
  advance
  expect "("
  let params ← parameters fuel []
  skipNewline
  let r ← get
  let known := (r.calls.filter (·.function = name)).flatMap fun c =>
    (params.zip c.args).filterMap fun (s, k) => k.map fun k => ((name, s), k)
  set { r with
    inside := some name, locals := params, hasRecord := false, loops := 0
    localKinds := known ++ r.localKinds }
  let body ← block fuel
  modify fun r =>
    { r with
      inside := none, locals := []
      functions := r.functions ++ [⟨name, params, [], body⟩] }

def Program.empty : Program := ⟨[], [], [], [], []⟩

/-- Names that have a meaning of their own. -/
def knownKinds : List (String × Bool) :=
  [("ENVIRON", true), ("ARGV", true)] ++
    ["NR", "FNR", "NF", "FS", "OFS", "ORS", "RS", "FILENAME", "SUBSEP", "CONVFMT", "OFMT", "RSTART",
      "RLENGTH", "ARGC"].map fun (s : String) => (s, false)

/-- The next rule of a script. -/
def rule (fuel : Nat) (p : Program) : Parse Program := do
  modify fun r => { r with inside := none, locals := [], loops := 0, hasRecord := true }
  match ← token with
  | .word "function" =>
    function fuel
    return p
  | .word "BEGIN" =>
    advance
    modify fun r => { r with hasRecord := false }
    return { p with begins := p.begins ++ [← block fuel] }
  | .word "END" =>
    advance
    modify fun r => { r with hasRecord := false }
    return { p with ends := p.ends ++ [← block fuel] }
  | .sign "\x7b" => return { p with rules := p.rules ++ [⟨.all, some (← block fuel)⟩] }
  | _ =>
    let e ← expr false fuel
    let choice ← if ← taken "," then do
        let last ← expr false fuel
        let n := (← get).ranges
        modify fun r => { r with ranges := n + 1 }
        pure (Choice.range n e last)
      else pure (Choice.one e)
    if ← isSign "\x7b" then
      return { p with rules := p.rules ++ [⟨choice, some (← block fuel)⟩] }
    else
      match ← token with
      | .newline | .sign ";" => advance
      | _ => wrong
      return { p with rules := p.rules ++ [⟨choice, none⟩] }

/-- To the next block. -/
def skipToBlock : Nat → Parse Unit
  | 0 => throw ()
  | fuel + 1 => do
    match ← token with
    | .sign "\x7b" => pure ()
    | .done => throw ()
    | _ =>
      advance
      skipToBlock fuel

/-- All rules. -/
def rules : Nat → Program → Parse Program
  | 0, p => return p
  | fuel + 1, p => do
    match ← token with
    | .done => return p
    | _ =>
      let p ← tryCatch (do
          let q ← rule fuel p
          let _ ← taken ";"
          return q) fun _ => do
        skipToBlock fuel
        let _ ← block fuel
        return p
      rules fuel p

/-- What names are handed to functions as tables makes them tables. -/
def spread (r : Reading) : Nat → List (Option String × String) → List (Option String × String)
  | 0, known => known
  | fuel + 1, known =>
    let new := r.handings.filterMap fun h =>
      match r.functions.find? (·.name = h.function) with
      | none => none
      | some f =>
        match f.params[h.index]? with
        | none => none
        | some param =>
          if known.contains (some f.name, param) then
            let isLocal : Bool := match h.inside with
              | some g => (r.functions.find? (·.name = g)).any fun f => f.params.contains h.name
              | none => false
            let owner := if isLocal then h.inside else none
            if known.contains (owner, h.name) then none else some (owner, h.name)
          else none
    if new.isEmpty then known else spread r fuel (new.eraseDups ++ known)

end Parse

/-- A script, or what is wrong with it. -/
def Program.read (t : Text) : Except (List Text) Program :=
  let l := Lexing.of t
  let count := l.items.length
  let r : Reading := ⟨l.items, 0, [], Parse.knownKinds, [], [], [], [], none, [], 0, false, 0⟩
  let fuel := 40 * count + 64
  let (p, r) := (Parse.rules fuel Parse.Program.empty).run.run r
  let endLine := (l.items.getLast?.map Item.line).getD 1
  let callNotes := r.calls.filterMap fun c =>
    match r.functions.find? (·.name = c.function) with
    | none =>
      some (lineMessage endLine ("function ".toList ++ c.function.toList ++
        " never defined".toList))
    | some f =>
      if f.params.length < c.args.length then
        some (lineMessage c.line ("too many arguments in call to ".toList ++ c.function.toList))
      else none
  let notes := l.notes ++ r.notes.reverse.filter fun n => l.fatal.isNone || n.place + 1 < count
  let notes := (notes.mergeSort fun a b => a.place ≤ b.place).map Note.message
  let notes := match l.fatal with
    | some why => notes ++ [why]
    | none => if notes.isEmpty then callNotes else notes
  match notes, p with
  | [], .ok p =>
    let locals := (r.localKinds.filter Prod.snd).map fun k => (some k.1.1, k.1.2)
    let globals := (r.kinds.filter Prod.snd).map fun k => (none, k.1)
    let known := Parse.spread r 1000 (locals ++ globals)
    let tablesOf (f : Option String) : List String :=
      known.filterMap fun k => if k.1 = f then some k.2 else none
    .ok { p with
      functions := r.functions.map fun f => { f with tables := tablesOf (some f.name) }
      tables := tablesOf none }
  | [], .error _ => .error []
  | notes, _ => .error notes

end RemoteInterpreter.Shell.Tool.Awk
