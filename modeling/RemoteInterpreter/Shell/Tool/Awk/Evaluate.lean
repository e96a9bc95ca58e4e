import RemoteInterpreter.Shell.Tool.Awk.Machine
import RemoteInterpreter.Shell.Tool.Awk.Parser

/-!
# Running scripts

What expressions mean and what statements do. The fuel bounds how deep they call each
other, and how often a loop turns.
-/

namespace RemoteInterpreter.Shell.Tool.Awk

/-! Functions that are always there -/

/-- The part of a text from a character on, counted from one. What lies before the text shortens
nothing but is not there either. -/
def substring (t : Text) (first length : Int) : Text :=
  let (first, length) := if first < 1 then (1, length - first) else (first, length)
  (t.drop (first - 1).toNat).take length.toNat

/-- Where a text stands in another one, counted from one. -/
def indexOf (part : Text) : Nat → Text → Nat
  | n, [] => if part.isEmpty then n else 0
  | n, c :: t => if part.isPrefixOf (c :: t) then n else indexOf part (n + 1) t

/-- What is put in for a match. -/
def replacement (matched : Text) : Nat → Text → Text
  | 0, _ | _ + 1, [] => []
  | fuel + 1, c :: t =>
    if c = '&' then matched ++ replacement matched fuel t
    else if c = '\\' then
      let slashes := (c :: t).takeWhile (· = '\\')
      match (c :: t).drop slashes.length with
      | '&' :: rest =>
        List.replicate (slashes.length / 2) '\\' ++
          (if slashes.length % 2 = 1 then ['&'] else matched) ++ replacement matched fuel rest
      | rest => slashes ++ replacement matched fuel rest
    else c :: replacement matched fuel t

/-- Replaces matches. The result tells how often that was done. -/
def replaceIn (m : Matcher) (everywhere : Bool) (new : Text) :
    Nat → Option Nat → Regex.Spot → Nat × Text
  | 0, _, s => (0, s.rest)
  | fuel + 1, end?, s =>
    match m.from? s with
    | none => (0, s.rest)
    | some (a, b) =>
      let between := s.rest.take (a.position - s.position)
      let matched := a.rest.take (b.position - a.position)
      let isEmpty := a.position = b.position
      let put : Text := if isEmpty && end? = some a.position then []
        else replacement matched (new.length + 1) new
      let count := if isEmpty && end? = some a.position then 0 else 1
      if !everywhere && count = 1 then (1, between ++ put ++ b.rest)
      else
        let (step, spot) : Text × Regex.Spot :=
          if isEmpty then (a.rest.take 1, a.advance 1) else ([], b)
        if isEmpty && a.rest.isEmpty then (count, between ++ put)
        else
          let (n, u) := replaceIn m everywhere new fuel
            (if isEmpty then none else some b.position) spot
          (n + count, between ++ put ++ step ++ u)

def calculate (o : Operation) (x y : Binary64) : Binary64 :=
  match o with
  | .add => Amount.lift₂ (· + ·) x y
  | .sub => Amount.lift₂ (· - ·) x y
  | .mul => Amount.lift₂ (· * ·) x y
  | .div => Amount.lift₂ (· / ·) x y
  | .rem => Amount.remainder x y
  | .pow => Amount.lift₂ Float.pow x y

def Relation.holds (r : Relation) (o : Ordering) : Bool :=
  match r with
  | .eq => o == .eq
  | .ne => o != .eq
  | .lt => o == .lt
  | .le => o != .gt
  | .gt => o == .gt
  | .ge => o != .lt

/-- Functions of one number. -/
def functionOf? (name : String) : Option (Float → Float) :=
  match name with
  | "cos" => some Float.cos
  | "exp" => some Float.exp
  | "log" => some Float.log
  | "sin" => some Float.sin
  | "sqrt" => some Float.sqrt
  | _ => none

def yes (b : Bool) : Value := .number (Amount.ofBool b)

def count (n : Int) : Value := .number (.ofInt n)

/-- The next number that cannot be foreseen. -/
def random : Run Binary64 := do
  let n := ((← get).random * 6364136223846793005 + 1442695040888963407) % 2 ^ 64
  modify fun m => { m with random := n }
  return .ofRatio false (n / 2 ^ 11) (2 ^ 53)

/-- Functions that need nothing but values. -/
def builtin (s : Setting) (name : String) (args : List Value) : Run Value := do
  let first := args.headD .nothing
  let second := args.tail.headD .nothing
  match functionOf? name with
  | some f => return .number (Amount.lift f first.amount)
  | none =>
    match name with
    | "atan2" => return .number (Amount.lift₂ Float.atan2 first.amount second.amount)
    | "int" => return .number (Amount.truncated first.amount)
    | "length" => return count (← textOf first).length
    | "tolower" => return .text ((← textOf first).map Char.toLower)
    | "toupper" => return .text ((← textOf first).map Char.toUpper)
    | "index" => return count (indexOf (← textOf second) 1 (← textOf first))
    | "substr" =>
      let t ← textOf first
      let bounded (v : Value) : Int := Amount.clipped (-(2 ^ 31)) (2 ^ 31 - 1) v.amount
      return .text (substring t (bounded second) (match args with
        | [_, _, n] => bounded n
        | _ => 2 ^ 32))
    | "sprintf" =>
      let format ← textOf first
      let style ← conversion
      match Format.filled (Value.show style) format args.tail with
      | (t, none) => return .text t
      | (_, some .tooFew) =>
        crash s ("not enough arguments passed to sprintf(\"".toList ++ format ++ "\")".toList)
      | (_, some (.improper n)) =>
        crash s ("improper conversion(number ".toList ++ Numeral.write n ++
          ") in sprintf(\"".toList ++ format ++ "\")".toList)
    | "rand" => return .number (← random)
    | "srand" =>
      let m ← get
      let clock := (← strand).clock
      let seed := match args with
        | [] => count (clock / 10 ^ 9 : Nat)
        | v :: _ => v
      set { m with seed := seed, random := seed.amount.bits.toNat }
      return m.seed
    | "system" =>
      flushAll
      return count (← runCommand s (← textOf first) id)
    | "close" => return count (← close s (← textOf first))
    | "fflush" =>
      flushAll
      match args with
      | [] => return count 0
      | v :: _ =>
        let name ← textOf v
        let isThere := (← get).outlets.any fun o => o.name == name
        return count (if isThere || name = "/dev/stdout".toList then 0 else -1)
    | _ => return .nothing

/-! Expressions -/

/-- Where a value is. -/
inductive Spot where
  | variable (name : String)
  | element (table : Nat) (key : Key)
  | field (n : Nat)

def load (s : Setting) : Spot → Run Value
  | .variable name => getVariable s name
  | .element table key => withTable table (Table.get key)
  | .field n => field s n

def store (s : Setting) (v : Value) : Spot → Run Unit
  | .variable name => setVariable s name v
  | .element table key => changeTable table (Table.set key v)
  | .field n => setField s n v

/-- What is done with a record that was read. -/
def settle (s : Setting) (into : Option Spot) (t : Text) : Run Unit :=
  match into with
  | none => setRecord (.input t)
  | some spot => store s (.input t) spot

/-- Reads from a file or a command. -/
def readFrom (s : Setting) (isCommand : Bool) (name : Text) (spot : Option Spot) : Run Value := do
  let (n, t) ← readFeed s isCommand name
  if n = 1 then settle s spot t
  return count n

mutual

def eval (s : Setting) : Nat → Expr → Run Value
  | 0, _ => (starve : Act Value)
  | fuel + 1, e => do
    match e with
    | .number x => return .number x
    | .text t => return .text t
    | .pattern m => return yes (m.search (← textOf (← field s 0))).isSome
    | .place (.variable name) => getVariable s name
    | .place p => load s (← spotOf s fuel p)
    | .group e => eval s fuel e
    | .assign p e =>
      let spot ← spotOf s fuel p
      let v ← eval s fuel e
      store s v spot
      return v
    | .update o p e =>
      let spot ← spotOf s fuel p
      let y := (← eval s fuel e).amount
      let x := (← load s spot).amount
      let v := Value.number (calculate o x y)
      store s v spot
      return v
    | .count up isBefore p =>
      let spot ← spotOf s fuel p
      let x := (← load s spot).amount
      let y := calculate (if up then .add else .sub) x Amount.one
      store s (.number y) spot
      return .number (if isBefore then y else x)
    | .calculate o a b =>
      let x := (← eval s fuel a).amount
      let y := (← eval s fuel b).amount
      return .number (calculate o x y)
    | .negate e => return .number (← eval s fuel e).amount.negate
    | .plus e => return .number (← eval s fuel e).amount
    | .not e => return yes !(← eval s fuel e).isTrue
    | .compare r a b =>
      let v ← eval s fuel a
      let w ← eval s fuel b
      return yes (r.holds (v.compare (← conversion) w))
    | .fits isInverted a b =>
      let t ← textOf (← eval s fuel a)
      let m ← matcherOf s fuel b
      return yes ((m.search t).isSome != isInverted)
    | .both a b =>
      if (← eval s fuel a).isTrue then return yes (← eval s fuel b).isTrue else return yes false
    | .either a b =>
      if (← eval s fuel a).isTrue then return yes true else return yes (← eval s fuel b).isTrue
    | .choose c a b =>
      if (← eval s fuel c).isTrue then eval s fuel a else eval s fuel b
    | .join a b =>
      let t ← textOf (← eval s fuel a)
      let u ← textOf (← eval s fuel b)
      return .text (t ++ u)
    | .member indices table =>
      let key ← keyOf s fuel indices
      return yes (← withTable (← tableOf table) (Table.has key))
    | .call name args => call s fuel name args
    | .builtin "length" [.place (.variable name)] =>
      let m ← get
      let isTable := match m.locals.lookup name with
        | some (.table _) => true
        | some (.value _) => false
        | none => s.program.tables.contains name
      if isTable then
        let n ← tableOf name
        return count (← withTable n fun t => (t.size, t))
      else return count (← textOf (← getVariable s name)).length
    | .builtin "length" [] => return count (← textOf (← field s 0)).length
    | .builtin "match" [a, b] =>
      let t ← textOf (← eval s fuel a)
      let m ← matcherOf s fuel b
      let (first, length) : Int × Int := match m.search t with
        | some (a, b) => (a.position + 1, b.position - a.position)
        | none => (0, -1)
      setGlobal "RSTART" (count first)
      setGlobal "RLENGTH" (count length)
      return count first
    | .builtin name args => builtin s name (← evalAll s fuel args)
    | .split e table separator =>
      let t ← textOf (← eval s fuel e)
      let p ← match separator with
        | none => separatorOf s (← globalText "FS")
        | some (.pattern m) => pure (Separator.pattern m)
        | some e => separatorOf s (← textOf (← eval s fuel e))
      let parts := ((p.split t).map Value.input).toArray
      changeTable (← tableOf table) fun _ => .parts parts
      return count parts.size
    | .replace everywhere pattern new p =>
      let m ← matcherOf s fuel pattern
      let new ← textOf (← eval s fuel new)
      let spot ← spotOf s fuel p
      let t ← textOf (← load s spot)
      let (n, u) := replaceIn m everywhere new (t.length + 2) none (.of t)
      if 0 < n then store s (.text u) spot
      return count n
    | .readMain into =>
      let spot ← into.mapM (spotOf s fuel)
      match ← Awk.readMain s fuel with
      | none => return count 0
      | some t =>
        settle s spot t
        return count 1
    | .readFile path into =>
      let spot ← into.mapM (spotOf s fuel)
      readFrom s false (← textOf (← eval s fuel path)) spot
    | .readCommand command into =>
      let name ← textOf (← eval s fuel command)
      let spot ← into.mapM (spotOf s fuel)
      readFrom s true name spot

def evalAll (s : Setting) : Nat → List Expr → Run (List Value)
  | 0, _ => (starve : Act (List Value))
  | _ + 1, [] => return []
  | fuel + 1, e :: es => do
    let v ← eval s fuel e
    let vs ← evalAll s fuel es
    return v :: vs

/-- What is searched for. -/
def matcherOf (s : Setting) : Nat → Expr → Run Matcher
  | 0, _ => (starve : Act Matcher)
  | fuel + 1, e => do
    match e with
    | .pattern m => return m
    | e => patternOf s (← textOf (← eval s fuel e))

/-- The key that indices stand for. -/
def keyOf (s : Setting) : Nat → List Expr → Run Key
  | 0, _ => (starve : Act Key)
  | fuel + 1, indices => do
    match indices with
    | [e] =>
      let v ← eval s fuel e
      return v.key (← conversion)
    | es =>
      let ts ← (← evalAll s fuel es).mapM textOf
      return .text (ts.intersperse (← globalText "SUBSEP")).flatten

def spotOf (s : Setting) : Nat → Place → Run Spot
  | 0, _ => (starve : Act Spot)
  | fuel + 1, p => do
    match p with
    | .variable name => return .variable name
    | .element table indices =>
      let key ← keyOf s fuel indices
      return .element (← tableOf table) key
    | .field e => return .field (← fieldNumber s (← eval s fuel e))

/-- Calls a function of the script. -/
def call (s : Setting) : Nat → String → List Expr → Run Value
  | 0, _, _ => (starve : Act Value)
  | fuel + 1, name, args => do
    match s.program.function? name with
    | none => return .nothing
    | some f =>
      let locals ← bind s fuel f f.params args
      let before := (← get).locals
      let tableCount := (← get).tables.size
      modify fun m => { m with locals := locals }
      let r ← tryCatch (do
          exec s fuel f.body
          return Value.nothing) fun
        | .returned v => return v
        | other => do
          modify fun m => { m with locals := before }
          throw other
      modify fun m => { m with locals := before }
      if tableCount + 1000 < (← get).tables.size then spendTurn
      return r

/-- What the parameters of a function stand for. -/
def bind (s : Setting) : Nat → Function → List String → List Expr → Run (List (String × Local))
  | 0, _, _, _ => (starve : Act (List (String × Local)))
  | _ + 1, _, [], _ => return []
  | fuel + 1, f, param :: params, args => do
    let l ← match args with
      | e :: _ =>
        if f.tables.contains param then
          match e with
          | .place (.variable name) => pure (Local.table (← tableOf name))
          | _ => pure (Local.table (← newTable .empty))
        else pure (Local.value (← eval s fuel e))
      | [] =>
        if f.tables.contains param then pure (Local.table (← newTable .empty))
        else pure (Local.value .nothing)
    let ls ← bind s fuel f params args.tail
    return (param, l) :: ls

def exec (s : Setting) : Nat → Statement → Run Unit
  | 0, _ => (starve : Act Unit)
  | fuel + 1, x => do
    match x with
    | .nothing => pure ()
    | .block xs => execAll s fuel xs
    | .expression e =>
      let _ ← eval s fuel e
    | .print args out =>
      let style ← globalText "OFMT"
      let shown (v : Value) : Text := v.show style
      let t ← match args with
        | [] => textOf (← field s 0)
        | args => do
          let vs ← evalAll s fuel args
          pure ((vs.map shown).intersperse (← globalText "OFS")).flatten
      let out ← outletOf s fuel out
      emit s out (t ++ (← globalText "ORS"))
    | .printf args out =>
      let vs ← evalAll s fuel args
      let out ← outletOf s fuel out
      let format ← textOf (vs.headD .nothing)
      let style ← conversion
      let (t, fault) := Format.filled (Value.show style) format vs.tail
      emit s out t
      match fault with
      | none => pure ()
      | some .tooFew =>
        crash s ("not enough arguments passed to printf(\"".toList ++ format ++ "\")".toList)
      | some (.improper n) =>
        crash s ("improper conversion(number ".toList ++ Numeral.write n ++
          ") in printf(\"".toList ++ format ++ "\")".toList)
    | .when c a b => if (← eval s fuel c).isTrue then exec s fuel a else exec s fuel b
    | .loop isBefore c behind body => turn s fuel isBefore c behind body
    | .each name table body =>
      let keys ← withTable (← tableOf table) Table.keys
      eachKey s fuel name keys body
    | .break => throw .broken
    | .continue => throw .continued
    | .next => throw .next
    | .nextFile => throw .nextFile
    | .exit e =>
      match e with
      | none => pure ()
      | some e =>
        let x := (← eval s fuel e).amount
        setStatus (Amount.clipped (-(2 ^ 31)) (2 ^ 31 - 1) x % 256).toNat
      throw .exit
    | .return e =>
      match e with
      | none => throw (.returned .nothing)
      | some e => throw (.returned (← eval s fuel e))
    | .delete table [] => changeTable (← tableOf table) fun _ => .empty
    | .delete table indices =>
      let key ← keyOf s fuel indices
      changeTable (← tableOf table) (Table.remove key)

def execAll (s : Setting) : Nat → List Statement → Run Unit
  | 0, _ => (starve : Act Unit)
  | _ + 1, [] => pure ()
  | fuel + 1, x :: xs => do
    exec s fuel x
    execAll s fuel xs

def outletOf (s : Setting) : Nat → Option (OutletKind × Expr) → Run (Option (OutletKind × Text))
  | 0, _ => (starve : Act (Option (OutletKind × Text)))
  | _ + 1, none => return none
  | fuel + 1, some (k, e) => do return some (k, ← textOf (← eval s fuel e))

/-- A turn of a loop, and those behind it. -/
def turn (s : Setting) : Nat → Bool → Option Expr → Option Expr → Statement → Run Unit
  | 0, _, _, _, _ => (starve : Act Unit)
  | fuel + 1, looks, c, behind, body => do
    spendTurn
    let goesOn ← match looks, c with
      | true, some c => do pure (← eval s fuel c).isTrue
      | _, _ => pure true
    if goesOn then
      let ended ← tryCatch (do
          exec s fuel body
          return false) fun
        | .broken => return true
        | .continued => return false
        | other => throw other
      if !ended then
        match behind with
        | none => pure ()
        | some e =>
          let _ ← eval s fuel e
        turn s fuel true c behind body

/-- The turns of a loop over keys. -/
def eachKey (s : Setting) : Nat → String → List Text → Statement → Run Unit
  | 0, _, _, _ => (starve : Act Unit)
  | _ + 1, _, [], _ => pure ()
  | fuel + 1, name, t :: ts, body => do
    spendTurn
    setVariable s name (.text t)
    let ended ← tryCatch (do
        exec s fuel body
        return false) fun
      | .broken => return true
      | .continued => return false
      | other => throw other
    if !ended then eachKey s fuel name ts body

end

/-! Programs -/

/-- Nothing goes deeper or takes longer. -/
def mostSteps : Nat := 2 ^ 40

/-- Whether a rule is for the record. -/
def Choice.applies (s : Setting) (c : Choice) : Run Bool := do
  match c with
  | .all => return true
  | .one e => return (← eval s mostSteps e).isTrue
  | .range n first last =>
    let isOpen := (← get).ranges.contains n
    if isOpen || (← eval s mostSteps first).isTrue then
      let ends := (← eval s mostSteps last).isTrue
      let others := (← get).ranges.filter (· ≠ n)
      modify fun m => { m with ranges := if ends then others else n :: others }
      return true
    else return false

def applyRules (s : Setting) : Run Unit := do
  for r in s.program.rules do
    if ← r.choice.applies s then
      match r.body with
      | some x => exec s mostSteps x
      | none => emit s none ((← textOf (← field s 0)) ++ (← globalText "ORS"))

/-- What is done for all records. -/
def records (s : Setting) : Nat → Run Unit
  | 0 => (starve : Act Unit)
  | fuel + 1 => do
    match ← readMain s mostSteps with
    | none => pure ()
    | some t =>
      setRecord (.input t)
      tryCatch (applyRules s) fun
        | .next => pure ()
        | .nextFile => modify fun m => { m with main := none }
        | other => throw other
      records s fuel

/-- Runs a program. The result tells whether it could come to its end. -/
def runProgram (s : Setting) : Run Unit := do
  let p := s.program
  let unlessExit (a : Run Unit) : Run Bool := do
    tryCatch (do
      a
      return true) fun
      | .exit => return false
      | .dead => throw .dead
      | _ => return true
  let goesOn ← unlessExit (p.begins.forM (exec s mostSteps))
  if goesOn && !(p.rules.isEmpty && p.ends.isEmpty) then
    let _ ← unlessExit (records s mostSteps)
  let _ ← unlessExit (p.ends.forM (exec s mostSteps))

end RemoteInterpreter.Shell.Tool.Awk
