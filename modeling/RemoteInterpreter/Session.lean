import RemoteInterpreter.Session.Call
import RemoteInterpreter.Decode

/-!
# Sessions

A session is a channel to one interpreter, the handles built on it, the registry of its
decoders, and the calls that somebody awaits. Bindings, calls, writer and reader each
move one step at a time. Which of them moves next is not fixed here: whatever holds
along every list of actions holds for every schedule.
-/

namespace RemoteInterpreter

structure Session where
  number : Nat
  /-- What the names of all its variables begin with. -/
  stem : Text
  channel : Channel Session.Party
  bindings : Nat → Option Session.Binding
  /-- How many handles were built, which numbers the next one. The number is a word of 64 bits, so
  this is so for fewer than `2 ^ 64` handles. -/
  built : Nat
  calls : Nat → Option Session.Call
  begun : Nat
  registry : Registry

namespace Session

/-- The stem is checked, so that every variable is an identifier. -/
def opened (number : Nat) (stem : Text) (debug : Bool) : Except UsageError Session :=
  if Identifier.isIdentifier stem then
    .ok ⟨number, stem, .opened debug, fun _ => none, 0, fun _ => none, 0, []⟩
  else .error (.badPrefix stem)

def handleAt (s : Session) (n : Nat) : Handle := ⟨s.number, s.stem, n⟩

/-- What became of the binding of a handle. -/
def resolution? (s : Session) (n : Nat) : Option (Except Error Text) :=
  (s.bindings n).bind Binding.resolution?

/-- All handles of a closed channel are closed. -/
def state? (s : Session) (n : Nat) : Option State :=
  (s.bindings n).map fun b => if s.channel.isClosed then .closed else b.state

def isBound (s : Session) (n : Nat) : Bool :=
  match s.bindings n with
  | some b => b.state.isBound
  | none => false

def putBinding (n : Nat) (b : Binding) (s : Session) : Session :=
  { s with bindings := put s.bindings n (some b) }

def putCall (n : Nat) (c : Call) (s : Session) : Session :=
  { s with calls := put s.calls n (some c) }

/-- The next handle. -/
def addBinding (b : Binding) (s : Session) : Session :=
  { s.putBinding s.built b with built := s.built + 1 }

/-- Binds an expression to the next variable. The command is sent at once if all handles that it
uses are bound already. Where nothing can run in the background the binding has failed. -/
def bind (running : Bool) (x : Expression) (s : Session) : Session :=
  let h := s.handleAt s.built
  if !running then
    s.addBinding ⟨x, .failed, Binding.errandAt h x (.failed (.usage .outsideRuntime))⟩
  else if (Binding.uses x).all s.isBound then
    let (channel, ticket) := s.channel.send .exec (Binding.source h x)
    { s with channel := channel }.addBinding ⟨x, .resolving, Binding.errandAt h x (.sent ticket)⟩
  else s.addBinding ⟨x, .created, Binding.errandAt h x .fresh⟩

/-- A draft that cannot be composed changes nothing. -/
def build (running : Bool) (d : Draft) (s : Session) : Except UsageError (Session × Handle) :=
  match Expression.compose s.number d with
  | .error e => .error e
  | .ok x => .ok (s.bind running x, s.handleAt s.built)

/-- The next call; its number identifies it. -/
def begin (r : Request) (s : Session) : Session × Nat :=
  ({ s.putCall s.begun (Call.ofRequest s.number r) with begun := s.begun + 1 }, s.begun)

/-- Somebody no longer awaits a call. -/
def drop (n : Nat) (s : Session) : Session :=
  { s with calls := put s.calls n none, channel := s.channel.leave (.call n) }

def markEvaluated (n : Nat) (s : Session) : Session :=
  match s.bindings n with
  | some b => s.putBinding n { b with state := b.state.marked }
  | none => s

def registerLocal (e : Entry) (s : Session) : Session :=
  { s with registry := s.registry.register e }

/-- Installs an encoder in the interpreter. -/
def registration (tag encoder : Text) : Text :=
  "__hopi_register__(".toList ++ Literal.quote tag ++ ", ".toList ++ encoder ++ [')']

/-- Stores an entry, and sends its encoder in the same step. -/
def store (n : Nat) (c : Call) (e : Entry) (rest : List Entry) (s : Session) : Session :=
  let s := s.registerLocal e
  let c := { c with goal := .installed rest }
  match e.encoder with
  | none => s.putCall n c
  | some encoder =>
    let (channel, ticket) := s.channel.send .exec (registration e.tag encoder)
    { s with channel := channel }.putCall n (c.atStage (.sent ticket))

/-- Makes the result of the answer's text, or goes on to the next entry of a pack. -/
def conclude (n : Nat) (c : Call) (text : Text) (s : Session) : Session :=
  match c.goal with
  | .done | .response => s.putCall n (c.finished (.ok .done))
  | .payload => s.putCall n (c.finished (.ok (.payload text)))
  | .value =>
    match Decode.payload s.registry text with
    | .error e => s.putCall n (c.finished (.error (.decode e)))
    | .ok v => s.putCall n (c.finished (.ok (.value v)))
  | .forced h =>
    match Decode.payload s.registry text with
    | .error e => s.putCall n (c.finished (.error (.decode e)))
    | .ok v => (s.markEvaluated h).putCall n (c.finished (.ok (.value v)))
  | .boundModule name =>
    match s.build true ⟨[name], []⟩ with
    | .error e => s.putCall n (c.finished (.error (.usage e)))
    | .ok (s, h) => s.putCall n (c.finished (.ok (.handle h)))
  | .installed _ => s.putCall n (c.atStage .held)

/-- The call at a new stage of its errand. -/
def settle (n : Nat) (c : Call) (s : Session) : Session :=
  match c.goal, c.errand.stage with
  | .response, .answered r => s.putCall n (c.finished (.ok (.response r)))
  | _, stage =>
    match stage.result? with
    | none => s.putCall n c
    | some (.error e) => s.putCall n (c.finished (.error e))
    | some (.ok text) => s.conclude n c text

def advanceBinding? (n : Nat) (s : Session) : Option Session :=
  match s.bindings n with
  | none => none
  | some b =>
    match b.errand.advance? (.binding n) s.resolution? s.channel with
    | none => none
    | some (channel, stage) => some ({ s with channel := channel }.putBinding n (b.atStage stage))

def advanceCall? (n : Nat) (s : Session) : Option Session :=
  match s.calls n with
  | none => none
  | some c =>
    match c.result, c.goal, c.errand.stage with
    | some _, _, _ => none
    | none, .installed [], .held => some (s.putCall n (c.finished (.ok .done)))
    | none, .installed (e :: rest), .held => some (s.store n c e rest)
    | none, _, _ =>
      match c.errand.advance? (.call n) s.resolution? s.channel with
      | none => none
      | some (channel, stage) => some ({ s with channel := channel }.settle n (c.atStage stage))

/-- One step of a binding or a call, if it has one. -/
def advance? : Party → Session → Option Session
  | .binding n, s => s.advanceBinding? n
  | .call n, s => s.advanceCall? n

/-- The result of a call that has come to its end. -/
def result? (n : Nat) (s : Session) : Option (Except Error Answer) :=
  (s.calls n).bind Call.result

def shown (s : Session) : String :=
  "Session \x7b channel: " ++ s.channel.shown ++ ", variable_prefix: " ++ s.stem.shown ++
    ", handles: " ++ (Numeral.write s.built).str ++ " \x7d"

def shownHandle (s : Session) (n : Nat) : Option String :=
  (s.bindings n).bind fun b => (s.state? n).map fun state =>
    "Handle \x7b name: " ++ (s.handleAt n).name.shown ++ ", expression: " ++
      b.expression.source.shown ++ ", state: " ++ state.shown ++ " \x7d"

def shownCodec (s : Session) : String :=
  "Codec \x7b decoder: " ++ s.registry.shown ++ ", .. \x7d"

end Session

end RemoteInterpreter
