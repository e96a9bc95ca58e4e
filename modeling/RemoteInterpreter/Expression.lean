import RemoteInterpreter.Template

/-!
# Expressions

A draft is literal source fragments with an argument between any two. Composing it
for a session gives an expression: the source text on one line, and the handles that
must be bound before it is used, each once, in the order in which they occur. What
cannot be composed is refused before anything is sent, and so is a wrong name of a
module or of a variable.
-/

namespace RemoteInterpreter

/-- Why something is refused before anything is sent. -/
inductive UsageError where
  | template (e : TemplateError)
  | fragmentCount (fragments arguments : Nat)
  | foreignHandle (name : Text)
  | severalLines
  | keywordsNotLast
  | badKeyword (name : Text)
  | badModuleName (name : Text)
  | badPrefix (stem : Text)
  | outsideRuntime
  deriving DecidableEq, Repr

def UsageError.message : UsageError → String
  | .template e => e.message
  | .fragmentCount f a =>
    (Numeral.write f).str ++ " fragments cannot surround " ++ (Numeral.write a).str ++ " arguments"
  | .foreignHandle name => "handle " ++ name.str ++ " belongs to another session"
  | .severalLines => "expressions must fit on a single line"
  | .keywordsNotLast => "kwargs need to be last"
  | .badKeyword name => "keyword " ++ name.shown ++ " is not a valid identifier"
  | .badModuleName name => name.shown ++ " is not a module name"
  | .badPrefix stem => "variable prefix " ++ stem.shown ++ " is not an identifier"
  | .outsideRuntime => "handles must be built inside a Tokio runtime"

structure Draft where
  fragments : List Text
  args : List Arg
  deriving Repr

structure Expression where
  source : Text
  uses : List Handle
  deriving DecidableEq, Repr

/-- The members of a list, each at its first place. -/
def distinct {α : Type} [DecidableEq α] : List α → List α
  | [] => []
  | a :: rest => a :: (distinct rest).filter (· ≠ a)

theorem mem_distinct {α : Type} [DecidableEq α] {l : List α} {a : α} :
    a ∈ distinct l ↔ a ∈ l := by
  induction l with
  | nil => simp [distinct]
  | cons b l ih => by_cases h : a = b <;> simp [distinct, h, ih]

theorem nodup_distinct {α : Type} [DecidableEq α] (l : List α) : (distinct l).Nodup := by
  induction l with
  | nil => simp [distinct]
  | cons b l ih =>
    have : ((distinct l).filter (· ≠ b)).Nodup := List.Pairwise.filter _ ih
    simpa [distinct] using this

namespace Expression

/-- The handles among the arguments, which must all be of the session. -/
def collect (session : Nat) (args : List Arg) : Except UsageError (List Handle) :=
  let occurring := Arg.handlesOfItems args
  match occurring.find? fun h => h.session ≠ session with
  | some h => .error (.foreignHandle h.name)
  | none => .ok (distinct occurring)

/-- Fragments and arguments in turn, a fragment first. -/
def interleave : List Text → List Arg → Text
  | [], _ => []
  | fragment :: fragments, [] => fragment ++ interleave fragments []
  | fragment :: fragments, arg :: args => fragment ++ arg.render ++ interleave fragments args

/-- The lengths are checked first, then the handles and then the text. -/
def compose (session : Nat) (d : Draft) : Except UsageError Expression :=
  if d.fragments.length ≠ d.args.length + 1 then
    .error (.fragmentCount d.fragments.length d.args.length)
  else
    match collect session d.args with
    | .error e => .error e
    | .ok uses =>
      let source := interleave d.fragments d.args
      if source.breaksLine then .error .severalLines else .ok ⟨source, uses⟩

end Expression

namespace Template

/-- The draft of a template filled by position. -/
def draft (text : Text) (args : List Arg) : Except UsageError Draft :=
  match parse text with
  | .error e => .error (.template e)
  | .ok t =>
    match t.fill args with
    | .error e => .error (.template e)
    | .ok args => .ok ⟨t.fragments, args⟩

/-- The draft of a template filled by name. -/
def namedDraft (text : Text) (args : List (Text × Arg)) : Except UsageError Draft :=
  match parse text with
  | .error e => .error (.template e)
  | .ok t =>
    match t.fillNamed args with
    | .error e => .error (.template e)
    | .ok args => .ok ⟨t.fragments, args⟩

end Template

end RemoteInterpreter
