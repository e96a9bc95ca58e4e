import RemoteInterpreter.Numeral
import RemoteInterpreter.Text.Escaped

/-!
# Wire lines

Commands go out and responses come back as lines `<id>=<tag>=<text>`. Only the first
two separators count, so the text may hold more of them. Both directions share one
message type; they differ in their tags.
-/

namespace RemoteInterpreter

inductive LineError where
  | missingSeparator (line : Text)
  | invalidId (id : Text)
  | unknownKind (tag : Text)
  | unknownStatus (tag : Text)
  deriving DecidableEq, Repr

def LineError.message : LineError → String
  | .missingSeparator line => "missing '=' separator in line " ++ line.shown
  | .invalidId id => "invalid request id " ++ id.shown
  | .unknownKind tag => "unknown command kind " ++ tag.shown
  | .unknownStatus tag => "unknown response status " ++ tag.shown

/-- Tags have one spelling each, and none of them holds a separator. -/
class LineTag (τ : Type) where
  spelling : τ → Text
  read? : Text → Option τ
  unknown : Text → LineError
  read?_eq_some_iff : ∀ {s : Text} {t : τ}, read? s = some t ↔ s = spelling t
  separator_not_mem : ∀ t : τ, '=' ∉ spelling t

/-- What the interpreter does with a source: evaluate an expression or execute statements. -/
inductive Kind where
  | eval
  | exec
  deriving DecidableEq, Repr

/-- How a command ended: with a result or with a raised exception. -/
inductive Status where
  | pass
  | fail
  deriving DecidableEq, Repr

def Kind.spelling : Kind → Text
  | .eval => ['E', 'V', 'A', 'L']
  | .exec => ['E', 'X', 'E', 'C']

def Kind.read? (s : Text) : Option Kind :=
  if s = Kind.eval.spelling then some .eval
  else if s = Kind.exec.spelling then some .exec
  else none

def Status.spelling : Status → Text
  | .pass => ['P', 'A', 'S', 'S']
  | .fail => ['F', 'A', 'I', 'L']

def Status.read? (s : Text) : Option Status :=
  if s = Status.pass.spelling then some .pass
  else if s = Status.fail.spelling then some .fail
  else none

instance : LineTag Kind where
  spelling := Kind.spelling
  read? := Kind.read?
  unknown := .unknownKind
  read?_eq_some_iff := by
    intro s t
    cases t <;> simp only [Kind.read?, Kind.spelling] <;> grind
  separator_not_mem t := by cases t <;> decide

instance : LineTag Status where
  spelling := Status.spelling
  read? := Status.read?
  unknown := .unknownStatus
  read?_eq_some_iff := by
    intro s t
    cases t <;> simp only [Status.read?, Status.spelling] <;> grind
  separator_not_mem t := by cases t <;> decide

structure Message (τ : Type) where
  id : Nat
  tag : τ
  text : Text
  deriving DecidableEq, Repr

abbrev Command := Message Kind

abbrev Response := Message Status

namespace Message

variable {τ : Type} [LineTag τ]

/-- Ids fit sixty-four bits. -/
def idBound : Nat := 2 ^ 64

/-- The message without its line end. -/
def body (m : Message τ) : Text :=
  Numeral.write m.id ++ '=' :: (LineTag.spelling m.tag ++ '=' :: m.text)

def line (m : Message τ) : Text := m.body ++ ['\n']

/-- At most one line feed at the end is dropped, and then at most one carriage return. -/
def stripped (line : Text) : Text := Text.dropFinal '\r' (Text.dropFinal '\n' line)

/-- The id is judged before the tag. -/
def parse (line : Text) : Except LineError (Message τ) :=
  match Text.cut? '=' (stripped line) with
  | none => .error (.missingSeparator (stripped line))
  | some (id, rest) =>
    match Text.cut? '=' rest with
    | none => .error (.missingSeparator (stripped line))
    | some (tag, text) =>
      match Numeral.readBelow? idBound id with
      | none => .error (.invalidId id)
      | some n =>
        match LineTag.read? (τ := τ) tag with
        | none => .error (LineTag.unknown τ tag)
        | some t => .ok ⟨n, t, text⟩

end Message

def Response.isPass (r : Response) : Bool := r.tag == .pass

/-- What the interpreter answers to statements that ran to their end. -/
def execOk : Text := ['O', 'K']

end RemoteInterpreter
