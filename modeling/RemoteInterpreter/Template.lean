import RemoteInterpreter.Identifier
import RemoteInterpreter.Literal

/-!
# Templates

A template is text with slots: `\x7b\x7d` takes the next argument, `\x7bn\x7d` the one at an index
and `\x7bname\x7d` the one of a name. Doubled braces stand for braces. Filling uses every
argument and does not look at the text of the arguments.
-/

namespace RemoteInterpreter

inductive Slot where
  | next
  | index (i : Nat)
  | name (n : Text)
  deriving DecidableEq, Repr

/-- The text before the first slot, and every slot with the text behind it. -/
structure Template where
  opening : Text
  rest : List (Slot × Text)
  deriving DecidableEq, Repr

inductive TemplateError where
  | unclosed (template : Text)
  | unmatched (template : Text)
  | invalidSlot (slot template : Text)
  | indexTooLarge (slot : Text)
  | mixedSlots
  | needsNames (slot : Text)
  | noArgument (index given : Nat)
  | unusedArgument (index : Nat)
  | needsPositions
  | noArgumentNamed (name : Text)
  | unusedName (name : Text)
  deriving DecidableEq, Repr

namespace TemplateError

def message : TemplateError → String
  | .unclosed t => "unclosed placeholder in template " ++ t.shown
  | .unmatched t => "unmatched '\x7d' in template " ++ t.shown
  | .invalidSlot s t => "invalid placeholder \x7b" ++ s.str ++ "\x7d in template " ++ t.shown
  | .indexTooLarge s => "placeholder index " ++ s.str ++ " is too large"
  | .mixedSlots => "cannot mix automatic '\x7b\x7d' and numbered '\x7bn\x7d' placeholders"
  | .needsNames s => "named placeholder \x7b" ++ s.str ++ "\x7d needs named arguments"
  | .noArgument i n =>
    "placeholder " ++ (Numeral.write i).str ++ " has no argument (" ++ (Numeral.write n).str ++
      " given)"
  | .unusedArgument i => "argument " ++ (Numeral.write i).str ++ " is never used"
  | .needsPositions => "positional placeholders need positional arguments"
  | .noArgumentNamed n => "no argument named " ++ n.shown
  | .unusedName n => "argument " ++ n.shown ++ " is never used"

end TemplateError

namespace Template

def slots (t : Template) : List Slot := t.rest.map Prod.fst

def fragments (t : Template) : List Text := t.opening :: t.rest.map Prod.snd

@[simp] theorem length_fragments (t : Template) : t.fragments.length = t.slots.length + 1 := by
  simp [fragments, slots]

/-- What is wrong with a text, before the message names the text. -/
inductive Fault where
  | unclosed
  | unmatched
  | invalidSlot (slot : Text)
  | indexTooLarge (slot : Text)
  deriving DecidableEq, Repr

def Fault.inTemplate (template : Text) : Fault → TemplateError
  | .unclosed => .unclosed template
  | .unmatched => .unmatched template
  | .invalidSlot slot => .invalidSlot slot template
  | .indexTooLarge slot => .indexTooLarge slot

def indexBound : Nat := 2 ^ 64

/-- The slot that stands between two braces; blanks around it do not count. -/
def slot (inside : Text) : Except Fault Slot :=
  let s := Text.trim inside
  if s.isEmpty then .ok .next
  else if s.all Char.isDigit then
    if Numeral.value s < indexBound then .ok (.index (Numeral.value s))
    else .error (.indexTooLarge s)
  else if Identifier.isIdentifier s then .ok (.name s)
  else .error (.invalidSlot s)

def push (c : Char) (t : Template) : Template := { t with opening := c :: t.opening }

def pushSlot (s : Slot) (t : Template) : Template := ⟨[], (s, t.opening) :: t.rest⟩

mutual

def scan : Text → Except Fault Template
  | [] => .ok ⟨[], []⟩
  | '\x7b' :: '\x7b' :: rest => (scan rest).map (push '\x7b')
  | '\x7d' :: '\x7d' :: rest => (scan rest).map (push '\x7d')
  | c :: rest =>
    if c = '\x7b' then scanSlot [] rest
    else if c = '\x7d' then .error .unmatched
    else (scan rest).map (push c)

/-- Inside a slot; what was read of it is kept in reverse. -/
def scanSlot (inside : Text) : Text → Except Fault Template
  | [] => .error .unclosed
  | c :: rest =>
    if c = '\x7d' then
      match slot inside.reverse with
      | .error fault => .error fault
      | .ok s => (scan rest).map (pushSlot s)
    else scanSlot (c :: inside) rest

end

def parse (text : Text) : Except TemplateError Template :=
  (scan text).mapError (Fault.inTemplate text)

/-- The arguments of the slots with their indices, in the order of the slots. -/
def pick (args : List Arg) : Nat → List Slot → Except TemplateError (List (Nat × Arg))
  | _, [] => .ok []
  | _, .name n :: _ => .error (.needsNames n)
  | next, .next :: rest =>
    match args[next]? with
    | none => .error (.noArgument next args.length)
    | some arg => (pick args (next + 1) rest).map ((next, arg) :: ·)
  | next, .index i :: rest =>
    match args[i]? with
    | none => .error (.noArgument i args.length)
    | some arg => (pick args next rest).map ((i, arg) :: ·)

def isIndex : Slot → Bool
  | .index _ => true
  | _ => false

/-- One argument for every slot, by position. -/
def fill (t : Template) (args : List Arg) : Except TemplateError (List Arg) :=
  if t.slots.contains .next && t.slots.any isIndex then .error .mixedSlots
  else
    match pick args 0 t.slots with
    | .error e => .error e
    | .ok picked =>
      match (List.range args.length).find? fun i => !(picked.map Prod.fst).contains i with
      | some i => .error (.unusedArgument i)
      | none => .ok (picked.map Prod.snd)

/-- The last argument of a name counts. -/
def named? (args : List (Text × Arg)) (name : Text) : Option Arg :=
  (args.reverse.find? fun a => a.1 == name).map Prod.snd

def pickNamed (args : List (Text × Arg)) : List Slot → Except TemplateError (List Arg)
  | [] => .ok []
  | .name n :: rest =>
    match named? args n with
    | none => .error (.noArgumentNamed n)
    | some arg => (pickNamed args rest).map (arg :: ·)
  | _ :: _ => .error .needsPositions

/-- One argument for every slot, by name. -/
def fillNamed (t : Template) (args : List (Text × Arg)) : Except TemplateError (List Arg) :=
  match pickNamed args t.slots with
  | .error e => .error e
  | .ok picked =>
    match args.find? fun a => !t.slots.contains (.name a.1) with
    | some a => .error (.unusedName a.1)
    | none => .ok picked

def doubled (t : Text) : Text :=
  t.flatMap fun c => if c = '\x7b' ∨ c = '\x7d' then [c, c] else [c]

def printSlot : Slot → Text
  | .next => ['\x7b', '\x7d']
  | .index i => '\x7b' :: Numeral.write i ++ ['\x7d']
  | .name n => '\x7b' :: n ++ ['\x7d']

/-- The text of a template: braces doubled, slots without blanks. -/
def print (t : Template) : Text :=
  doubled t.opening ++ t.rest.flatMap fun p => printSlot p.1 ++ doubled p.2

example : parse "a\x7b\x7b\x7b 1 \x7d\x7d\x7d".toList =
    .ok ⟨['a', '\x7b'], [(.index 1, ['\x7d'])]⟩ := rfl

end Template

end RemoteInterpreter
