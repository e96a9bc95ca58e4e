import RemoteInterpreter.Shell.Arithmetic
import RemoteInterpreter.Shell.Builtin
import RemoteInterpreter.Shell.Glob
import RemoteInterpreter.Shell.Lexeme

/-!
# Parts of words

What parameters, home directories and expressions in a word stand for, before the word
falls apart into fields.
-/

namespace RemoteInterpreter.Shell

/-- Unquoted marks may be cut. -/
def segmentOf (quoted : Bool) (t : Text) : Segment :=
  ⟨if quoted then .nowhere else .atSeparators, t.map fun c => (c, quoted)⟩

/-- All parameters in quotes are fields of their own. Without quotes they are, too, unless there
are no separators to be had. -/
def Strand.allParameters (s : Strand) (quoted splits : Bool) (name : Text) : List Segment :=
  let joined (joint : Text) : Text := (s.params.intersperse joint).flatten
  if s.params.isEmpty then []
  else if splits && quoted && name = ['@'] then
    [⟨.atBounds, (joined [bound]).map fun c => (c, c ≠ bound)⟩]
  else if splits && !quoted then
    [segmentOf false (joined (if (s.value? "IFS".toList).isSome then [bound] else [' ']))]
  else [segmentOf quoted (joined s.joint)]

def isAll (name : Text) : Bool := name == ['@'] || name == ['*']

def Strand.segments (s : Strand) (quoted splits : Bool) (name : Text) : List Segment :=
  if isAll name then s.allParameters quoted splits name
  else
    match s.lookup? name with
    | some t => [segmentOf quoted t]
    | none => []

/-- With the option for it an unset parameter is an error. -/
def ensureSet (name : Text) : Act Unit := do
  let s ← strand
  if s.has 'u' && !isAll name && (s.lookup? name).isNone then
    fail (name ++ ": parameter not set".toList)

/-- The home directory that a name behind a tilde stands for, if there is one. -/
def Strand.home? (s : Strand) (name : Text) : Option Text :=
  if name.isEmpty then s.value? "HOME".toList
  else if name = "root".toList then some "/root".toList
  else none

/-- A home directory stands for a tilde at the beginning, if the name behind that ends where
nothing is quoted or expanded. -/
def Strand.withHomeIn (s : Strand) (ends : Char → Bool) (isLast : Bool) (t : Text) : Word :=
  match t with
  | '~' :: u =>
    let name := u.takeWhile fun c => !ends c
    let behind := u.drop name.length
    match s.home? name with
    | some home =>
      if behind.isEmpty && !isLast then [.literal false t]
      else [.literal true home, .literal false behind]
    | none => [.literal false t]
  | t => [.literal false t]

/-- In assignments every part between colons may begin with a home directory. -/
def Strand.withHomes (s : Strand) (isFirst isLast : Bool) (t : Text) : Word :=
  let pieces := Text.splitAt ':' t
  let last := pieces.length - 1
  ((pieces.zipIdx).map fun (p, i) =>
    (if i = 0 then [] else [Piece.literal false [':']]) ++
      if i = 0 && !isFirst then [.literal false p]
      else s.withHomeIn (· = '/') (isLast || i < last) p).flatten

def Strand.withHome (s : Strand) (assigned : Bool) (w : Word) : Word :=
  match w with
  | .literal false t :: rest =>
    if assigned then go s true w
    else s.withHomeIn (· = '/') rest.isEmpty t ++ rest
  | w => if assigned then go s true w else w
where
  go (s : Strand) (isFirst : Bool) : Word → Word
  | .literal false t :: rest => s.withHomes isFirst rest.isEmpty t ++ go s false rest
  | p :: rest => p :: go s false rest
  | [] => []

/-- Whether a word is an assignment by its form. -/
def isAssignment : Word → Bool
  | .literal false t :: _ => (assignedName? t).isSome
  | _ => false

def withoutFinalLines (t : Text) : Text :=
  ((t.filter (· ≠ bound)).reverse.dropWhile (· = '\n')).reverse

/-- The value of an expression, after its assignments. -/
def reckonText (t : Text) : Act Text := do
  let s ← strand
  match Arithmetic.reckon (fun name => (s.lookup? name).getD []) t with
  | .ok (value, assigned) =>
    for (name, n) in assigned do
      assign name (Numeral.writeInt n)
    return Numeral.writeInt value
  | .error (.bad what) =>
    fail ("arithmetic expression: ".toList ++ what.toList ++ ": \"".toList ++ t ++ ['"'])
  | .error (.notANumber v) => fail ("Illegal number: ".toList ++ v)

/-- The names of files that a field stands for, unless there is the option against it. -/
def filesOf (field : List Mark) : Act (List Text) := do
  let s ← strand
  if s.has 'f' then return [unmarked field]
  else return Glob.names (← world).disk s.directory field

end RemoteInterpreter.Shell
