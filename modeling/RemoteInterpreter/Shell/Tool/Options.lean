import RemoteInterpreter.Text

/-!
# Options of tools

Arguments that begin with a hyphen are options: letters, of which several may stand in
one word, or long names, which may be cut short as long as it is clear which one is
meant. An option may have a value.
-/

namespace RemoteInterpreter.Shell.Tool

/-- Whether an option has a value. -/
inductive Takes where
  | nothing
  | value
  /-- Only a value in the same word. -/
  | maybe
  deriving DecidableEq, Repr

/-- An option that a tool knows. A letter that is no octet cannot be given. -/
structure Known where
  letter : Char
  long : String
  takes : Takes

/-- Options without values, and those with one. -/
def known (bare valued : List (Char × String)) : List Known :=
  bare.map (fun o => ⟨o.1, o.2, .nothing⟩) ++ valued.map fun o => ⟨o.1, o.2, .value⟩

/-- An option that was given, with its value. -/
abbrev Given := Char × Text

namespace Options

def unknown (c : Char) : Text := "invalid option -- '".toList ++ [c, '\'']

def lacksValue (c : Char) : Text := "option requires an argument -- '".toList ++ [c, '\'']

/-- The options that a long name may mean. -/
def meant (all : List Known) (name : Text) : List Known :=
  let named := all.filter fun o => !o.long.isEmpty
  match named.find? fun o => o.long.toList = name with
  | some o => [o]
  | none => named.filter fun o => name.isPrefixOf o.long.toList

/-- Whether it does not matter which one is meant. -/
def isClear (os : List Known) : Bool :=
  match os with
  | [] => false
  | o :: rest => rest.all fun p => p.letter = o.letter && p.takes = o.takes

def long (name : Text) : Text := "option '--".toList ++ name ++ ['\'']

/-- An option by its long name. The result tells whether its value is the next word. -/
def readLong (all : List Known) (word : Text) : Except Text (Char × Option Text × Bool) :=
  let (name, value) : Text × Option Text := match Text.cut? '=' word with
    | some (name, value) => (name, some value)
    | none => (word, none)
  let os := meant all name
  match os with
  | [] => throw ("unrecognized option '--".toList ++ word ++ ['\''])
  | o :: _ =>
    if !isClear os then
      throw (long word ++ " is ambiguous; possibilities:".toList ++
        os.flatMap fun o => " '--".toList ++ o.long.toList ++ ['\''])
    else
      match o.takes, value with
      | .nothing, some _ => throw (long o.long.toList ++ " doesn't allow an argument".toList)
      | .value, none => return (o.letter, none, true)
      | _, value => return (o.letter, value, false)

/-- The letters of a word. The result tells whether the value of the last one is the next word. -/
def readLetters (all : List Known) : Text → Except Text (List Given × Option Char)
  | [] => return ([], none)
  | c :: rest => do
    match all.find? fun o => o.letter = c with
    | none => throw (unknown c)
    | some o =>
      match o.takes, rest with
      | .nothing, rest =>
        let (os, last) ← readLetters all rest
        return ((c, []) :: os, last)
      | .value, [] => return ([], some c)
      | _, rest => return ([(c, rest)], none)

/-- The options and the other words. Behind the first of those there is no option, unless options
are looked for everywhere. -/
def read (all : List Known) (everywhere : Bool) : Nat → List Text →
    Except Text (List Given × List Text)
  | 0, words => return ([], words)
  | _, [] => return ([], [])
  | fuel + 1, word :: rest => do
    let behind (given : List Given) (rest : List Text) : Except Text (List Given × List Text) := do
      let (os, operands) ← read all everywhere fuel rest
      return (given ++ os, operands)
    match word with
    | ['-', '-'] => return ([], rest)
    | '-' :: '-' :: name =>
      let (c, value, awaits) ← readLong all name
      match awaits, rest with
      | false, rest => behind [(c, value.getD [])] rest
      | true, v :: rest => behind [(c, v)] rest
      | true, [] =>
        let o := (meant all name).head?
        throw (long ((o.map fun o => o.long.toList).getD name) ++ " requires an argument".toList)
    | '-' :: c :: cs =>
      let (given, awaiting) ← readLetters all (c :: cs)
      match awaiting, rest with
      | none, rest => behind given rest
      | some c, v :: rest => behind (given ++ [(c, v)]) rest
      | some c, [] => throw (lacksValue c)
    | word =>
      if everywhere then
        let (os, operands) ← read all everywhere fuel rest
        return (os, word :: operands)
      else return ([], word :: rest)

end Options

/-- The options among some words, and the other words; or what is wrong with an option. -/
def parse (all : List Known) (everywhere : Bool) (words : List Text) :
    Except Text (List Given × List Text) :=
  Options.read all everywhere (words.length + 1) words

def has (os : List Given) (c : Char) : Bool := os.any fun o => o.1 = c

/-- The value of an option that was given last. -/
def valueOf? (os : List Given) (c : Char) : Option Text := (os.reverse.lookup c)

/-- The one of some options that was given last. -/
def lastOf? (os : List Given) (cs : List Char) : Option Char :=
  (os.reverse.find? fun o => cs.contains o.1).map Prod.fst

end RemoteInterpreter.Shell.Tool
