import RemoteInterpreter.Text

/-!
# Identifiers

The names that may be written bare in interpreter source: an ASCII letter or an
underscore, then letters, digits and underscores. Reserved words have that shape
but are no names.
-/

namespace RemoteInterpreter.Identifier

def isStart (c : Char) : Bool := c.isAlpha || c == '_'

def isPart (c : Char) : Bool := c.isAlphanum || c == '_'

def isIdentifier : Text → Bool
  | [] => false
  | c :: rest => isStart c && rest.all isPart

def reserved : List Text :=
  ["False".toList, "None".toList, "True".toList, "and".toList, "as".toList, "assert".toList,
   "async".toList, "await".toList, "break".toList, "class".toList, "continue".toList,
   "def".toList, "del".toList, "elif".toList, "else".toList, "except".toList, "finally".toList,
   "for".toList, "from".toList, "global".toList, "if".toList, "import".toList, "in".toList,
   "is".toList, "lambda".toList, "nonlocal".toList, "not".toList, "or".toList, "pass".toList,
   "raise".toList, "return".toList, "try".toList, "while".toList, "with".toList,
   "yield".toList]

def isReserved (t : Text) : Bool := reserved.contains t

/-- A name that can be written bare. -/
def isName (t : Text) : Bool := isIdentifier t && !isReserved t

/-- Names joined by points. -/
def isModuleName (t : Text) : Bool := (Text.splitAt '.' t).all isName

theorem isPart_of_isStart {c : Char} (h : isStart c = true) : isPart c = true := by
  simp only [isStart, isPart, Char.isAlphanum, Bool.or_eq_true] at *
  grind

theorem isPart_of_mem {t : Text} (h : isIdentifier t = true) {c : Char} (hc : c ∈ t) :
    isPart c = true := by
  cases t with
  | nil => simp at hc
  | cons d rest =>
    simp only [isIdentifier, Bool.and_eq_true, List.all_eq_true] at h
    rcases List.mem_cons.1 hc with rfl | hc
    · exact isPart_of_isStart h.1
    · exact h.2 c hc

theorem isIdentifier_append {t u : Text} (h : isIdentifier t = true) (hu : u.all isPart = true) :
    isIdentifier (t ++ u) = true := by
  cases t with
  | nil => simp [isIdentifier] at h
  | cons c rest =>
    simp only [isIdentifier, Bool.and_eq_true] at h
    simp [isIdentifier, h.1, h.2, hu]

end RemoteInterpreter.Identifier
