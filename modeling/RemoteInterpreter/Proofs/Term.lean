import RemoteInterpreter.Expression.Derived
import RemoteInterpreter.Proofs.Quotation

/-!
# Terms

The part of the interpreter's language that handles are derived with: literals, names, attributes,
subscripts and arithmetic. The reader takes what it can from the front of a text and leaves the
rest; products bind tighter than sums, both to the left, and attributes and subscripts tighter than
a minus.
-/

namespace RemoteInterpreter

inductive Term where
  | null
  | bool (b : Bool)
  | int (n : Int)
  | str (s : Text)
  | list (items : List Term)
  | tuple (items : List Term)
  | map (entries : List (Term × Term))
  | name (n : Text)
  | attribute (of : Term) (name : Text)
  | subscript (of key : Term)
  | binary (left : Term) (op : Operator) (right : Term)
  | negated (of : Term)
  deriving Repr

def Operator.ofSymbol? : Char → Option Operator
  | '+' => some .add
  | '-' => some .sub
  | '*' => some .mul
  | '/' => some .div
  | '%' => some .mod
  | _ => none

def Operator.isProduct : Operator → Bool
  | .add | .sub => false
  | .mul | .div | .mod => true

namespace Term

/-- The minus before a number belongs to it. -/
def negate : Term → Term
  | .int n => .int (-n)
  | x => .negated x

/-- Operands with operators between them. What stands to the left of the product under way is
kept as a function of this product. -/
def chain (left : Term → Term) (product : Term) : List (Operator × Term) → Term
  | [] => left product
  | (op, x) :: rest =>
    if op.isProduct then chain left (.binary product op x) rest
    else chain (fun y => .binary (left product) op y) x rest

/-- The words that the language keeps for itself: values, what stands in expressions, statements. -/
def keywords : List Text :=
  ["None".toList, "True".toList, "False".toList,
   "and".toList, "or".toList, "not".toList, "in".toList, "is".toList, "if".toList, "else".toList,
   "for".toList, "lambda".toList, "await".toList, "async".toList, "yield".toList,
   "as".toList, "assert".toList, "break".toList, "class".toList, "continue".toList, "def".toList,
   "del".toList, "elif".toList, "except".toList, "finally".toList, "from".toList,
   "global".toList, "import".toList, "nonlocal".toList, "pass".toList, "raise".toList,
   "return".toList, "try".toList, "while".toList, "with".toList]

def isLetter (c : Char) : Bool := c.isAlpha || c == '_'

def isLetterOrDigit (c : Char) : Bool := c.isAlphanum || c == '_'

/-- A word of ASCII letters and digits that can name something. -/
def isName : Text → Bool
  | [] => false
  | c :: rest => isLetter c && rest.all isLetterOrDigit && !keywords.contains (c :: rest)

def isSpace (c : Char) : Bool := c == ' ' || c == '\t'

def skip (t : Text) : Text := t.dropWhile isSpace

/-- A numeral has no leading zero, and neither a point nor a letter behind it. -/
def readNumeral? (t : Text) : Option (Nat × Text) :=
  let digits := t.takeWhile Char.isDigit
  let rest := t.dropWhile Char.isDigit
  if digits.isEmpty ∨ (digits.head? = some '0' ∧ 1 < digits.length) then none
  else if rest.head?.any fun c => c == '.' || isLetterOrDigit c then none
  else some (Numeral.value digits, rest)

/-- The longest identifier at the front. -/
def readIdentifier? : Text → Option (Text × Text)
  | [] => none
  | c :: rest =>
    if isLetter c then
      some (c :: rest.takeWhile isLetterOrDigit, rest.dropWhile isLetterOrDigit)
    else none

/-- An identifier that is no keyword. -/
def readName? (t : Text) : Option (Text × Text) :=
  match readIdentifier? t with
  | some (word, rest) => if word ∈ keywords then none else some (word, rest)
  | none => none

/-- Three keywords are values. -/
def readWord? (t : Text) : Option (Term × Text) :=
  match readIdentifier? t with
  | some (word, rest) =>
    if word = ['N', 'o', 'n', 'e'] then some (.null, rest)
    else if word = ['T', 'r', 'u', 'e'] then some (.bool true, rest)
    else if word = ['F', 'a', 'l', 's', 'e'] then some (.bool false, rest)
    else if word ∈ keywords then none
    else some (.name word, rest)
  | none => none

mutual

/-- The first number bounds how often reading calls itself. -/
def readTerm : Nat → Text → Option (Term × Text)
  | 0, _ => none
  | n + 1, t => do
    let (x, rest) ← readOperand n t
    let (more, rest) ← readMore n rest
    return (chain id x more, rest)

/-- All operators that follow, each with the operand behind it. -/
def readMore : Nat → Text → Option (List (Operator × Term) × Text)
  | 0, _ => none
  | n + 1, t =>
    match (skip t).head?.bind Operator.ofSymbol? with
    | none => some ([], t)
    | some op => do
      let (x, rest) ← readOperand n (skip t).tail
      let (more, rest) ← readMore n rest
      return ((op, x) :: more, rest)

def readOperand : Nat → Text → Option (Term × Text)
  | 0, _ => none
  | n + 1, t =>
    match skip t with
    | '-' :: rest => do
      let (x, rest) ← readOperand n rest
      return (negate x, rest)
    | t => do
      let (x, rest) ← readAtom n t
      readTrail n x rest

/-- The attributes and subscripts of a value. -/
def readTrail : Nat → Term → Text → Option (Term × Text)
  | 0, _, _ => none
  | n + 1, x, t =>
    match skip t with
    | '.' :: rest => do
      let (word, rest) ← readName? (skip rest)
      readTrail n (.attribute x word) rest
    | '[' :: rest => do
      let (key, rest) ← readTerm n rest
      match skip rest with
      | ']' :: rest => readTrail n (.subscript x key) rest
      | _ => none
    | _ => some (x, t)

/-- A parenthesised term is a tuple only if a comma follows. -/
def readAtom : Nat → Text → Option (Term × Text)
  | 0, _ => none
  | _ + 1, [] => none
  | n + 1, c :: rest =>
    if c = '"' then do
      let (s, rest) ← Literal.readQuoted? (c :: rest)
      return (.str s, rest)
    else if c.isDigit then do
      let (k, rest) ← readNumeral? (c :: rest)
      return (.int k, rest)
    else if c = '[' then do
      let (items, rest) ← readItems n ']' rest
      return (.list items, rest)
    else if c = '\x7b' then do
      let (entries, rest) ← readEntries n rest
      return (.map entries, rest)
    else if c = '(' then
      match skip rest with
      | ')' :: rest => some (.tuple [], rest)
      | rest => do
        let (x, rest) ← readTerm n rest
        match skip rest with
        | ')' :: rest => return (x, rest)
        | ',' :: rest => do
          let (items, rest) ← readItems n ')' rest
          return (.tuple (x :: items), rest)
        | _ => none
    else readWord? (c :: rest)

/-- Items up to a closing bracket, with a comma between any two, and perhaps one behind the last. -/
def readItems : Nat → Char → Text → Option (List Term × Text)
  | 0, _, _ => none
  | n + 1, close, t =>
    match skip t with
    | [] => none
    | c :: rest =>
      if c = close then some ([], rest)
      else do
        let (x, rest) ← readTerm n (c :: rest)
        match skip rest with
        | ',' :: rest => do
          let (items, rest) ← readItems n close rest
          return (x :: items, rest)
        | d :: rest => if d = close then some ([x], rest) else none
        | [] => none

def readEntries : Nat → Text → Option (List (Term × Term) × Text)
  | 0, _ => none
  | n + 1, t =>
    match skip t with
    | '\x7d' :: rest => some ([], rest)
    | t => do
      let (key, rest) ← readTerm n t
      match skip rest with
      | ':' :: rest => do
        let (value, rest) ← readTerm n rest
        match skip rest with
        | ',' :: rest => do
          let (entries, rest) ← readEntries n rest
          return ((key, value) :: entries, rest)
        | '\x7d' :: rest => return ([(key, value)], rest)
        | _ => none
      | _ => none

end

/-- A term from the front of a text. Between two characters reading calls itself at most four times,
so the bound is never met. -/
def readFront? (t : Text) : Option (Term × Text) := readTerm (4 * t.length + 4) t

/-- The whole text as one term. -/
def read? (t : Text) : Option Term :=
  match readFront? t with
  | some (x, rest) => if (skip rest).isEmpty then some x else none
  | none => none

/-! Tokens -/

theorem isLetter_eq : isLetter = Identifier.isStart := rfl

theorem isLetterOrDigit_eq : isLetterOrDigit = Identifier.isPart := rfl

/-- The reserved words are those of the language. -/
theorem mem_keywords {word : Text} : word ∈ keywords ↔ Identifier.isReserved word = true := by
  have all : (∀ word ∈ keywords, word ∈ Identifier.reserved) ∧
      ∀ word ∈ Identifier.reserved, word ∈ keywords := by decide +kernel
  rw [Identifier.isReserved, List.contains_iff_mem]
  exact ⟨all.1 word, all.2 word⟩

theorem isName_eq (word : Text) : isName word = Identifier.isName word := by
  cases word with
  | nil => rfl
  | cons c rest =>
    have hreserved : keywords.contains (c :: rest) = Identifier.isReserved (c :: rest) := by
      rw [Bool.eq_iff_iff, List.contains_iff_mem, mem_keywords]
    rw [isName, hreserved]
    rfl

theorem skip_of_not_isSpace {c : Char} (h : isSpace c = false) (t : Text) :
    skip (c :: t) = c :: t := by
  simp [skip, h]

@[simp] theorem skip_space (t : Text) : skip (' ' :: t) = skip t := rfl

/-- No token goes on into the text, and no attribute or subscript follows. -/
structure Settled (t : Text) : Prop where
  token : ∀ c ∈ t.head?, Identifier.isPart c = false ∧ c ≠ '"'
  trail : ∀ c ∈ (skip t).head?, c ≠ '.' ∧ c ≠ '['

variable {t rest word : Text} {n k : Nat} {x : Term}

theorem Settled.head_ne_point (h : Settled t) : ∀ c ∈ t.head?, c ≠ '.' := by
  cases t with
  | nil => simp
  | cons c t =>
    intro d hd
    obtain rfl : c = d := by simpa using hd
    rintro rfl
    exact (h.trail '.' (by rw [skip_of_not_isSpace rfl]; rfl)).1 rfl

theorem takeWhile_append_of_head {p : Char → Bool} (hword : word.all p = true)
    (hrest : ∀ c ∈ rest.head?, p c = false) :
    (word ++ rest).takeWhile p = word ∧ (word ++ rest).dropWhile p = rest := by
  have hall : ∀ c ∈ word, p c = true := List.all_eq_true.1 hword
  rw [List.takeWhile_append_of_pos hall, List.dropWhile_append_of_pos hall]
  cases rest with
  | nil => simp
  | cons c rest => simp [hrest c rfl]

theorem exists_write_eq (k : Nat) : ∃ c t, Numeral.write k = c :: t ∧ c.isDigit = true := by
  cases hwrite : Numeral.write k with
  | nil => exact absurd hwrite Nat.toDigits_ne_nil
  | cons c t => exact ⟨c, t, rfl, Numeral.isDigit_of_mem_write (n := k) (by simp [hwrite])⟩

theorem exists_identifier_eq (hword : Identifier.isIdentifier word = true) :
    ∃ c t, word = c :: t ∧ Identifier.isStart c = true := by
  cases word with
  | nil => cases hword
  | cons c t => exact ⟨c, t, rfl, (Bool.and_eq_true_iff.1 hword).1⟩

/-- A positive number does not begin with a zero. -/
theorem head?_write_ne_zero (hk : 0 < k) : (Numeral.write k).head? ≠ some '0' := by
  induction k using Nat.strongRecOn with
  | _ k ih =>
    by_cases hlt : k < 10
    · rw [Numeral.write, Nat.toDigits_of_lt_base hlt]
      have all : ∀ k < 10, 0 < k → k.digitChar ≠ '0' := by decide
      simpa using all k hlt hk
    · have hle : 10 ≤ k := Nat.le_of_not_lt hlt
      have hdiv := ih (k / 10) (Nat.div_lt_self hk (by decide)) (Nat.div_pos hle (by decide))
      have hne : Numeral.write (k / 10) ≠ [] := Nat.toDigits_ne_nil
      have hsplit : Numeral.write k = Numeral.write (k / 10) ++ [(k % 10).digitChar] :=
        Nat.toDigits_of_base_le (by decide) hle
      rw [hsplit, List.head?_append]
      cases hhead : (Numeral.write (k / 10)).head? with
      | none => exact absurd (List.head?_eq_none_iff.1 hhead) hne
      | some c => rwa [hhead] at hdiv

theorem readNumeral?_write (h : Settled rest) (k : Nat) :
    readNumeral? (Numeral.write k ++ rest) = some (k, rest) := by
  have hdigits : (Numeral.write k).all Char.isDigit = true :=
    List.all_eq_true.2 fun _ => Numeral.isDigit_of_mem_write
  have hrest : ∀ c ∈ rest.head?, c.isDigit = false := by
    intro c hc
    have hpart := (h.token c hc).1
    simp_all [Identifier.isPart, Char.isAlphanum]
  obtain ⟨htake, hdrop⟩ := takeWhile_append_of_head hdigits hrest
  have hne : Numeral.write k ≠ [] := Nat.toDigits_ne_nil
  have hzero : ¬ ((Numeral.write k).head? = some '0' ∧ 1 < (Numeral.write k).length) := by
    rintro ⟨hhead, hlength⟩
    by_cases hk : 0 < k
    · exact head?_write_ne_zero hk hhead
    · obtain rfl : k = 0 := by omega
      exact absurd hlength (by decide)
  have hend : (rest.head?.any fun c => c == '.' || Identifier.isPart c) = false := by
    have hpoint := h.head_ne_point
    have htoken := h.token
    cases hc : rest.head? <;> simp_all
  simp [readNumeral?, isLetterOrDigit_eq, htake, hdrop, hne, hzero, hend]

theorem readIdentifier?_append (hword : Identifier.isIdentifier word = true)
    (hrest : ∀ c ∈ rest.head?, Identifier.isPart c = false) :
    readIdentifier? (word ++ rest) = some (word, rest) := by
  cases word with
  | nil => cases hword
  | cons c word =>
    simp only [Identifier.isIdentifier, Bool.and_eq_true] at hword
    obtain ⟨htake, hdrop⟩ := takeWhile_append_of_head hword.2 hrest
    simp [readIdentifier?, isLetter_eq, isLetterOrDigit_eq, hword.1, htake, hdrop]

theorem readName?_append (hword : Identifier.isName word = true)
    (hrest : ∀ c ∈ rest.head?, Identifier.isPart c = false) :
    readName? (word ++ rest) = some (word, rest) := by
  simp only [Identifier.isName, Bool.and_eq_true, Bool.not_eq_true'] at hword
  simp [readName?, readIdentifier?_append hword.1 hrest, mem_keywords, hword.2]

theorem readWord?_append (hword : Identifier.isName word = true)
    (hrest : ∀ c ∈ rest.head?, Identifier.isPart c = false) :
    readWord? (word ++ rest) = some (.name word, rest) := by
  simp only [Identifier.isName, Bool.and_eq_true, Bool.not_eq_true'] at hword
  have hvalue : ∀ value, Identifier.isReserved value = true → word ≠ value := by
    rintro value hvalue rfl
    rw [hvalue] at hword
    cases hword.2
  have hnone := hvalue ['N', 'o', 'n', 'e'] (by decide)
  have htrue := hvalue ['T', 'r', 'u', 'e'] (by decide)
  have hfalse := hvalue ['F', 'a', 'l', 's', 'e'] (by decide)
  simp [readWord?, readIdentifier?_append hword.1 hrest, mem_keywords, hword.2, hnone, htrue,
    hfalse]

/-- The reserved words that are values. -/
theorem readWord?_reserved (hrest : ∀ c ∈ rest.head?, Identifier.isPart c = false) :
    readWord? (['N', 'o', 'n', 'e'] ++ rest) = some (.null, rest) ∧
    readWord? (['T', 'r', 'u', 'e'] ++ rest) = some (.bool true, rest) ∧
    readWord? (['F', 'a', 'l', 's', 'e'] ++ rest) = some (.bool false, rest) := by
  have hread : ∀ word : Text, Identifier.isIdentifier word = true →
      readIdentifier? (word ++ rest) = some (word, rest) :=
    fun _ hword => readIdentifier?_append hword hrest
  have hnone := hread ['N', 'o', 'n', 'e'] (by decide)
  have htrue := hread ['T', 'r', 'u', 'e'] (by decide)
  have hfalse := hread ['F', 'a', 'l', 's', 'e'] (by decide)
  simp only [readWord?, hnone, htrue, hfalse]
  simp

/-! Atoms of one token -/

theorem ne_of_class {p : Char → Bool} {c d : Char} (hc : p c = true) (hd : p d = false) :
    c ≠ d := by
  rintro rfl
  rw [hc] at hd
  cases hd

theorem isDigit_of_isStart {c : Char} (h : Identifier.isStart c = true) : c.isDigit = false := by
  rw [Identifier.isStart, Bool.or_eq_true, beq_iff_eq] at h
  rcases h with h | rfl
  · -- capital and small letters lie behind the digits
    change (decide ('A'.val ≤ c.val ∧ c.val ≤ 'Z'.val) ||
      (decide ('a'.val ≤ c.val) && decide (c.val ≤ 'z'.val))) = true at h
    change (decide ('0'.val ≤ c.val) && decide (c.val ≤ '9'.val)) = false
    simp [UInt32.le_iff_toNat_le] at h ⊢
    omega
  · rfl

theorem readAtom_numeral (h : Settled rest) (k n : Nat) :
    readAtom (n + 1) (Numeral.write k ++ rest) = some (.int k, rest) := by
  have hread := readNumeral?_write h k
  obtain ⟨c, t, hwrite, hdigit⟩ := exists_write_eq k
  rw [hwrite, List.cons_append] at hread ⊢
  rw [readAtom, if_neg (ne_of_class hdigit rfl), if_pos hdigit, hread]
  rfl

theorem readAtom_quoted (h : Settled rest) (s : Text) (n : Nat) :
    readAtom (n + 1) (Literal.quote s ++ rest) = some (.str s, rest) := by
  have hrest : rest.head? ≠ some '"' := fun hhead => (h.token '"' hhead).2 rfl
  have hread := Literal.readQuoted?_quote hrest s
  rw [Literal.quote, List.cons_append, List.cons_append] at hread ⊢
  rw [readAtom, if_pos rfl, hread]
  rfl

theorem readAtom_word (hword : Identifier.isIdentifier word = true)
    (hread : readWord? (word ++ rest) = some (x, rest)) (n : Nat) :
    readAtom (n + 1) (word ++ rest) = some (x, rest) := by
  obtain ⟨c, t, rfl, hstart⟩ := exists_identifier_eq hword
  have hdigit : ¬ c.isDigit = true := by simp [isDigit_of_isStart hstart]
  rw [List.cons_append] at hread ⊢
  rw [readAtom, if_neg (ne_of_class hstart rfl), if_neg hdigit, if_neg (ne_of_class hstart rfl),
    if_neg (ne_of_class hstart rfl), if_neg (ne_of_class hstart rfl), hread]

/-! Operands and what follows them -/

theorem readTrail_of_settled (h : Settled t) (n : Nat) (x : Term) :
    readTrail (n + 1) x t = some (x, t) := by
  rw [readTrail]
  split
  · next heq => exact absurd rfl (h.trail '.' (by rw [heq]; rfl)).1
  · next heq => exact absurd rfl (h.trail '[' (by rw [heq]; rfl)).2
  · rfl

theorem head_of_class {p : Char → Bool} {c : Char} (hc : p c = true)
    (hp : p ' ' = false ∧ p '\t' = false ∧ p '-' = false) : isSpace c = false ∧ c ≠ '-' := by
  simp [isSpace, ne_of_class hc hp.1, ne_of_class hc hp.2.1, ne_of_class hc hp.2.2]

/-- An operand is an atom and what follows it. -/
theorem readOperand_of_readTrail {y : Term} {u : Text}
    (hhead : ∀ c ∈ t.head?, isSpace c = false ∧ c ≠ '-') (hatom : readAtom n t = some (y, u))
    (htrail : readTrail n y u = some (x, rest)) : readOperand (n + 1) t = some (x, rest) := by
  cases n with
  | zero => simp [readAtom] at hatom
  | succ n =>
    cases t with
    | nil => simp [readAtom] at hatom
    | cons c t =>
      obtain ⟨hspace, hminus⟩ := hhead c rfl
      rw [readOperand, skip_of_not_isSpace hspace]
      split
      · next heq => cases heq; exact absurd rfl hminus
      · simp [hatom, htrail]

theorem readOperand_of_readAtom (hhead : ∀ c ∈ t.head?, isSpace c = false ∧ c ≠ '-')
    (hatom : readAtom n t = some (x, rest)) (hrest : Settled rest) :
    readOperand (n + 1) t = some (x, rest) := by
  cases n with
  | zero => simp [readAtom] at hatom
  | succ n => exact readOperand_of_readTrail hhead hatom (readTrail_of_settled hrest n x)

theorem readOperand_numeral (h : Settled rest) (k n : Nat) :
    readOperand (n + 2) (Numeral.write k ++ rest) = some (.int k, rest) := by
  refine readOperand_of_readAtom ?_ (readAtom_numeral h k n) h
  obtain ⟨c, t, hwrite, hdigit⟩ := exists_write_eq k
  simpa [hwrite] using head_of_class hdigit (by decide)

theorem head?_name (hword : Identifier.isName word = true) (u : Text) :
    ∀ c ∈ (word ++ u).head?, isSpace c = false ∧ c ≠ '-' := by
  obtain ⟨c, t, rfl, hstart⟩ := exists_identifier_eq (Bool.and_eq_true_iff.1 hword).1
  simpa using head_of_class hstart (by decide)

theorem readAtom_name (hword : Identifier.isName word = true)
    (hrest : ∀ c ∈ rest.head?, Identifier.isPart c = false) (n : Nat) :
    readAtom (n + 1) (word ++ rest) = some (.name word, rest) :=
  readAtom_word (Bool.and_eq_true_iff.1 hword).1 (readWord?_append hword hrest) n

theorem readOperand_name (hword : Identifier.isName word = true) (h : Settled rest) (n : Nat) :
    readOperand (n + 2) (word ++ rest) = some (.name word, rest) :=
  readOperand_of_readAtom (head?_name hword rest)
    (readAtom_name hword (fun c hc => (h.token c hc).1) n) h

theorem readOperand_space (n : Nat) (t : Text) : readOperand n (' ' :: t) = readOperand n t := by
  cases n <;> rfl

theorem readOperand_minus (h : readOperand n t = some (x, rest)) :
    readOperand (n + 1) ('-' :: t) = some (negate x, rest) := by
  rw [readOperand, skip_of_not_isSpace rfl]
  simp [h]

/-- A comma, a colon and the closing brackets. -/
def stops : List Char := [',', ':', ')', ']', '\x7d']

/-- Nothing follows, or what ends every term. -/
def Ends (t : Text) : Prop := ∀ c ∈ t.head?, c ∈ stops

theorem ends_nil : Ends [] := nofun

theorem ends_cons {c : Char} (h : c ∈ stops) (t : Text) : Ends (c :: t) := by
  simpa [Ends] using h

theorem forall_mem_stops {P : Char → Prop} [DecidablePred P]
    (h : stops.all (fun c => decide (P c)) = true) : ∀ c ∈ stops, P c := fun c hc =>
  of_decide_eq_true (List.all_eq_true.1 h c hc)

theorem isSpace_of_mem_stops : ∀ c ∈ stops, isSpace c = false := forall_mem_stops (by decide)

theorem Ends.skip_eq (h : Ends t) : skip t = t := by
  cases t with
  | nil => rfl
  | cons c t => exact skip_of_not_isSpace (isSpace_of_mem_stops c (h c rfl)) t

theorem Ends.settled (h : Ends t) : Settled t := by
  have token : ∀ c ∈ stops, Identifier.isPart c = false ∧ c ≠ '"' := forall_mem_stops (by decide)
  have trail : ∀ c ∈ stops, c ≠ '.' ∧ c ≠ '[' := forall_mem_stops (by decide)
  refine ⟨fun c hc => token c (h c hc), fun c hc => ?_⟩
  rw [h.skip_eq] at hc
  exact trail c (h c hc)

theorem readMore_of_ends (h : Ends t) (n : Nat) : readMore (n + 1) t = some ([], t) := by
  have symbol : ∀ c ∈ stops, Operator.ofSymbol? c = none := forall_mem_stops (by decide)
  have hnone : t.head?.bind Operator.ofSymbol? = none :=
    Option.bind_eq_none_iff.2 fun c hc => symbol c (h c hc)
  rw [readMore, h.skip_eq, hnone]

theorem readTerm_of_readOperand (h : readOperand n t = some (x, rest)) (hrest : Ends rest) :
    readTerm (n + 1) t = some (x, rest) := by
  cases n with
  | zero => simp [readOperand] at h
  | succ n => simp [readTerm, h, readMore_of_ends hrest, chain]

/-! Brackets -/

/-- The text begins neither with a blank nor with what ends a term. -/
def Opens (t : Text) : Prop := ∃ c u, t = c :: u ∧ isSpace c = false ∧ c ∉ stops

variable {xs : List Term} {es : List (Term × Term)} {key value : Term} {u v : Text} {e : Char}

theorem opens_class {p : Char → Bool} {c : Char} (hc : p c = true)
    (hp : p ' ' = false ∧ p '\t' = false ∧ stops.any p = false) :
    isSpace c = false ∧ c ∉ stops := by
  have hstops : c ∉ stops := fun hmem => List.any_eq_false.1 hp.2.2 c hmem hc
  simp [isSpace, ne_of_class hc hp.1, ne_of_class hc hp.2.1, hstops]

theorem Opens.append (h : Opens t) (u : Text) : Opens (t ++ u) := by
  obtain ⟨c, v, rfl, hspace, hstop⟩ := h
  exact ⟨c, v ++ u, rfl, hspace, hstop⟩

theorem Opens.skip_eq (h : Opens t) : skip t = t := by
  obtain ⟨c, v, rfl, hspace, -⟩ := h
  exact skip_of_not_isSpace hspace v

theorem Opens.head?_ne (h : Opens t) (hend : e ∈ stops) (u : Text) : t ≠ e :: u := by
  obtain ⟨c, v, rfl, -, hstop⟩ := h
  intro heq
  cases heq
  exact hstop hend

theorem skip_stop (hend : e ∈ stops) (t : Text) : skip (e :: t) = e :: t :=
  skip_of_not_isSpace (isSpace_of_mem_stops e hend) t

theorem readItems_nil (hend : e ∈ stops) (n : Nat) :
    readItems (n + 1) e (e :: rest) = some ([], rest) := by
  rw [readItems, skip_stop hend]
  simp

theorem readItems_last (ht : Opens t) (hend : e ∈ stops) (hcomma : e ≠ ',')
    (hx : readTerm n t = some (x, e :: rest)) :
    readItems (n + 1) e t = some ([x], rest) := by
  obtain ⟨c, v, rfl, hspace, hstop⟩ := ht
  have hc : c ≠ e := fun h => hstop (h ▸ hend)
  rw [readItems, skip_of_not_isSpace hspace]
  simp [hc, hx, skip_stop hend]

theorem readItems_cons (ht : Opens t) (hend : e ∈ stops)
    (hx : readTerm n t = some (x, ',' :: u)) (hxs : readItems n e u = some (xs, rest)) :
    readItems (n + 1) e t = some (x :: xs, rest) := by
  obtain ⟨c, v, rfl, hspace, hstop⟩ := ht
  have hc : c ≠ e := fun h => hstop (h ▸ hend)
  rw [readItems, skip_of_not_isSpace hspace]
  simp [hc, hx, skip_stop (e := ',') (by decide), hxs]

theorem readEntries_nil (n : Nat) : readEntries (n + 1) ('\x7d' :: rest) = some ([], rest) := rfl

/-- A blank stands between the colon and the value. -/
theorem readEntries_last (ht : Opens t) (hkey : readOperand n t = some (key, ':' :: ' ' :: u))
    (hvalue : readOperand n u = some (value, '\x7d' :: rest)) :
    readEntries (n + 2) t = some ([(key, value)], rest) := by
  have hcolon := readTerm_of_readOperand hkey (ends_cons (by decide) _)
  have hclose := readTerm_of_readOperand ((readOperand_space n u).trans hvalue)
    (ends_cons (by decide) _)
  rw [readEntries, ht.skip_eq]
  split
  · exact absurd rfl (ht.head?_ne (e := '\x7d') (by decide) _)
  · simp [hcolon, skip_stop (e := ':') (by decide), hclose, skip_stop (e := '\x7d') (by decide)]

theorem readEntries_cons (ht : Opens t) (hkey : readOperand n t = some (key, ':' :: ' ' :: u))
    (hvalue : readOperand n u = some (value, ',' :: v))
    (hes : readEntries (n + 1) v = some (es, rest)) :
    readEntries (n + 2) t = some ((key, value) :: es, rest) := by
  have hcolon := readTerm_of_readOperand hkey (ends_cons (by decide) _)
  have hcomma := readTerm_of_readOperand ((readOperand_space n u).trans hvalue)
    (ends_cons (by decide) _)
  rw [readEntries, ht.skip_eq]
  split
  · exact absurd rfl (ht.head?_ne (e := '\x7d') (by decide) _)
  · simp [hcolon, skip_stop (e := ':') (by decide), hcomma, skip_stop (e := ',') (by decide), hes]

theorem readAtom_list (h : readItems n ']' t = some (xs, rest)) :
    readAtom (n + 1) ('[' :: t) = some (.list xs, rest) := by
  simp [readAtom, h]

theorem readAtom_map (h : readEntries n t = some (es, rest)) :
    readAtom (n + 1) ('\x7b' :: t) = some (.map es, rest) := by
  simp [readAtom, h]

theorem readAtom_unit (n : Nat) : readAtom (n + 1) ('(' :: ')' :: rest) = some (.tuple [], rest) :=
  rfl

theorem readAtom_paren (ht : Opens t) (n : Nat) :
    readAtom (n + 1) ('(' :: t) = (readTerm n t).bind fun p =>
      match skip p.2 with
      | ')' :: rest => some (p.1, rest)
      | ',' :: rest => (readItems n ')' rest).map fun q => (.tuple (p.1 :: q.1), q.2)
      | _ => none := by
  rw [readAtom, if_neg (by decide), if_neg (by decide), if_neg (by decide), if_neg (by decide),
    if_pos rfl, ht.skip_eq]
  split
  · exact absurd rfl (ht.head?_ne (e := ')') (by decide) _)
  · simp only [Option.map_eq_bind]
    rfl

/-- A term in parentheses is this term. -/
theorem readAtom_group (ht : Opens t) (hx : readTerm n t = some (x, ')' :: rest)) :
    readAtom (n + 1) ('(' :: t) = some (x, rest) := by
  simp [readAtom_paren ht, hx, skip_stop (e := ')') (by decide)]

theorem readAtom_tuple (ht : Opens t) (hx : readTerm n t = some (x, ',' :: u))
    (hxs : readItems n ')' u = some (xs, rest)) :
    readAtom (n + 1) ('(' :: t) = some (.tuple (x :: xs), rest) := by
  simp [readAtom_paren ht, hx, skip_stop (e := ',') (by decide), hxs]

/-! Expressions on a name -/

variable {s : Text}

theorem opens_name (hword : Identifier.isName word = true) : Opens word := by
  obtain ⟨c, t, rfl, hstart⟩ := exists_identifier_eq (Bool.and_eq_true_iff.1 hword).1
  exact ⟨c, t, rfl, opens_class hstart (by decide)⟩

theorem readTrail_attribute (hname : Identifier.isName word = true) (hrest : Settled rest) (n : Nat)
    (x : Term) : readTrail (n + 2) x ('.' :: (word ++ rest)) = some (.attribute x word, rest) := by
  have hskip : skip (word ++ rest) = word ++ rest := by
    have hhead := head?_name hname rest
    cases hsplit : word ++ rest with
    | nil => rfl
    | cons c t => exact skip_of_not_isSpace (hhead c (by rw [hsplit]; rfl)).1 t
  have hread := readName?_append hname fun c hc => (hrest.token c hc).1
  rw [readTrail, skip_of_not_isSpace rfl]
  simp [hskip, hread, readTrail_of_settled hrest]

theorem readTrail_subscript (hkey : readTerm n t = some (key, ']' :: rest)) (hrest : Settled rest)
    (x : Term) : readTrail (n + 1) x ('[' :: t) = some (.subscript x key, rest) := by
  cases n with
  | zero => simp [readTerm] at hkey
  | succ n =>
    rw [readTrail, skip_of_not_isSpace rfl]
    simp [hkey, skip_stop (e := ']') (by decide), readTrail_of_settled hrest]

theorem ofSymbol?_symbol (op : Operator) : Operator.ofSymbol? op.symbol = some op := by
  cases op <;> rfl

/-- A blank and an operator behind a token. -/
theorem settled_symbol (op : Operator) (t : Text) : Settled (' ' :: op.symbol :: t) := by
  refine ⟨by simp; decide, ?_⟩
  rw [skip_space]
  cases op <;> simp [skip, isSpace, Operator.symbol]

theorem readMore_symbol {op : Operator} (hx : readOperand n t = some (x, rest))
    (hrest : Ends rest) :
    readMore (n + 1) (' ' :: op.symbol :: ' ' :: t) = some ([(op, x)], rest) := by
  have hskip : skip (' ' :: op.symbol :: ' ' :: t) = op.symbol :: ' ' :: t := by
    cases op <;> rfl
  cases n with
  | zero => simp [readOperand] at hx
  | succ n =>
    rw [readMore, hskip]
    simp [ofSymbol?_symbol, readOperand_space, hx, readMore_of_ends hrest]

theorem readTerm_symbol {op : Operator} {y : Term}
    (hx : readOperand (n + 1) t = some (x, ' ' :: op.symbol :: ' ' :: u))
    (hy : readOperand n u = some (y, rest)) (hrest : Ends rest) :
    readTerm (n + 2) t = some (.binary x op y, rest) := by
  -- one operator alone binds the same whether it is a product or a sum
  have hchain : chain id x [(op, y)] = .binary x op y := by cases op <;> rfl
  simp [readTerm, hx, readMore_symbol hy hrest, hchain]

theorem read?_of_readOperand (h : readOperand (4 * t.length + 3) t = some (x, [])) :
    read? t = some x := by
  rw [read?, readFront?, readTerm_of_readOperand h ends_nil]
  rfl

/-- A whole text in parentheses. -/
theorem read?_group (ht : Opens t)
    (hx : readTerm (4 * t.length + 9) (t ++ [')']) = some (x, [')'])) :
    read? ('(' :: (t ++ [')'])) = some x := by
  have hatom := readAtom_group (ht.append _) hx
  have hlength : 4 * ('(' :: (t ++ [')'])).length + 3 = 4 * t.length + 9 + 2 := by simp; omega
  refine read?_of_readOperand ?_
  rw [hlength]
  exact readOperand_of_readAtom (by simp; decide) hatom ends_nil.settled

theorem read?_attribute (hword : Identifier.isName word = true)
    (hname : Identifier.isName s = true) :
    read? (word ++ '.' :: s) = some (.attribute (.name word) s) := by
  have htrail := readTrail_attribute hname ends_nil.settled (4 * (word ++ '.' :: s).length)
    (.name word)
  rw [List.append_nil] at htrail
  exact read?_of_readOperand
    (readOperand_of_readTrail (head?_name hword _) (readAtom_name hword (by simp; decide) _) htrail)

end Term

end RemoteInterpreter
