import RemoteInterpreter.Instances

/-!
# Text and octets

Text is a list of characters and raw data a list of octets, so that every reader
and writer of the library is a plain recursion. Cutting at a mark and dropping a
final mark are the two operations from which the line formats are built.
-/

namespace RemoteInterpreter

abbrev Text := List Char

abbrev Octets := List UInt8

namespace Text

def str (t : Text) : String := String.ofList t

/-- What stands before the first `mark`, and what stands after it. -/
def cut? {α : Type} [DecidableEq α] (mark : α) : List α → Option (List α × List α)
  | [] => none
  | c :: rest =>
    if c = mark then some ([], rest)
    else (cut? mark rest).map fun halves => (c :: halves.1, halves.2)

section

variable {α : Type} [DecidableEq α]

@[simp] theorem cut?_nil (mark : α) : cut? mark [] = none := rfl

@[simp] theorem cut?_mark (mark : α) (t : List α) : cut? mark (mark :: t) = some ([], t) := by
  simp [cut?]

theorem cut?_append {mark : α} {t : List α} (h : mark ∉ t) (u : List α) :
    cut? mark (t ++ mark :: u) = some (t, u) := by
  induction t with
  | nil => simp
  | cons c t ih =>
    simp only [List.mem_cons, not_or] at h
    simp [cut?, ih h.2, Ne.symm h.1]

theorem cut?_eq_none_iff {mark : α} {t : List α} : cut? mark t = none ↔ mark ∉ t := by
  induction t with
  | nil => simp
  | cons c t ih =>
    by_cases hc : c = mark
    · simp [cut?, hc]
    · simp [cut?, hc, ih, Ne.symm hc]

theorem cut?_eq_some_iff {mark : α} {t before after : List α} :
    cut? mark t = some (before, after) ↔ t = before ++ mark :: after ∧ mark ∉ before := by
  constructor
  · intro h
    induction t generalizing before with
    | nil => simp at h
    | cons c t ih =>
      by_cases hc : c = mark
      · simp only [cut?, hc, ↓reduceIte, Option.some.injEq, Prod.mk.injEq] at h
        simp [hc, ← h.1, h.2]
      · simp only [cut?, hc, ↓reduceIte, Option.map_eq_some_iff, Prod.exists, Prod.mk.injEq] at h
        obtain ⟨b, a, hcut, rfl, rfl⟩ := h
        obtain ⟨rfl, hmem⟩ := ih hcut
        simp [hmem, Ne.symm hc]
  · rintro ⟨rfl, h⟩
    exact cut?_append h after

end

/-- One final `mark` is dropped; text that ends otherwise is kept whole. -/
def dropFinal (mark : Char) (t : Text) : Text :=
  if t.getLast? = some mark then t.dropLast else t

@[simp] theorem dropFinal_append (mark : Char) (t : Text) :
    dropFinal mark (t ++ [mark]) = t := by
  simp [dropFinal]

theorem dropFinal_of_ne {mark : Char} {t : Text} (h : t.getLast? ≠ some mark) :
    dropFinal mark t = t := by
  simp [dropFinal, h]

/-- The pieces between the marks; there is one more piece than there are marks. -/
def splitAt (mark : Char) : Text → List Text
  | [] => [[]]
  | c :: rest =>
    if c = mark then [] :: splitAt mark rest
    else
      match splitAt mark rest with
      | [] => [[c]]
      | piece :: pieces => (c :: piece) :: pieces

/-- All line ends behind a text are dropped. -/
def withoutLineEnds (t : Text) : Text :=
  (t.reverse.dropWhile fun c => c == '\n' || c == '\r').reverse

def occursIn (part : Text) : Text → Bool
  | [] => part.isEmpty
  | c :: rest => part.isPrefixOf (c :: rest) || occursIn part rest

/-- Whether the text leaves its line. -/
def breaksLine (t : Text) : Bool := t.any fun c => c == '\n' || c == '\r'

@[simp] theorem breaksLine_nil : breaksLine [] = false := rfl

@[simp] theorem breaksLine_append (t u : Text) :
    breaksLine (t ++ u) = (breaksLine t || breaksLine u) := by
  simp [breaksLine]

theorem breaksLine_eq_false_iff {t : Text} : breaksLine t = false ↔ '\n' ∉ t ∧ '\r' ∉ t := by
  induction t with
  | nil => simp
  | cons c t ih => simp only [breaksLine, List.any_cons] at *; grind

/-! Blank characters -/

/-- Every listed range holds both of its ends. -/
def within (ranges : List (Nat × Nat)) (c : Char) : Bool :=
  ranges.any fun r => decide (r.1 ≤ c.toNat) && decide (c.toNat ≤ r.2)

def blankRanges : List (Nat × Nat) :=
  [(0x9, 0xd), (0x20, 0x20), (0x85, 0x85), (0xa0, 0xa0), (0x1680, 0x1680), (0x2000, 0x200a),
   (0x2028, 0x2029), (0x202f, 0x202f), (0x205f, 0x205f), (0x3000, 0x3000)]

def isBlank (c : Char) : Bool := within blankRanges c

def trimLeft (t : Text) : Text := t.dropWhile isBlank

def trimRight (t : Text) : Text := (t.reverse.dropWhile isBlank).reverse

def trim (t : Text) : Text := trimRight (trimLeft t)

/-! Order -/

/-- Texts in the order of their code points, which is that of their encoded octets. -/
def precedes (t u : Text) : Bool := decide (t ≤ u)

def inOrder (texts : List Text) : List Text := texts.mergeSort precedes

end Text

end RemoteInterpreter
