import RemoteInterpreter.Json.Source
import RemoteInterpreter.Literal

/-!
# Quoted text

How a string literal in double quotes is read. Quoted text comes back as it was, whatever stands
behind it, unless that is one more quote: three quotes open a literal of another kind. No beginning
of a literal is a literal, and no character of it ends a line.
-/

namespace RemoteInterpreter.Literal

/-- What one letter behind a backslash stands for. -/
def shortEscape? (c : Char) : Option Char :=
  if c = '\\' ∨ c = '"' then some c
  else if c = 'n' then some '\n'
  else if c = 'r' then some '\r'
  else if c = 't' then some '\t'
  else none

/-- The character of a number, if there is one. -/
def charOf? (n : Nat) : Option Char := if n.isValidChar then some (Char.ofNat n) else none

def push (c : Char) (p : Text × Text) : Text × Text := (c :: p.1, p.2)

/-- The text up to the closing quote, and what stands behind the quote. A literal may not leave its
line. -/
def readBody : Text → Option (Text × Text)
  | [] => none
  | '"' :: rest => some ([], rest)
  | '\\' :: 'x' :: a :: b :: rest =>
    ((Json.Source.hexFour? '0' '0' a b).bind charOf?).bind fun c => (readBody rest).map (push c)
  | '\\' :: 'u' :: a :: b :: c :: d :: rest =>
    ((Json.Source.hexFour? a b c d).bind charOf?).bind fun c => (readBody rest).map (push c)
  | '\\' :: e :: rest => (shortEscape? e).bind fun c => (readBody rest).map (push c)
  | c :: rest =>
    if c = '\\' ∨ c = '\n' ∨ c = '\r' then none else (readBody rest).map (push c)

def readQuoted? : Text → Option (Text × Text)
  | '"' :: '"' :: '"' :: _ => none
  | '"' :: rest => readBody rest
  | _ => none

variable {c : Char} {p q s t : Text}

/-! One character -/

theorem charOf?_toNat (c : Char) : charOf? c.toNat = some c := by
  have hc : c.toNat.isValidChar := c.valid
  rw [charOf?, if_pos hc, Char.ofNat_toNat]

/-- Two hexadecimal digits are written for a small number, and read as this number. -/
theorem hexPadded_two {n : Nat} (h : n < 256) :
    ∃ a b, Text.hexPadded 2 n = [a, b] ∧ Json.Source.hexFour? '0' '0' a b = some n := by
  have all : ∀ n < 256, Text.hexPadded 2 n = [(n / 16).digitChar, (n % 16).digitChar] ∧
      Json.Source.hexFour? '0' '0' (n / 16).digitChar (n % 16).digitChar = some n := by
    decide +kernel
  exact ⟨_, _, all n h⟩

/-- The two line ends that are no control characters have four digits. -/
theorem hexPadded_four {c : Char} (h : c = '\u2028' ∨ c = '\u2029') :
    ∃ d e f g, Text.hexPadded 4 c.toNat = [d, e, f, g] ∧
      Json.Source.hexFour? d e f g = some c.toNat := by
  rcases h with rfl | rfl
  · exact ⟨'2', '0', '2', '8', by decide +kernel, by decide +kernel⟩
  · exact ⟨'2', '0', '2', '9', by decide +kernel, by decide +kernel⟩

theorem toNat_lt_of_isControl {c : Char} (h : isControl c = true) : c.toNat < 256 := by
  simp only [isControl, Bool.or_eq_true, Bool.and_eq_true, decide_eq_true_eq] at h
  omega

theorem readBody_short {e : Char} (h : shortEscape? e = some c) (t : Text) :
    readBody ('\\' :: e :: t) = (readBody t).map (push c) := by
  have hx : e ≠ 'x' := by rintro rfl; cases h
  have hu : e ≠ 'u' := by rintro rfl; cases h
  simp [readBody, hx, hu, h]

/-- A character that is written bare. -/
theorem readBody_bare (hquote : c ≠ '"') (h : ¬ (c = '\\' ∨ c = '\n' ∨ c = '\r')) (t : Text) :
    readBody (c :: t) = (readBody t).map (push c) := by
  rw [readBody.eq_def]
  split
  all_goals simp_all

theorem readBody_quotedChar (c : Char) (t : Text) :
    readBody (quotedChar c ++ t) = (readBody t).map (push c) := by
  unfold quotedChar
  split
  · next h => subst h; exact readBody_short rfl t
  split
  · next h => subst h; exact readBody_short rfl t
  split
  · next h => subst h; exact readBody_short rfl t
  split
  · next h => subst h; exact readBody_short rfl t
  split
  · next h => subst h; exact readBody_short rfl t
  split
  · next h =>
    obtain ⟨a, b, hdigits, hread⟩ := hexPadded_two (toNat_lt_of_isControl h)
    rw [hdigits]
    simp [readBody, hread, charOf?_toNat]
  split
  · next h =>
    obtain ⟨d, e, f, g, hdigits, hread⟩ := hexPadded_four h
    rw [hdigits]
    simp [readBody, hread, charOf?_toNat]
  · next hslash hquote hfeed hreturn _ _ _ =>
    exact readBody_bare hquote (by simp [hslash, hfeed, hreturn]) t

/-! Whole literals -/

theorem readBody_quoted (s t : Text) :
    readBody (s.flatMap quotedChar ++ '"' :: t) = some (s, t) := by
  induction s with
  | nil => rfl
  | cons c s ih => rw [List.flatMap_cons, List.append_assoc, readBody_quotedChar, ih]; rfl

theorem quotedChar_append_ne (c : Char) (t u : Text) : quotedChar c ++ t ≠ '"' :: u := by
  unfold quotedChar
  split
  · simp
  split
  · simp
  repeat' (split; · simp)
  simp_all

/-- Two quotes and a third one are the beginning of something else. -/
theorem readQuoted?_quote_append (s t : Text) :
    readQuoted? (quote s ++ t) = if s = [] ∧ t.head? = some '"' then none else some (s, t) := by
  have hbody := readBody_quoted s t
  have hsplit : quote s ++ t = '"' :: (s.flatMap quotedChar ++ '"' :: t) := by simp [quote]
  rw [hsplit, readQuoted?.eq_def]
  split
  · next rest heq =>
    -- a second quote stands behind the first one only if the text is empty
    cases s with
    | nil =>
      obtain rfl : t = '"' :: rest := by simpa using heq
      rfl
    | cons c s =>
      rw [List.flatMap_cons, List.append_assoc, List.cons.injEq] at heq
      exact absurd heq.2 (quotedChar_append_ne c _ _)
  · next rest hone heq =>
    cases heq
    rw [hbody, if_neg]
    rintro ⟨rfl, hhead⟩
    obtain ⟨u, rfl⟩ := List.head?_eq_some_iff.1 hhead
    exact hone u rfl
  · next hno => exact absurd rfl (hno _)

theorem readQuoted?_quote_iff :
    readQuoted? (quote s ++ t) = some (s, t) ↔ s ≠ [] ∨ t.head? ≠ some '"' := by
  have hboth : s ≠ [] ∨ t.head? ≠ some '"' ↔ ¬ (s = [] ∧ t.head? = some '"') :=
    Decidable.not_and_iff_not_or_not.symm
  rw [readQuoted?_quote_append, hboth]
  split
  · next h => simp [h]
  · next h => simp [h]

theorem readQuoted?_quote {t : Text} (ht : t.head? ≠ some '"') (s : Text) :
    readQuoted? (quote s ++ t) = some (s, t) := readQuoted?_quote_iff.2 (Or.inr ht)

/-- Whatever comes behind it, a literal ends nowhere else. -/
theorem eq_of_readQuoted?_quote (h : readQuoted? (quote s ++ t) = some (p, q)) : p = s ∧ q = t := by
  rw [readQuoted?_quote_append] at h
  split at h
  · cases h
  · cases h
    exact ⟨rfl, rfl⟩

theorem quote_inj (h : quote s = quote t) : s = t := by
  have hs := readQuoted?_quote (t := []) nofun s
  have ht := readQuoted?_quote (t := []) nofun t
  rw [h, ht] at hs
  exact (congrArg Prod.fst (Option.some.inj hs)).symm

/-! The beginning of a literal -/

theorem bind_push_eq_some_iff {o : Option Char} {r : Option (Text × Text)} :
    (o.bind fun c => r.map (push c)) = some (s, t) ↔
      ∃ c u, o = some c ∧ r = some (u, t) ∧ s = c :: u := by
  simp only [Option.bind_eq_some_iff, Option.map_eq_some_iff, push, Prod.mk.injEq, Prod.exists]
  grind

/-- What is read to its end is read in the same way whatever comes behind it. -/
theorem readBody_append (h : readBody p = some (s, t)) (q : Text) :
    readBody (p ++ q) = some (s, t ++ q) := by
  fun_induction readBody p generalizing s t with
  | case1 => cases h
  | case2 rest =>
    cases h
    rfl
  | case3 a b rest ih =>
    obtain ⟨c, u, hc, hrest, rfl⟩ := bind_push_eq_some_iff.1 h
    simp [readBody, hc, ih hrest, push]
  | case4 a b d e rest ih =>
    obtain ⟨c, u, hc, hrest, rfl⟩ := bind_push_eq_some_iff.1 h
    simp [readBody, hc, ih hrest, push]
  | case5 e rest _ _ ih =>
    obtain ⟨c, u, hc, hrest, rfl⟩ := bind_push_eq_some_iff.1 h
    rw [List.cons_append, List.cons_append, readBody_short hc, ih hrest]
    rfl
  | case6 => cases h
  | case7 c rest hquote _ _ _ hbare ih =>
    obtain ⟨_, u, hc, hrest, rfl⟩ := bind_push_eq_some_iff (o := some c).1 h
    cases hc
    rw [List.cons_append, readBody_bare hquote hbare, ih hrest]
    rfl

/-- The beginning of a literal is no literal. -/
theorem readQuoted?_of_quote_eq_append (h : quote s = p ++ q) (hq : q ≠ []) :
    readQuoted? p = none := by
  refine Option.eq_none_iff_forall_ne_some.2 fun ⟨u, t⟩ hread => hq ?_
  cases p with
  | nil => cases hread
  | cons c p =>
    obtain ⟨rfl, hbody⟩ : '"' = c ∧ s.flatMap quotedChar ++ ['"'] = p ++ q := List.cons.inj h
    have hp : readBody p = some (u, t) := by
      rw [readQuoted?.eq_def] at hread
      split at hread
      · cases hread
      · next heq => cases heq; exact hread
      · cases hread
    -- read on to the end of the literal, where nothing is left
    have hlonger := readBody_append hp q
    rw [← hbody, readBody_quoted s []] at hlonger
    have hrest : [] = t ++ q := congrArg Prod.snd (Option.some.inj hlonger)
    exact (List.append_eq_nil_iff.1 hrest.symm).2

/-! Its characters -/

/-- No control character, and no other character that ends a line. -/
def keepsLine (c : Char) : Bool := !isControl c && c != '\u2028' && c != '\u2029'

theorem keepsLine_iff : keepsLine c = true ↔
    0x20 ≤ c.toNat ∧ (c.toNat < 0x7f ∨ 0x9f < c.toNat) ∧ c ≠ '\u2028' ∧ c ≠ '\u2029' := by
  simp only [keepsLine, isControl, Bool.and_eq_true, Bool.not_eq_true', Bool.or_eq_false_iff,
    Bool.and_eq_false_iff, decide_eq_false_iff_not, bne_iff_ne, Nat.not_lt, Nat.not_le, and_assoc]
  exact Iff.rfl

theorem keepsLine_quotedChar (c : Char) : (quotedChar c).all keepsLine = true := by
  have hcontrol : ∀ n < 256, (Text.hexPadded 2 n).all keepsLine = true := by decide +kernel
  unfold quotedChar
  split
  · decide
  split
  · decide
  split
  · decide
  split
  · decide
  split
  · decide
  split
  · next h =>
    rw [List.all_append, hcontrol _ (toNat_lt_of_isControl h)]
    decide
  split
  · next h => rcases h with rfl | rfl <;> decide +kernel
  · next hcontrol hends =>
    rw [not_or] at hends
    simp [keepsLine, hcontrol, hends]

theorem keepsLine_of_mem_quote (h : c ∈ quote s) : keepsLine c = true := by
  simp only [quote, List.cons_append, List.mem_cons, List.mem_append, List.mem_flatMap,
    List.not_mem_nil, or_false] at h
  rcases h with rfl | ⟨d, -, hd⟩ | rfl
  · decide
  · exact List.all_eq_true.1 (keepsLine_quotedChar d) c hd
  · decide

end RemoteInterpreter.Literal
