import RemoteInterpreter.Proofs.Context
import RemoteInterpreter.Proofs.Derivation

/-!
# Literals that end where they should

A string literal is read up to its own last character, and it has no character that could end a
line. So a tag, the name of an attribute and a string anywhere in an argument stay between the two
texts around them. Only an empty literal directly before another quote is not read as it was meant,
and it takes a caller's own text, or two strings side by side, to bring it there.
-/

namespace RemoteInterpreter

namespace Literal

/-- A literal of `s` stands in the source between two texts, and who reads it there comes to its
end exactly where the second text begins. -/
def Confined (left s right source : Text) : Prop :=
  source = left ++ quote s ++ right ∧ readQuoted? (source.drop left.length) = some (s, right)

variable {s : Text}

theorem confined {left right source : Text} (hsource : source = left ++ quote s ++ right)
    (h : s ≠ [] ∨ right.head? ≠ some '"') : Confined left s right source := by
  refine ⟨hsource, ?_⟩
  rw [hsource, List.append_assoc, List.drop_left]
  exact readQuoted?_quote_iff.2 h

/-- Behind the tag of a registration stands a comma. -/
theorem confined_registration (tag encoder : Text) :
    Confined "__hopi_register__(".toList tag (", ".toList ++ encoder ++ [')'])
      (Session.registration tag encoder) := by
  refine confined ?_ (Or.inr (by simp))
  unfold Session.registration
  simp only [List.append_assoc]

end Literal

/-! Strings in a draft -/

namespace Draft

/-- A string occurs at a place, and any other string there would have the same around it. -/
structure Holds (d : Draft) (p : List Nat) (s : Text) (before : List Arg) (c : Arg.Context)
    (after : List Arg) : Prop where
  filled : d.args = before ++ c.fill s :: after
  place : ∀ t, Arg.Occurs (before ++ c.fill t :: after) p (.str t)

def left (d : Draft) (before : List Arg) (c : Arg.Context) : Text :=
  Expression.upTo d.fragments before ++ c.front

def right (d : Draft) (before : List Arg) (c : Arg.Context) (after : List Arg) : Text :=
  c.back ++ Expression.pastOf d.fragments before after

/-- Behind every argument stands a fragment that begins with a character other than a quote. -/
def Fenced (d : Draft) : Prop :=
  ∀ fragment ∈ d.fragments.tail, ∃ c, fragment.head? = some c ∧ c ≠ '"'

variable {d : Draft} {p : List Nat} {s : Text} {before after : List Arg} {c : Arg.Context}

theorem exists_holds (h : Arg.Occurs d.args p (.str s)) :
    ∃ before c after, d.Holds p s before c after := by
  obtain ⟨before, c, after, filled, place⟩ := Arg.exists_context h
  exact ⟨before, c, after, filled, place⟩

theorem length_fragments_of_holds (balanced : d.Balanced) (holds : d.Holds p s before c after) :
    d.fragments.length = before.length + after.length + 2 := by
  have hlength : d.fragments.length = d.args.length + 1 := balanced
  rw [hlength, holds.filled, List.length_append, List.length_cons]
  omega

theorem Fenced.head?_pastOf (hd : d.Fenced) (balanced : d.Balanced)
    (holds : d.Holds p s before c after) :
    (Expression.pastOf d.fragments before after).head? ≠ some '"' := by
  have hlength := length_fragments_of_holds balanced holds
  rw [Expression.pastOf, ← List.drop_tail]
  cases hrest : d.fragments.tail.drop before.length with
  | nil =>
    have hshort := List.drop_eq_nil_iff.1 hrest
    rw [List.length_tail] at hshort
    omega
  | cons fragment rest =>
    have hmem : fragment ∈ d.fragments.tail :=
      List.mem_of_mem_drop (hrest ▸ List.mem_cons_self)
    obtain ⟨mark, hhead, hmark⟩ := hd fragment hmem
    cases after <;> simp [Expression.interleave, hhead, hmark]

theorem fenced_onHandle {h : Handle} {fragments : List Text} {args : List Arg} :
    (onHandle h fragments args).Fenced ↔
      ∀ fragment ∈ fragments, ∃ c, fragment.head? = some c ∧ c ≠ '"' := Iff.rfl

theorem fenced_attr (h : Handle) (name : Text) : (attr h name).Fenced := by
  unfold attr
  split <;> simp [fenced_onHandle]

theorem fenced_subscript (h : Handle) (key : Arg) : (subscript h key).Fenced := by
  simp [subscript, fenced_onHandle]

theorem fenced_item (h : Handle) (key : Arg) : (item h key).Fenced := by
  unfold item
  split
  · split
    · exact fenced_attr h _
    · exact fenced_subscript h _
  · exact fenced_subscript h _

theorem fenced_call {h : Handle} {args : List CallArg} (hd : call h args = .ok d) : d.Fenced := by
  obtain ⟨items, -, hd⟩ := bind_eq_ok_iff.1 hd
  cases hd
  rw [fenced_onHandle]
  intro fragment hmem
  rcases List.mem_append.1 hmem with hlabel | hclosing
  · cases items with
    | nil => cases hlabel
    | cons item items =>
      rcases List.mem_cons.1 hlabel with rfl | hlabel
      · exact ⟨'(', rfl, by decide⟩
      · obtain ⟨other, -, rfl⟩ := List.mem_map.1 hlabel
        exact ⟨',', rfl, by decide⟩
  · obtain rfl := List.mem_singleton.1 hclosing
    split
    · exact ⟨'(', rfl, by decide⟩
    · exact ⟨')', rfl, by decide⟩

theorem fenced_binary (h : Handle) (op : Operator) (operand : Arg) :
    (binary h op operand).Fenced := by
  simp [binary, Fenced]

theorem fenced_negated (h : Handle) : (negated h).Fenced := by
  simp [negated, Fenced]

end Draft

namespace Construction

/-- The caller brings the text around the arguments. -/
def bringsText : Construction → Bool
  | .expr _ _ _ | .format _ _ _ | .formatNamed _ _ _ | .raw _ _ _ => true
  | _ => false

theorem fenced_of_draft {c : Construction} {d : Draft} (hc : c.bringsText = false)
    (hd : c.draft = .ok d) : d.Fenced := by
  cases c with
  | expr | format | formatNamed | raw => cases hc
  | attr h name => cases hd; exact Draft.fenced_attr h name
  | index h key => cases hd; exact Draft.fenced_subscript h key
  | item h key => cases hd; exact Draft.fenced_item h key
  | call h args => exact Draft.fenced_call hd
  | binary h op operand => cases hd; exact Draft.fenced_binary h op operand
  | negated h => cases hd; exact Draft.fenced_negated h

end Construction

namespace Expression

variable {session : Nat} {d : Draft} {x : Expression} {p : List Nat} {s : Text}
variable {before after : List Arg} {c : Arg.Context}

theorem source_of_holds (hx : compose session d = .ok x) (holds : d.Holds p s before c after) :
    x.source = d.left before c ++ Literal.quote s ++ d.right before c after := by
  obtain ⟨balanced, -, -, rfl⟩ := compose_eq_ok_iff.1 hx
  have hlength : before.length < d.fragments.length := by
    rw [Draft.length_fragments_of_holds balanced holds]
    omega
  show interleave d.fragments d.args = _
  rw [holds.filled, interleave_around hlength, Arg.Context.render_fill]
  simp [Draft.left, Draft.right]

/-- What the caller writes behind an argument matters only if this is the empty string. -/
theorem confined_of_holds (hx : compose session d = .ok x) (holds : d.Holds p s before c after)
    (hbehind : c = .gap → s = [] → (pastOf d.fragments before after).head? ≠ some '"') :
    Literal.Confined (d.left before c) s (d.right before c after) x.source := by
  refine Literal.confined (source_of_holds hx holds) (or_iff_not_imp_left.2 fun hs => ?_)
  exact Arg.Context.head?_back c fun hc => hbehind hc (not_not.1 hs)

end Expression

namespace Program

open Literal (Confined quote readQuoted?)

variable {w : Program} {as : List Action} {stem : Nat → Text} {debug : Nat → Bool}

/-- String literals are closed and keep to their line. A literal ends at its own last character and
gives the string, unless it is empty and another quote stands behind it; in no case does it end
elsewhere, and no beginning of it is a literal. No character of it is a control character or ends a
line. So different strings have different literals. A tag in its registration, a text that is no
name in its subscript, and a string anywhere in the arguments of what is composed, are read up to
the text behind them, and this text does not depend on the string. What the caller writes behind an
argument matters only if the argument is the empty string, and most operations let nobody write
there. -/
theorem literals_end_in_place (hopen : Opened stem debug w) (as : List Action) (running : Bool) :
    (∀ s t, readQuoted? (quote s ++ t) = some (s, t) ↔ s ≠ [] ∨ t.head? ≠ some '"') ∧
    (∀ s t u rest, readQuoted? (quote s ++ t) = some (u, rest) → u = s ∧ rest = t) ∧
    (∀ s p q, quote s = p ++ q → q ≠ [] → readQuoted? p = none) ∧
    (∀ s, ∀ c ∈ quote s,
      0x20 ≤ c.toNat ∧ (c.toNat < 0x7f ∨ 0x9f < c.toNat) ∧ c ≠ '\u2028' ∧ c ≠ '\u2029') ∧
    Function.Injective quote ∧
    (∀ tag encoder, Confined "__hopi_register__(".toList tag (", ".toList ++ encoder ++ [')'])
      (Session.registration tag encoder)) ∧
    (∀ h ∈ w.handles as, ∀ s, Identifier.isName s = false →
      ∃ source, (w.run as).source? running (.attr h s) = some source ∧
        Confined (h.name ++ ['[']) s [']'] source) ∧
    (∀ (d : Draft) p s, Arg.Occurs d.args p (.str s) →
      ∃ before c after, d.Holds p s before c after) ∧
    (∀ session d x, Expression.compose session d = .ok x →
      ∀ p s before c after, d.Holds p s before c after →
        x.source = d.left before c ++ quote s ++ d.right before c after ∧
        ((c = .gap → s = [] → (Expression.pastOf d.fragments before after).head? ≠ some '"') →
          Confined (d.left before c) s (d.right before c after) x.source)) ∧
    ∀ k x, (w.run as).Builds running k x → k.bringsText = false →
      ∃ d, k.draft = .ok d ∧ ∀ p s before c after, d.Holds p s before c after →
        Confined (d.left before c) s (d.right before c after) x.source := by
  refine ⟨fun s t => Literal.readQuoted?_quote_iff,
    fun s t u rest => Literal.eq_of_readQuoted?_quote,
    fun s p q => Literal.readQuoted?_of_quote_eq_append,
    fun s c hc => Literal.keepsLine_iff.1 (Literal.keepsLine_of_mem_quote hc),
    fun s t => Literal.quote_inj, Literal.confined_registration, fun h hh s hs => ?_,
    fun d p s => Draft.exists_holds, fun session d x hx p s before c after holds =>
      ⟨Expression.source_of_holds hx holds, Expression.confined_of_holds hx holds⟩,
    fun k x hx hk => ?_⟩
  · refine ⟨_, source?_attr hopen hh running s, ?_⟩
    exact Literal.confined (by simp [hs]) (Or.inr (by decide))
  · obtain ⟨d, hd, hcompose⟩ := Construction.composed_eq_ok_iff.1 ((builds_iff hopen as).1 hx)
    have hfenced := Construction.fenced_of_draft hk hd
    obtain ⟨balanced, -⟩ := Expression.compose_eq_ok_iff.1 hcompose
    refine ⟨d, hd, fun p s before c after holds => ?_⟩
    exact Expression.confined_of_holds hcompose holds
      fun _ _ => hfenced.head?_pastOf balanced holds

/-- A backslash before a quote, an escape before a digit, and the end of a line. -/
def deceptiveText : Text := ['\\', '"', '\x01', 'f', '\u2028', '0']

theorem literals_end_in_place_deceptive :
    Opened (fun _ => ['i', 'f']) (fun _ => false) branching ∧
    (⟨0, ['i', 'f'], 0⟩ : Handle) ∈ branching.handles branchingActions ∧
    readQuoted? (quote deceptiveText ++ ['"', ']']) = some (deceptiveText, ['"', ']']) ∧
    readQuoted? (quote [] ++ ['"', ']']) ≠ some ([], ['"', ']']) ∧
    (∃ source, (branching.run branchingActions).source? true
        (.attr ⟨0, ['i', 'f'], 0⟩ deceptiveText) = some source ∧
      Confined ['i', 'f', '0', '['] deceptiveText [']'] source) ∧
    ∃ x, (branching.run branchingActions).Builds true
        (.index ⟨0, ['i', 'f'], 0⟩ (.list [.int 7, .str deceptiveText])) x ∧
      Confined ['i', 'f', '0', '[', '[', '7', ','] deceptiveText [']', ']'] x.source := by
  have hopen : Opened (fun _ => ['i', 'f']) (fun _ => false) branching := fun _ => rfl
  have hh : (⟨0, ['i', 'f'], 0⟩ : Handle) ∈ branching.handles branchingActions := by decide +kernel
  obtain ⟨hread, -, -, -, -, -, hattr, -, -, hbuilt⟩ :=
    literals_end_in_place hopen branchingActions true
  refine ⟨hopen, hh, (hread _ _).2 (Or.inl (List.cons_ne_nil _ _)), fun h => ?_,
    hattr _ hh deceptiveText (by decide +kernel), ?_⟩
  · rcases (hread _ _).1 h with h | h <;> exact h rfl
  · have hx : (branching.run branchingActions).Builds true
        (.index ⟨0, ['i', 'f'], 0⟩ (.list [.int 7, .str deceptiveText]))
        ⟨['i', 'f', '0', '[', '[', '7', ','] ++ quote deceptiveText ++ [']', ']'],
          [⟨0, ['i', 'f'], 0⟩]⟩ :=
      (builds_iff hopen branchingActions).2 (by decide +kernel)
    obtain ⟨d, hd, hconfined⟩ := hbuilt _ _ hx rfl
    cases hd
    exact ⟨_, hx, hconfined [1, 1] deceptiveText [.handle ⟨0, ['i', 'f'], 0⟩]
      (.inList [.int 7] .gap []) [] ⟨rfl, fun _ => .inside rfl (.here rfl)⟩⟩

end Program

end RemoteInterpreter
