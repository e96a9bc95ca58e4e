import RemoteInterpreter.Proofs.Occurrence

/-!
# Around a string

An argument with a gap where a string may stand. Wherever a string occurs there is such a gap, and
whatever string is put into it, the text before it and the text behind it are the same. Inside a
list, a tuple or a map what stands behind the gap begins with a comma, a colon or a bracket.
-/

namespace RemoteInterpreter

namespace Arg

/-- An argument with a gap for a string. -/
inductive Context where
  | gap
  | inList (before : List Arg) (inner : Context) (after : List Arg)
  | inTuple (before : List Arg) (inner : Context) (after : List Arg)
  | asKey (before : List (Arg × Arg)) (inner : Context) (value : Arg) (after : List (Arg × Arg))
  | asValue (before : List (Arg × Arg)) (key : Arg) (inner : Context) (after : List (Arg × Arg))

/-- An entry of a map as it is written. -/
def renderEntry (e : Arg × Arg) : Text := e.1.render ++ ':' :: ' ' :: e.2.render

/-- Texts with a comma behind each. -/
def followed (texts : List Text) : Text := texts.flatMap (· ++ [','])

/-- Texts with a comma before each. -/
def preceded (texts : List Text) : Text := texts.flatMap (',' :: ·)

namespace Context

def fill (s : Text) : Context → Arg
  | gap => .str s
  | inList before inner after => .list (before ++ inner.fill s :: after)
  | inTuple before inner after => .tuple (before ++ inner.fill s :: after)
  | asKey before inner value after => .map (before ++ (inner.fill s, value) :: after)
  | asValue before key inner after => .map (before ++ (key, inner.fill s) :: after)

/-- What is written before the gap. -/
def front : Context → Text
  | gap => []
  | inList before inner _ => '[' :: followed (before.map render) ++ inner.front
  | inTuple before inner _ => '(' :: followed (before.map render) ++ inner.front
  | asKey before inner _ _ => '\x7b' :: followed (before.map renderEntry) ++ inner.front
  | asValue before key inner _ =>
    '\x7b' :: followed (before.map renderEntry) ++ (key.render ++ ':' :: ' ' :: inner.front)

/-- What is written behind the gap. A single item of a tuple has a comma, too. -/
def back : Context → Text
  | gap => []
  | inList _ inner after => inner.back ++ (preceded (after.map render) ++ [']'])
  | inTuple before inner after =>
    inner.back ++ (preceded (after.map render) ++
      if before = [] ∧ after = [] then [',', ')'] else [')'])
  | asKey _ inner value after =>
    inner.back ++ (':' :: ' ' :: value.render ++ (preceded (after.map renderEntry) ++ ['\x7d']))
  | asValue _ _ inner after => inner.back ++ (preceded (after.map renderEntry) ++ ['\x7d'])

end Context

/-! Rendering -/

theorem intercalate_around (before after : List Text) (t : Text) :
    [','].intercalate (before ++ t :: after) = followed before ++ t ++ preceded after := by
  induction before with
  | nil =>
    induction after generalizing t with
    | nil => simp [followed, preceded]
    | cons next after ih =>
      have hnext := ih next
      rw [List.nil_append] at hnext ⊢
      rw [List.intercalate_cons_cons, hnext]
      simp [followed, preceded]
  | cons first before ih =>
    obtain ⟨u, rest, hrest⟩ := List.exists_cons_of_ne_nil
      (List.append_ne_nil_of_right_ne_nil before (List.cons_ne_nil t after))
    rw [List.cons_append, hrest, List.intercalate_cons_cons, ← hrest, ih]
    simp [followed]

theorem renderItems_eq (items : List Arg) :
    renderItems items = [','].intercalate (items.map render) := by
  induction items with
  | nil => rfl
  | cons item rest ih =>
    cases rest with
    | nil => simp [renderItems]
    | cons next rest =>
      rw [List.map_cons, List.map_cons, List.intercalate_cons_cons, ← List.map_cons, ← ih]
      simp [renderItems]

theorem renderEntries_eq (entries : List (Arg × Arg)) :
    renderEntries entries = [','].intercalate (entries.map renderEntry) := by
  induction entries with
  | nil => rfl
  | cons entry rest ih =>
    cases rest with
    | nil => simp [renderEntries, renderEntry]
    | cons next rest =>
      rw [List.map_cons, List.map_cons, List.intercalate_cons_cons, ← List.map_cons, ← ih]
      simp [renderEntries, renderEntry]

theorem render_tuple (items : List Arg) : render (.tuple items) =
    '(' :: renderItems items ++ if items.length = 1 then [',', ')'] else [')'] := by
  match items with
  | [] => rfl
  | [item] => simp [render, renderItems]
  | item :: next :: items => simp [render]

theorem renderItems_around (before after : List Arg) (a : Arg) :
    renderItems (before ++ a :: after) =
      followed (before.map render) ++ a.render ++ preceded (after.map render) := by
  rw [renderItems_eq, List.map_append, List.map_cons, intercalate_around]

theorem renderEntries_around (before after : List (Arg × Arg)) (e : Arg × Arg) :
    renderEntries (before ++ e :: after) =
      followed (before.map renderEntry) ++ renderEntry e ++ preceded (after.map renderEntry) := by
  rw [renderEntries_eq, List.map_append, List.map_cons, intercalate_around]

namespace Context

/-- Whatever string is in the gap, it is written between the same two texts. -/
theorem render_fill (c : Context) (s : Text) :
    (c.fill s).render = c.front ++ Literal.quote s ++ c.back := by
  induction c with
  | gap => simp [fill, front, back, render]
  | inList before inner after ih =>
    simp [fill, front, back, render, renderItems_around, ih]
  | inTuple before inner after ih =>
    have hsingle : before.length + (after.length + 1) = 1 ↔ before = [] ∧ after = [] := by
      rw [← List.length_eq_zero_iff, ← List.length_eq_zero_iff]
      omega
    simp [fill, front, back, render_tuple, renderItems_around, ih, hsingle]
  | asKey before inner value after ih =>
    simp [fill, front, back, render, renderEntries_around, renderEntry, ih]
  | asValue before key inner after ih =>
    simp [fill, front, back, render, renderEntries_around, renderEntry, ih]

theorem head?_preceded {c : Char} (hc : c ≠ '"') (texts : List Text) (t : Text) :
    (preceded texts ++ c :: t).head? ≠ some '"' := by
  cases texts with
  | nil => simpa [preceded] using hc
  | cons first texts => simp [preceded]

/-- What stands behind a string begins with a quote only where the string is no part of anything. -/
theorem head?_back (c : Context) {t : Text} (ht : c = gap → t.head? ≠ some '"') :
    (c.back ++ t).head? ≠ some '"' := by
  -- in a part of a part the inner one ends first, so its mark is what is met
  induction c generalizing t with
  | gap => exact ht rfl
  | inList before inner after ih =>
    rw [back, List.append_assoc]
    refine ih fun _ => ?_
    rw [List.append_assoc]
    exact head?_preceded (by decide) _ t
  | inTuple before inner after ih =>
    rw [back, List.append_assoc]
    refine ih fun _ => ?_
    rw [List.append_assoc]
    split
    · exact head?_preceded (by decide) _ (')' :: t)
    · exact head?_preceded (by decide) _ t
  | asKey before inner value after ih =>
    rw [back, List.append_assoc]
    exact ih fun _ => by simp
  | asValue before key inner after ih =>
    rw [back, List.append_assoc]
    refine ih fun _ => ?_
    rw [List.append_assoc]
    exact head?_preceded (by decide) _ t

end Context

/-! Places -/

/-- Every part of a map is a key or a value. -/
theorem part_of_entries {entries : List (Arg × Arg)} {before after : List Arg} {a : Arg}
    (h : entries.flatMap (fun e => [e.1, e.2]) = before ++ a :: after) :
    (∃ front value back, entries = front ++ (a, value) :: back ∧
      ∀ b, (front ++ (b, value) :: back).flatMap (fun e => [e.1, e.2]) = before ++ b :: after) ∨
    ∃ front key back, entries = front ++ (key, a) :: back ∧
      ∀ b, (front ++ (key, b) :: back).flatMap (fun e => [e.1, e.2]) = before ++ b :: after := by
  induction entries generalizing before with
  | nil => simp at h
  | cons e entries ih =>
    obtain ⟨key, value⟩ := e
    match before with
    | [] =>
      cases h
      exact Or.inl ⟨[], value, entries, rfl, fun _ => rfl⟩
    | [_] =>
      cases h
      exact Or.inr ⟨[], key, entries, rfl, fun _ => rfl⟩
    | first :: second :: before =>
      simp only [List.flatMap_cons, List.cons_append, List.nil_append, List.cons.injEq] at h
      obtain ⟨rfl, rfl, hrest⟩ := h
      rcases ih hrest with ⟨front, v, back, rfl, hfill⟩ | ⟨front, k, back, rfl, hfill⟩
      · exact Or.inl ⟨(key, value) :: front, v, back, rfl, fun b => by simpa using hfill b⟩
      · exact Or.inr ⟨(key, value) :: front, k, back, rfl, fun b => by simpa using hfill b⟩

/-- A part with a gap makes the whole one with a gap. -/
theorem exists_context_of_parts {a : Arg} {before after : List Arg} {inner : Context} {s : Text}
    (h : a.parts = before ++ inner.fill s :: after) :
    ∃ c : Context, a = c.fill s ∧ ∀ t, (c.fill t).parts = before ++ inner.fill t :: after := by
  cases a with
  | list items => exact ⟨.inList before inner after, congrArg Arg.list h, fun _ => rfl⟩
  | tuple items => exact ⟨.inTuple before inner after, congrArg Arg.tuple h, fun _ => rfl⟩
  | map entries =>
    rcases part_of_entries h with ⟨front, value, back, rfl, hfill⟩ | ⟨front, key, back, rfl, hfill⟩
    · exact ⟨.asKey front inner value back, rfl, fun t => hfill (inner.fill t)⟩
    · exact ⟨.asValue front key inner back, rfl, fun t => hfill (inner.fill t)⟩
  | _ => simp [parts] at h

/-- Whatever has a number among the arguments, anything else may have this number. -/
theorem exists_around {args : List Arg} {i : Nat} {a : Arg} (number : args[i]? = some a) :
    ∃ before after, args = before ++ a :: after ∧ ∀ b, (before ++ b :: after)[i]? = some b := by
  obtain ⟨hlt, rfl⟩ := List.getElem?_eq_some_iff.1 number
  have hlength : (args.take i).length = i := List.length_take_of_le (Nat.le_of_lt hlt)
  refine ⟨args.take i, args.drop (i + 1), ?_, fun b => ?_⟩
  · rw [List.getElem_cons_drop, List.take_append_drop]
  · rw [List.getElem?_append_right (Nat.le_of_eq hlength), hlength, Nat.sub_self,
      List.getElem?_cons_zero]

/-- Wherever a string occurs there is a gap for any other string. -/
theorem exists_context {args : List Arg} {p : List Nat} {s : Text}
    (h : Occurs args p (.str s)) : ∃ before c after, args = before ++ Context.fill s c :: after ∧
      ∀ t, Occurs (before ++ c.fill t :: after) p (.str t) := by
  generalize ha : Arg.str s = a at h
  induction h with
  | here number =>
    subst ha
    obtain ⟨before, after, hargs, hnumber⟩ := exists_around number
    exact ⟨before, .gap, after, hargs, fun t => .here (hnumber _)⟩
  | inside number _ ih =>
    obtain ⟨front, inner, back, hparts, hinner⟩ := ih ha
    obtain ⟨c, rfl, hc⟩ := exists_context_of_parts hparts
    obtain ⟨before, after, hargs, hnumber⟩ := exists_around number
    refine ⟨before, c, after, hargs, fun t => .inside (hnumber _) ?_⟩
    rw [hc]
    exact hinner t

end Arg

/-! Fragments and arguments in turn -/

namespace Expression

/-- The arguments before a certain one, with the fragments around them. -/
def upTo (fragments : List Text) (before : List Arg) : Text :=
  interleave (fragments.take (before.length + 1)) before

/-- The fragments and arguments behind a certain argument. -/
def pastOf (fragments : List Text) (before after : List Arg) : Text :=
  interleave (fragments.drop (before.length + 1)) after

theorem interleave_around {fragments : List Text} {before : List Arg}
    (h : before.length < fragments.length) (a : Arg) (after : List Arg) :
    interleave fragments (before ++ a :: after) =
      upTo fragments before ++ a.render ++ pastOf fragments before after := by
  unfold upTo pastOf
  induction before generalizing fragments with
  | nil =>
    cases fragments with
    | nil => cases h
    | cons fragment fragments => simp [interleave]
  | cons b before ih =>
    cases fragments with
    | nil => cases h
    | cons fragment fragments =>
      have hrest := ih (Nat.lt_of_succ_lt_succ h)
      simp [interleave, hrest]

end Expression

end RemoteInterpreter
