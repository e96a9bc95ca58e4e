import RemoteInterpreter.Proofs.Naming

/-!
# The items of a call

The arguments of a call come to a list of items, unless a keyword group has something behind it or
a keyword is no name. The items are those of the arguments, one after the other.
-/

namespace RemoteInterpreter

theorem Identifier.isName_eq_false_iff {t : Text} :
    isName t = false ↔ isIdentifier t = false ∨ isReserved t = true := by
  rw [isName, Bool.and_eq_false_iff, Bool.not_eq_false']

namespace CallArg

/-- A keyword group, be it empty, has something behind it. -/
def Misplaced (args : List CallArg) : Prop :=
  ∃ before entries after, args = before ++ .keywords entries :: after ∧ after ≠ []

/-- A keyword is no identifier, or it is a reserved word. -/
def Misnamed (args : List CallArg) (name : Text) : Prop :=
  ∃ entries, .keywords entries ∈ args ∧ name ∈ entries.map Prod.fst ∧
    (Identifier.isIdentifier name = false ∨ Identifier.isReserved name = true)

/-- The values that are passed, in order. -/
def values : CallArg → List Arg
  | .positional value => [value]
  | .keywords entries => entries.map Prod.snd

/-- The items that an argument stands for. -/
def itemsOf : CallArg → List Item
  | .positional value => [([], value)]
  | .keywords entries => entries.map fun e => (e.1 ++ ['='], e.2)

variable {arg : CallArg} {args rest : List CallArg} {entries : List (Text × Arg)} {l : List Item}
variable {e : UsageError} {name : Text}

@[simp] theorem map_snd_itemsOf (arg : CallArg) : arg.itemsOf.map Prod.snd = arg.values := by
  cases arg <;> simp [itemsOf, values]

theorem map_snd_flatMap_itemsOf (args : List CallArg) :
    (args.flatMap itemsOf).map Prod.snd = args.flatMap values := by
  rw [List.map_flatMap]
  exact congrArg (List.flatMap · args) (funext map_snd_itemsOf)

theorem handlesOfItems_values (arg : CallArg) : Arg.handlesOfItems arg.values = arg.handles := by
  cases arg with
  | positional value => exact List.append_nil _
  | keywords entries => rfl

theorem mem_handlesOfItems_values {h : Handle} :
    h ∈ Arg.handlesOfItems (args.flatMap values) ↔ h ∈ args.flatMap handles := by
  simp only [Arg.mem_handlesOfItems, List.mem_flatMap, ← handlesOfItems_values]
  grind

/-! What is accepted -/

theorem not_misplaced_nil : ¬ Misplaced [] := by
  rintro ⟨before, entries, after, heq, -⟩
  cases before <;> cases heq

theorem not_misplaced_singleton (arg : CallArg) : ¬ Misplaced [arg] := by
  rintro ⟨before, entries, after, heq, hne⟩
  have hlength := congrArg List.length heq
  simp only [List.length_append, List.length_cons, List.length_nil] at hlength
  exact hne (List.length_eq_zero_iff.1 (by omega))

theorem misplaced_positional_iff {value : Arg} :
    Misplaced (.positional value :: rest) ↔ Misplaced rest := by
  constructor
  · rintro ⟨before, entries, after, heq, hne⟩
    cases before with
    | nil => cases heq
    | cons _ before =>
      cases heq
      exact ⟨before, entries, after, rfl, hne⟩
  · rintro ⟨before, entries, after, rfl, hne⟩
    exact ⟨.positional value :: before, entries, after, rfl, hne⟩

theorem misnamed_positional_iff {value : Arg} :
    Misnamed (.positional value :: rest) name ↔ Misnamed rest name := by
  simp [Misnamed]

/-- A group is taken, unless one of its keywords is no name: the first of these is reported. -/
theorem mapM_keywordItem (entries : List (Text × Arg)) : entries.mapM keywordItem =
    match (entries.map Prod.fst).find? (fun name => !Identifier.isName name) with
    | some name => .error (.badKeyword name)
    | none => .ok (itemsOf (.keywords entries)) := by
  induction entries with
  | nil => rfl
  | cons entry entries ih =>
    rw [List.mapM_cons, keywordItem, ih, List.map_cons, List.find?_cons]
    cases hname : Identifier.isName entry.1 with
    | false => rfl
    | true => cases (entries.map Prod.fst).find? (fun name => !Identifier.isName name) <;> rfl

/-- What the arguments of a call come to. -/
inductive Yields (args : List CallArg) : Except UsageError (List Item) → Prop
  | misplaced (group : Misplaced args) : Yields args (.error .keywordsNotLast)
  | misnamed {n} (keyword : Misnamed args n) : Yields args (.error (.badKeyword n))
  | accepts (placed : ¬ Misplaced args) (named : ∀ n, ¬ Misnamed args n) :
    Yields args (.ok (args.flatMap itemsOf))

theorem yields_items (args : List CallArg) : Yields args (items args) := by
  fun_induction items args with
  | case1 => exact .accepts not_misplaced_nil (by simp [Misnamed])
  | case2 value rest ih =>
    generalize items rest = result at ih
    cases ih with
    | misplaced h => exact .misplaced (misplaced_positional_iff.2 h)
    | misnamed h => exact .misnamed (misnamed_positional_iff.2 h)
    | accepts placed named =>
      exact .accepts (mt misplaced_positional_iff.1 placed)
        fun name => mt misnamed_positional_iff.1 (named name)
  | case3 entries rest =>
    rw [mapM_keywordItem]
    cases hfind : (entries.map Prod.fst).find? (fun name => !Identifier.isName name) with
    | some name =>
      have hname : Identifier.isName name = false := by simpa using List.find?_some hfind
      exact .misnamed ⟨entries, List.mem_cons_self, List.mem_of_find?_eq_some hfind,
        Identifier.isName_eq_false_iff.1 hname⟩
    | none =>
      cases rest with
      | cons arg rest => exact .misplaced ⟨[], entries, arg :: rest, rfl, List.cons_ne_nil _ _⟩
      | nil =>
        have hnamed : ∀ name, ¬ Misnamed [.keywords entries] name := by
          rintro name ⟨entries', hmem, hname, hbad⟩
          cases List.mem_singleton.1 hmem
          have hgood := List.find?_eq_none.1 hfind name hname
          simp [Identifier.isName_eq_false_iff.2 hbad] at hgood
        have haccepts := Yields.accepts (not_misplaced_singleton (.keywords entries)) hnamed
        rwa [List.flatMap_cons, List.flatMap_nil, List.append_nil] at haccepts

theorem eq_of_items (h : items args = .ok l) : l = args.flatMap itemsOf := by
  have hyields := yields_items args
  rw [h] at hyields
  cases hyields
  rfl

end CallArg

end RemoteInterpreter
