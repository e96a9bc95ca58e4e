import RemoteInterpreter.Proofs.Collection
import RemoteInterpreter.Proofs.Context

/-!
# Calls

A call is written as its items with one comma between any two. It is refused where a keyword group
is not the last of its arguments or a keyword is no name; apart from that, what is wrong can only be
a handle of another session or a line end in a pasted text.
-/

namespace RemoteInterpreter

namespace CallArg

/-- An argument as it is written: the values of a keyword group behind their names. -/
def written : CallArg → List Text
  | .positional value => [value.render]
  | .keywords entries => entries.map fun e => e.1 ++ '=' :: e.2.render

variable {args : List CallArg} {item : Item}

/-- An item as it is written. -/
def Item.written (item : Item) : Text := item.1 ++ item.2.render

@[simp] theorem map_written_itemsOf (arg : CallArg) :
    arg.itemsOf.map Item.written = arg.written := by
  cases arg <;> simp [itemsOf, written, Item.written]

theorem map_written_flatMap_itemsOf (args : List CallArg) :
    (args.flatMap itemsOf).map Item.written = args.flatMap written := by
  rw [List.map_flatMap]
  exact congrArg (List.flatMap · args) (funext map_written_itemsOf)

/-! Fragments -/

/-- What comes behind the first item. -/
theorem interleave_tail (items : List Item) :
    Expression.interleave (items.map (fun item => ',' :: item.1) ++ [[')']]) (items.map Prod.snd) =
      items.flatMap (fun item => ',' :: item.written) ++ [')'] := by
  induction items with
  | nil => rfl
  | cons item items ih => simp [Expression.interleave, ih, Item.written]

theorem intercalate_written (item : Item) (items : List Item) :
    [','].intercalate ((item :: items).map Item.written) =
      item.written ++ items.flatMap fun item => ',' :: item.written := by
  have haround := Arg.intercalate_around [] (items.map Item.written) item.written
  rw [List.nil_append] at haround
  rw [List.map_cons, haround]
  simp [Arg.followed, Arg.preceded, List.flatMap_map]

/-- Labels and values in turn, with what closes the call. -/
theorem interleave_labels (items : List Item) :
    Expression.interleave
        (labels items ++ [if items.isEmpty then ['(', ')'] else [')']]) (items.map Prod.snd) =
      '(' :: [','].intercalate (items.map Item.written) ++ [')'] := by
  cases items with
  | nil => rfl
  | cons item items =>
    rw [intercalate_written]
    simp [labels, Expression.interleave, interleave_tail, Item.written]

theorem length_labels (items : List Item) : (labels items).length = items.length := by
  cases items <;> simp [labels]

/-- Names and equals signs are on one line. -/
theorem breaksLine_of_mem_items (named : ∀ name, ¬ Misnamed args name)
    (h : item ∈ args.flatMap itemsOf) : item.1.breaksLine = false := by
  obtain ⟨arg, harg, hitem⟩ := List.mem_flatMap.1 h
  cases arg with
  | positional value =>
    obtain rfl := List.mem_singleton.1 hitem
    rfl
  | keywords entries =>
    obtain ⟨entry, hentry, rfl⟩ := List.mem_map.1 hitem
    have hname : Identifier.isName entry.1 = true := by
      by_contra hbad
      refine named entry.1 ⟨entries, harg, List.mem_map_of_mem hentry, ?_⟩
      exact Identifier.isName_eq_false_iff.1 (Bool.not_eq_true _ ▸ hbad)
    simp [Identifier.breaksLine_of_isName hname]

theorem breaksLine_of_mem_labels {items : List Item} {label : Text}
    (hitems : ∀ item ∈ items, item.1.breaksLine = false) (h : label ∈ labels items) :
    label.breaksLine = false := by
  cases items with
  | nil => cases h
  | cons item items =>
    rcases List.mem_cons.1 h with rfl | h
    · simp [hitems item List.mem_cons_self]
    · obtain ⟨other, hother, rfl⟩ := List.mem_map.1 h
      simp [hitems other (List.mem_cons_of_mem _ hother)]

end CallArg

/-! The draft -/

/-- What the draft of a call comes to. -/
inductive Draft.Calls (h : Handle) (args : List CallArg) : Except UsageError Draft → Prop
  | misplaced (group : CallArg.Misplaced args) : Calls h args (.error .keywordsNotLast)
  | misnamed {n} (keyword : CallArg.Misnamed args n) : Calls h args (.error (.badKeyword n))
  | accepts {d} (placed : ¬ CallArg.Misplaced args) (named : ∀ n, ¬ CallArg.Misnamed args n)
      (balanced : d.Balanced) (passes : d.args = .handle h :: args.flatMap CallArg.values)
      (lines : ∀ fragment ∈ d.fragments, fragment.breaksLine = false)
      (source : Expression.interleave d.fragments d.args =
        h.name ++ '(' :: [','].intercalate (args.flatMap CallArg.written) ++ [')']) :
    Calls h args (.ok d)

theorem Draft.calls_call (h : Handle) (args : List CallArg) : Calls h args (call h args) := by
  have hyields := CallArg.yields_items args
  unfold call
  generalize CallArg.items args = result at hyields
  cases hyields with
  | misplaced group => exact .misplaced group
  | misnamed keyword => exact .misnamed keyword
  | accepts placed named =>
    refine .accepts placed named ?_ ?_ ?_ ?_
    · simp [Balanced, onHandle, CallArg.length_labels]
    · exact congrArg (Arg.handle h :: ·) (CallArg.map_snd_flatMap_itemsOf args)
    · have hitems : ∀ item ∈ args.flatMap CallArg.itemsOf, item.1.breaksLine = false :=
        fun _ => CallArg.breaksLine_of_mem_items named
      simp only [onHandle, List.mem_cons, List.mem_append, List.not_mem_nil, or_false]
      rintro fragment (rfl | hlabel | rfl)
      · rfl
      · exact CallArg.breaksLine_of_mem_labels hitems hlabel
      · split <;> rfl
    · have hlabels := CallArg.interleave_labels (args.flatMap CallArg.itemsOf)
      rw [CallArg.map_written_flatMap_itemsOf] at hlabels
      simp only [onHandle, Expression.interleave, hlabels, Arg.render]
      simp

namespace Program

variable {w : Program} {as : List Action} {stem : Nat → Text} {debug : Nat → Bool}
variable {h : Handle} {args : List CallArg}

open CallArg (Misplaced Misnamed)

/-- What is wrong with a call whose arguments are in order. -/
theorem exists_refuses_call_iff (hopen : Opened stem debug w) (hh : h ∈ w.handles as)
    (hargs : ∀ k ∈ args.flatMap CallArg.handles, k ∈ w.handles as) {running : Bool}
    (placed : ¬ Misplaced args) (named : ∀ n, ¬ Misnamed args n) :
    (∃ e, (w.run as).Refuses running (.call h args) e) ↔
      (∃ p k, Arg.Occurs (args.flatMap CallArg.values) p (.handle k) ∧ k.session ≠ h.session) ∨
      ∃ p t, Arg.Occurs (args.flatMap CallArg.values) p (.raw t) ∧ ('\n' ∈ t ∨ '\r' ∈ t) := by
  have hcalls := Draft.calls_call h args
  cases hd : Draft.call h args with
  | error e =>
    rw [hd] at hcalls
    cases hcalls with
    | misplaced group => exact absurd group placed
    | misnamed keyword => exact absurd keyword (named _)
  | ok d =>
    rw [hd] at hcalls
    cases hcalls with
    | accepts _ _ balanced passes lines =>
      have hbuilt : ∀ k ∈ Arg.handlesOfItems (args.flatMap CallArg.values), k ∈ w.handles as :=
        fun k hk => hargs k (CallArg.mem_handlesOfItems_values.1 hk)
      rw [exists_refuses_onHandle_iff hopen (c := .call h args) hd balanced rfl passes hh hbuilt
        lines, Arg.exists_handle_iff, Arg.exists_raw_iff]
      simp only [Text.breaksLine_iff]

/-- A call is refused where a keyword group has something behind it, or where a keyword is no name.
Apart from that it is refused only for a handle of another session or a line end in a pasted text,
at any depth. What is built is the name of the handle and, between parentheses, the arguments with
one comma between any two, however many there are. -/
theorem calls_written_exactly (hopen : Opened stem debug w) (hh : h ∈ w.handles as)
    (hargs : ∀ k ∈ args.flatMap CallArg.handles, k ∈ w.handles as) (running : Bool) :
    (Misplaced args ∨ (∃ n, Misnamed args n) →
      ∃ e, (w.run as).Refuses running (.call h args) e ∧
        (e = .keywordsNotLast ∨ ∃ n, e = .badKeyword n)) ∧
    (¬ Misplaced args → (∀ n, ¬ Misnamed args n) →
      ((∃ e, (w.run as).Refuses running (.call h args) e) ↔
        (∃ p k, Arg.Occurs (args.flatMap CallArg.values) p (.handle k) ∧
          k.session ≠ h.session) ∨
        ∃ p t, Arg.Occurs (args.flatMap CallArg.values) p (.raw t) ∧ ('\n' ∈ t ∨ '\r' ∈ t))) ∧
    ((∃ e, (w.run as).Refuses running (.call h args) e) ∨
      ∃ x, (w.run as).Builds running (.call h args) x) ∧
    ∀ x, (w.run as).Builds running (.call h args) x →
      x.source = h.name ++ '(' :: [','].intercalate (args.flatMap CallArg.written) ++ [')'] := by
  refine ⟨fun hwrong => ?_, exists_refuses_call_iff hopen hh hargs,
    (builds_or_refuses hopen as running (.call h args)).symm, fun x hx => ?_⟩
  · have hcalls := Draft.calls_call h args
    cases hd : Draft.call h args with
    | error e =>
      rw [hd] at hcalls
      refine ⟨e, (refuses_iff hopen as).2 (Construction.composed_eq_error_iff.2 (Or.inl hd)), ?_⟩
      cases hcalls with
      | misplaced => exact Or.inl rfl
      | misnamed => exact Or.inr ⟨_, rfl⟩
    | ok d =>
      rw [hd] at hcalls
      cases hcalls with
      | accepts placed named =>
        rcases hwrong with group | ⟨n, keyword⟩
        · exact absurd group placed
        · exact absurd keyword (named n)
  · obtain ⟨d, hd, hcompose⟩ := Construction.composed_eq_ok_iff.1 ((builds_iff hopen as).1 hx)
    have hcalls : Draft.Calls h args (Draft.call h args) := Draft.calls_call h args
    rw [show Draft.call h args = .ok d from hd] at hcalls
    cases hcalls with
    | accepts _ _ _ _ _ source => exact (Expression.source_of_compose hcompose).trans source

/-- A string, a handle and two keywords, of which the first has a list. -/
def mixedArgs : List CallArg :=
  [.positional (.str ['a', '\n']), .positional (.handle ⟨0, ['i', 'f'], 1⟩),
    .keywords [(['k'], .list [.int 1, .null]), (['_'], .handle ⟨0, ['i', 'f'], 0⟩)]]

theorem calls_written_exactly_mixed :
    Opened (fun _ => ['i', 'f']) (fun _ => false) branching ∧
    (⟨0, ['i', 'f'], 0⟩ : Handle) ∈ branching.handles branchingActions ∧
    (∀ k ∈ mixedArgs.flatMap CallArg.handles, k ∈ branching.handles branchingActions) ∧
    (∃ x, (branching.run branchingActions).Builds true (.call ⟨0, ['i', 'f'], 0⟩ mixedArgs) x ∧
      x.source = "if0(\"a\\n\",if1,k=[1,None],_=if0)".toList) ∧
    ∃ e, (branching.run branchingActions).Refuses true
      (.call ⟨0, ['i', 'f'], 0⟩ [.keywords [], .positional .null]) e := by
  have hopen : Opened (fun _ => ['i', 'f']) (fun _ => false) branching := fun _ => rfl
  have hh : (⟨0, ['i', 'f'], 0⟩ : Handle) ∈ branching.handles branchingActions := by decide +kernel
  have hargs : ∀ k ∈ mixedArgs.flatMap CallArg.handles,
      k ∈ branching.handles branchingActions := by decide +kernel
  have hplain : ∀ k ∈ [CallArg.keywords [], .positional .null].flatMap CallArg.handles,
      k ∈ branching.handles branchingActions := by decide +kernel
  obtain ⟨-, -, -, hsource⟩ := calls_written_exactly hopen hh hargs true
  obtain ⟨hwrong, -⟩ := calls_written_exactly hopen hh hplain true
  refine ⟨hopen, hh, hargs, ?_, ?_⟩
  · have hx : (branching.run branchingActions).Builds true (.call ⟨0, ['i', 'f'], 0⟩ mixedArgs)
        ⟨"if0(\"a\\n\",if1,k=[1,None],_=if0)".toList, [⟨0, ['i', 'f'], 0⟩, ⟨0, ['i', 'f'], 1⟩]⟩ :=
      (builds_iff hopen branchingActions).2 (by decide +kernel)
    exact ⟨_, hx, (hsource _ hx).trans (by decide +kernel)⟩
  · obtain ⟨e, he, -⟩ := hwrong (Or.inl ⟨[], [], [.positional .null], rfl, List.cons_ne_nil _ _⟩)
    exact ⟨e, he⟩

end Program

end RemoteInterpreter
