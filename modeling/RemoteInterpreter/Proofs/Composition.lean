import RemoteInterpreter.Expression

/-!
# What is composed

A draft gives its expression exactly if it has one fragment more than arguments, all its handles
are of the session, and its text keeps to one line. There is one equivalence for each result, and
what else is known of an expression follows from them.
-/

namespace RemoteInterpreter

/-! Peeling results apart -/

section

variable {ε α β : Type} {x : Except ε α} {e : ε} {b : β}

theorem map_eq_ok_iff {f : α → β} : x.map f = .ok b ↔ ∃ a, x = .ok a ∧ f a = b := by
  cases x <;> simp [Except.map]

theorem exists_map_eq_ok_iff {f : α → β} : (∃ b, x.map f = .ok b) ↔ ∃ a, x = .ok a := by
  cases x <;> simp [Except.map]

theorem bind_eq_ok_iff {f : α → Except ε β} : x.bind f = .ok b ↔ ∃ a, x = .ok a ∧ f a = .ok b := by
  cases x <;> simp [Except.bind]

theorem bind_eq_error_iff {f : α → Except ε β} :
    x.bind f = .error e ↔ x = .error e ∨ ∃ a, x = .ok a ∧ f a = .error e := by
  cases x <;> simp [Except.bind]

end

/-! Drafts -/

/-- One fragment more than there are arguments. -/
def Draft.Balanced (d : Draft) : Prop := d.fragments.length = d.args.length + 1

namespace Expression

variable {session : Nat} {d : Draft} {args : List Arg} {uses : List Handle} {x : Expression}
variable {e : UsageError} {h : Handle}

theorem collect_eq_ok_iff : collect session args = .ok uses ↔
    (∀ h ∈ Arg.handlesOfItems args, h.session = session) ∧
      uses = distinct (Arg.handlesOfItems args) := by
  unfold collect
  dsimp only
  split
  · next h hfirst =>
    have hforeign : h.session ≠ session := by simpa using List.find?_some hfirst
    refine ⟨nofun, fun hall => absurd ?_ hforeign⟩
    exact hall.1 h (List.mem_of_find?_eq_some hfirst)
  · next hnone =>
    have hall : ∀ h ∈ Arg.handlesOfItems args, h.session = session := by
      simpa using List.find?_eq_none.1 hnone
    simp only [Except.ok.injEq, eq_comm (a := distinct _)]
    exact ⟨fun huses => ⟨hall, huses⟩, And.right⟩

theorem collect_eq_error_iff : collect session args = .error e ↔
    ∃ h, (Arg.handlesOfItems args).find? (fun h => h.session ≠ session) = some h ∧
      e = .foreignHandle h.name := by
  unfold collect
  dsimp only
  split
  · next h hfirst =>
    constructor
    · intro he
      exact ⟨h, hfirst, (Except.error.inj he).symm⟩
    · rintro ⟨h', hfirst', rfl⟩
      rw [Option.some.inj (hfirst'.symm.trans hfirst)]
  · next hnone =>
    refine ⟨nofun, ?_⟩
    rintro ⟨h, hfirst, -⟩
    cases hnone.symm.trans hfirst

theorem compose_eq_ok_iff : compose session d = .ok x ↔
    d.Balanced ∧ (∀ h ∈ Arg.handlesOfItems d.args, h.session = session) ∧
      (interleave d.fragments d.args).breaksLine = false ∧
      x = ⟨interleave d.fragments d.args, distinct (Arg.handlesOfItems d.args)⟩ := by
  constructor
  · intro hx
    unfold compose at hx
    split at hx
    · cases hx
    · next hlength =>
      have balanced := Decidable.of_not_not hlength
      split at hx
      · cases hx
      · next uses huses =>
        obtain ⟨hsession, rfl⟩ := collect_eq_ok_iff.1 huses
        dsimp only at hx
        split at hx
        · cases hx
        · next hline =>
          cases hx
          exact ⟨balanced, hsession, Bool.eq_false_iff.2 hline, rfl⟩
  · rintro ⟨balanced, hsession, hline, rfl⟩
    have hcollect := collect_eq_ok_iff.2 ⟨hsession, rfl⟩
    unfold compose
    rw [if_neg (fun hne => hne balanced), hcollect]
    simp [hline]

/-- With one fragment more than arguments, handles and line ends are all that matters. -/
theorem compose_eq_error_iff (balanced : d.Balanced) : compose session d = .error e ↔
    collect session d.args = .error e ∨
      ((∀ h ∈ Arg.handlesOfItems d.args, h.session = session) ∧
        (interleave d.fragments d.args).breaksLine = true ∧ e = .severalLines) := by
  unfold compose
  rw [if_neg (fun hne => hne balanced)]
  cases hcollect : collect session d.args with
  | error e' =>
    obtain ⟨h, hfirst, -⟩ := collect_eq_error_iff.1 hcollect
    have hforeign : h.session ≠ session := by simpa using List.find?_some hfirst
    have hmem := List.mem_of_find?_eq_some hfirst
    dsimp only
    refine ⟨fun he => Or.inl (congrArg _ (Except.error.inj he)), ?_⟩
    rintro (he | ⟨hall, -⟩)
    · exact congrArg _ (Except.error.inj he)
    · exact absurd (hall h hmem) hforeign
  | ok uses =>
    have hall := (collect_eq_ok_iff.1 hcollect).1
    dsimp only
    split
    · next hline =>
      refine ⟨fun he => Or.inr ⟨hall, hline, (Except.error.inj he).symm⟩, ?_⟩
      rintro (he | ⟨-, -, rfl⟩)
      · cases he
      · rfl
    · next hline => simp [hline]

theorem compose_ne_fragmentCount (balanced : d.Balanced) (session f a : Nat) :
    compose session d ≠ .error (.fragmentCount f a) := by
  intro hx
  rcases (compose_eq_error_iff balanced).1 hx with hcollect | ⟨-, -, he⟩
  · obtain ⟨h, -, he⟩ := collect_eq_error_iff.1 hcollect
    cases he
  · cases he

section

variable (hx : compose session d = .ok x)
include hx

/-- All handles of an expression are of its session. -/
theorem session_of_compose (hh : h ∈ Arg.handlesOfItems d.args) : h.session = session :=
  (compose_eq_ok_iff.1 hx).2.1 h hh

theorem source_of_compose : x.source = interleave d.fragments d.args := by
  obtain ⟨-, -, -, rfl⟩ := compose_eq_ok_iff.1 hx
  rfl

theorem breaksLine_of_compose : x.source.breaksLine = false := by
  rw [source_of_compose hx]
  exact (compose_eq_ok_iff.1 hx).2.2.1

theorem uses_of_compose : x.uses = distinct (Arg.handlesOfItems d.args) := by
  obtain ⟨-, -, -, rfl⟩ := compose_eq_ok_iff.1 hx
  rfl

theorem mem_uses_of_compose : h ∈ x.uses ↔ h ∈ Arg.handlesOfItems d.args := by
  rw [uses_of_compose hx, mem_distinct]

end

end Expression

end RemoteInterpreter
