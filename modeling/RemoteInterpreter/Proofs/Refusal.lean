import RemoteInterpreter.Proofs.Lines

/-!
# What is built and what is refused

An operation that builds a handle makes a draft and composes it. So it gives a handle with this
expression, or it is refused with what is wrong with the draft, and nothing else can come of it.
-/

namespace RemoteInterpreter

/-- Among variables that are names, nothing but a handle from elsewhere, a fragment and a pasted
text is in the way. -/
theorem Expression.exists_compose_error_iff {session : Nat} {d : Draft} (balanced : d.Balanced)
    (hnamed : ∀ h ∈ Arg.handlesOfItems d.args, Identifier.isName h.name = true) :
    (∃ e, compose session d = .error e) ↔
      (∃ h ∈ Arg.handlesOfItems d.args, h.session ≠ session) ∨
        (∃ fragment ∈ d.fragments, fragment.breaksLine = true) ∨
        ∃ source ∈ Arg.rawsOfItems d.args, source.breaksLine = true := by
  have hline := breaksLine_interleave balanced hnamed
  by_cases hown : ∀ h ∈ Arg.handlesOfItems d.args, h.session = session
  · have hnone : ¬ ∃ h ∈ Arg.handlesOfItems d.args, h.session ≠ session :=
      fun ⟨h, hmem, hforeign⟩ => hforeign (hown h hmem)
    have hbreaks : (∃ e, compose session d = .error e) ↔
        (interleave d.fragments d.args).breaksLine = true := by
      constructor
      · rintro ⟨e, he⟩
        rcases (compose_eq_error_iff balanced).1 he with hcollect | ⟨-, hbreaks, -⟩
        · rw [collect_eq_ok_iff.2 ⟨hown, rfl⟩] at hcollect
          cases hcollect
        · exact hbreaks
      · exact fun hbreaks => ⟨_, (compose_eq_error_iff balanced).2 (Or.inr ⟨hown, hbreaks, rfl⟩)⟩
    rw [hbreaks, hline, Bool.or_eq_true, List.any_eq_true, List.any_eq_true, or_iff_right hnone]
  -- handles are looked at first, so a line end beside a handle from elsewhere does not matter
  · have hforeign : ∃ h ∈ Arg.handlesOfItems d.args, h.session ≠ session := by
      simpa using hown
    refine ⟨fun _ => Or.inl hforeign, fun _ => ?_⟩
    cases hx : compose session d with
    | error e => exact ⟨e, rfl⟩
    | ok x => exact absurd (fun h hh => session_of_compose hx hh) hown

/-! Operations of a program -/

namespace Construction

/-- The expression of the handle that is meant. -/
def composed (c : Construction) : Except UsageError Expression :=
  c.draft.bind (Expression.compose c.session)

theorem composed_eq_ok_iff {c : Construction} {x : Expression} : c.composed = .ok x ↔
    ∃ d, c.draft = .ok d ∧ Expression.compose c.session d = .ok x :=
  bind_eq_ok_iff

theorem composed_eq_error_iff {c : Construction} {e : UsageError} : c.composed = .error e ↔
    c.draft = .error e ∨ ∃ d, c.draft = .ok d ∧ Expression.compose c.session d = .error e :=
  bind_eq_error_iff

end Construction

namespace Program

variable {w : Program} {stem : Nat → Text} {debug : Nat → Bool} {running : Bool}
variable {c : Construction} {x : Expression} {e : UsageError}

/-- The operation gives a handle, and this is its expression. -/
def Builds (w : Program) (running : Bool) (c : Construction) (x : Expression) : Prop :=
  ∃ v h b, w.construct running c = (v, .ok h) ∧
    (v.session h.session).bindings h.number = some b ∧ b.expression = x

/-- The operation is refused, and nothing has changed. -/
def Refuses (w : Program) (running : Bool) (c : Construction) (e : UsageError) : Prop :=
  w.construct running c = (w, .error e)

theorem construct_eq (hopen : Opened stem debug w) (as : List Action) (running : Bool)
    (c : Construction) :
    (w.run as).construct running c =
      match c.composed with
      | .error e => (w.run as, .error e)
      | .ok x => ((w.run as).putSession c.session (((w.run as).session c.session).bind running x),
          .ok (((w.run as).session c.session).handleAt ((w.run as).session c.session).built)) := by
  have hnumber : ((w.run as).session c.session).number = c.session :=
    congrArg Handle.session (hopen.handleAt as c.session 0)
  unfold construct Construction.composed Session.build
  cases c.draft with
  | error e => rfl
  | ok d =>
    rw [hnumber]
    simp only [Except.bind]
    cases Expression.compose c.session d <;> rfl

theorem refuses_iff (hopen : Opened stem debug w) (as : List Action) :
    (w.run as).Refuses running c e ↔ c.composed = .error e := by
  rw [Refuses, construct_eq hopen]
  cases c.composed <;> simp

theorem builds_iff (hopen : Opened stem debug w) (as : List Action) :
    (w.run as).Builds running c x ↔ c.composed = .ok x := by
  rw [Builds, construct_eq hopen]
  cases hc : c.composed with
  | error e => simp
  | ok y =>
    obtain ⟨channel, b, hbinds, hbind⟩ :=
      Session.bind_eq running y ((w.run as).session c.session)
    have hexpression : b.expression = y := by cases hbinds <;> rfl
    have hat := hopen.handleAt as c.session
    constructor
    · rintro ⟨v, h, b', hv, hb', rfl⟩
      cases hv
      rw [hat] at hb'
      rw [session_putSession, if_pos rfl, hbind, Session.bindings_addBinding, if_pos rfl] at hb'
      cases hb'
      rw [hexpression]
    · intro hx
      refine ⟨_, _, b, rfl, ?_, hexpression.trans (Except.ok.inj hx)⟩
      rw [hat, session_putSession, if_pos rfl, hbind, Session.bindings_addBinding, if_pos rfl]

/-- What is wrong with a balanced draft whose handles were built. -/
theorem exists_refuses_iff (hopen : Opened stem debug w) {as : List Action} {d : Draft}
    (hd : c.draft = .ok d) (balanced : d.Balanced)
    (hbuilt : ∀ k ∈ Arg.handlesOfItems d.args, k ∈ w.handles as) :
    (∃ e, (w.run as).Refuses running c e) ↔
      (∃ k ∈ Arg.handlesOfItems d.args, k.session ≠ c.session) ∨
        (∃ fragment ∈ d.fragments, fragment.breaksLine = true) ∨
        ∃ source ∈ Arg.rawsOfItems d.args, source.breaksLine = true := by
  have hnamed := fun k hk => isName_of_mem_handles hopen (hbuilt k hk)
  have hcomposed : c.composed = Expression.compose c.session d := by
    rw [Construction.composed, hd]
    rfl
  simp only [refuses_iff hopen, hcomposed]
  exact Expression.exists_compose_error_iff balanced hnamed

/-- What is wrong with an operation on a handle, whose own fragments are on one line. -/
theorem exists_refuses_onHandle_iff (hopen : Opened stem debug w) {as : List Action} {d : Draft}
    {h : Handle} {args : List Arg} (hd : c.draft = .ok d) (balanced : d.Balanced)
    (hsession : c.session = h.session) (hargs : d.args = .handle h :: args)
    (hh : h ∈ w.handles as) (hbuilt : ∀ k ∈ Arg.handlesOfItems args, k ∈ w.handles as)
    (lines : ∀ fragment ∈ d.fragments, fragment.breaksLine = false) :
    (∃ e, (w.run as).Refuses running c e) ↔
      (∃ k ∈ Arg.handlesOfItems args, k.session ≠ h.session) ∨
        ∃ source ∈ Arg.rawsOfItems args, source.breaksLine = true := by
  have hhandles : Arg.handlesOfItems d.args = h :: Arg.handlesOfItems args := by
    simp [hargs, Arg.handlesOfItems, Arg.handles]
  have hraws : Arg.rawsOfItems d.args = Arg.rawsOfItems args := by
    simp [hargs, Arg.rawsOfItems, Arg.raws]
  have hfragments : ¬ ∃ fragment ∈ d.fragments, fragment.breaksLine = true := by
    rintro ⟨fragment, hmem, hbreaks⟩
    cases (lines fragment hmem).symm.trans hbreaks
  have hall : ∀ k ∈ Arg.handlesOfItems d.args, k ∈ w.handles as := by
    rw [hhandles]
    exact List.forall_mem_cons.2 ⟨hh, hbuilt⟩
  rw [exists_refuses_iff hopen hd balanced hall, hhandles, hraws, hsession,
    or_iff_right hfragments]
  simp

/-- Whatever is not refused is built. -/
theorem builds_or_refuses (hopen : Opened stem debug w) (as : List Action) (running : Bool)
    (c : Construction) :
    (∃ x, (w.run as).Builds running c x) ∨ ∃ e, (w.run as).Refuses running c e := by
  cases hc : c.composed with
  | error e => exact Or.inr ⟨e, (refuses_iff hopen as).2 hc⟩
  | ok x => exact Or.inl ⟨x, (builds_iff hopen as).2 hc⟩

end Program

end RemoteInterpreter
