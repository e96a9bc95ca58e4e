import RemoteInterpreter.Proofs.History

/-!
# Handles that are named

A draft, a template or a request names handles, among its arguments at any depth. The
errand that comes of it waits for every one of them, unless it was refused.
-/

namespace RemoteInterpreter

theorem Arg.mem_handlesOfItems {h : Handle} {args : List Arg} :
    h ∈ handlesOfItems args ↔ ∃ arg ∈ args, h ∈ arg.handles := by
  induction args with
  | nil => simp [handlesOfItems]
  | cons arg args ih => simp [handlesOfItems, ih]

namespace Template

/-- Every slot takes one argument, the one of its index. -/
theorem pick_spec {args : List Arg} {next : Nat} {slots : List Slot} {picked : List (Nat × Arg)}
    (h : pick args next slots = .ok picked) :
    picked.length = slots.length ∧ ∀ x ∈ picked, args[x.1]? = some x.2 := by
  fun_induction pick args next slots generalizing picked with
  | case1 => cases h; simp
  | case2 => cases h
  | case3 => cases h
  | case4 next rest arg harg ih =>
    obtain ⟨tail, htail, rfl⟩ := map_eq_ok_iff.1 h
    simpa [harg] using ih htail
  | case5 => cases h
  | case6 next i rest arg harg ih =>
    obtain ⟨tail, htail, rfl⟩ := map_eq_ok_iff.1 h
    simpa [harg] using ih htail

/-- Every slot is filled, with arguments only, and no argument is left over. -/
theorem fill_spec {t : Template} {args filled : List Arg} (h : t.fill args = .ok filled) :
    filled.length = t.slots.length ∧ ∀ arg, arg ∈ filled ↔ arg ∈ args := by
  unfold fill at h
  split at h
  · cases h
  · split at h
    · cases h
    · next picked hpicked =>
      obtain ⟨hlength, htaken⟩ := pick_spec hpicked
      split at h
      · cases h
      · next hnone =>
        cases h
        refine ⟨by rw [List.length_map, hlength], fun arg => ⟨fun harg => ?_, fun harg => ?_⟩⟩
        · obtain ⟨x, hx, rfl⟩ := List.mem_map.1 harg
          exact List.mem_of_getElem? (htaken x hx)
        · obtain ⟨i, hi⟩ := List.getElem?_of_mem harg
          have hrange : i ∈ List.range args.length :=
            List.mem_range.2 (List.getElem?_eq_some_iff.1 hi).1
          have hmem : i ∈ picked.map Prod.fst := by
            simpa using List.find?_eq_none.1 hnone i hrange
          obtain ⟨x, hx, rfl⟩ := List.mem_map.1 hmem
          have hx' := htaken x hx
          rw [hi] at hx'
          cases hx'
          exact List.mem_map_of_mem hx

theorem mem_handles_of_draft {text : Text} {args : List Arg} {d : Draft}
    (hd : draft text args = .ok d) {h : Handle} :
    h ∈ Arg.handlesOfItems d.args ↔ h ∈ Arg.handlesOfItems args := by
  unfold draft at hd
  split at hd
  · cases hd
  · split at hd
    · cases hd
    · next filled hfilled =>
      cases hd
      simp only [Arg.mem_handlesOfItems, (fill_spec hfilled).2]

/-- Every slot takes one argument, one of those with its name. -/
theorem pickNamed_spec {args : List (Text × Arg)} {slots : List Slot} {picked : List Arg}
    (h : pickNamed args slots = .ok picked) :
    picked.length = slots.length ∧ ∀ arg ∈ picked, arg ∈ args.map Prod.snd := by
  fun_induction pickNamed args slots generalizing picked with
  | case1 => cases h; simp
  | case2 => cases h
  | case3 name rest found hfound ih =>
    obtain ⟨tail, htail, rfl⟩ := map_eq_ok_iff.1 h
    obtain ⟨hlength, hmem⟩ := ih htail
    refine ⟨by simp [hlength], List.forall_mem_cons.2 ⟨?_, hmem⟩⟩
    obtain ⟨entry, hentry, rfl⟩ := Option.map_eq_some_iff.1 hfound
    exact List.mem_map_of_mem (List.mem_reverse.1 (List.mem_of_find?_eq_some hentry))
  | case4 => cases h

theorem fillNamed_spec {t : Template} {args : List (Text × Arg)} {filled : List Arg}
    (h : t.fillNamed args = .ok filled) :
    filled.length = t.slots.length ∧ ∀ arg ∈ filled, arg ∈ args.map Prod.snd := by
  unfold fillNamed at h
  split at h
  · cases h
  · next picked hpicked =>
    split at h
    · cases h
    · cases h
      exact pickNamed_spec hpicked

theorem mem_handles_of_namedDraft {text : Text} {args : List (Text × Arg)} {d : Draft}
    (hd : namedDraft text args = .ok d) {h : Handle} (hh : h ∈ Arg.handlesOfItems d.args) :
    h ∈ Arg.handlesOfItems (args.map Prod.snd) := by
  unfold namedDraft at hd
  split at hd
  · cases hd
  · split at hd
    · cases hd
    · next t _ filled hfilled =>
      cases hd
      obtain ⟨arg, harg, hmem⟩ := Arg.mem_handlesOfItems.1 hh
      exact Arg.mem_handlesOfItems.2 ⟨arg, (fillNamed_spec hfilled).2 arg harg, hmem⟩

end Template

namespace Session

variable {s : Session} {p : Party} {n : Nat} {a : Action} {as : List Action} {h : Handle}

/-- The handles of a request: its own, and all among its arguments. -/
def Request.handles : Request → List Handle
  | .resolved h | .force h => [h]
  | .execWith _ args | .evalWith _ args => Arg.handlesOfItems args
  | _ => []

/-- The handles that an action brings into the session. -/
def Action.handles : Action → List Handle
  | .build _ d => Arg.handlesOfItems d.args
  | .begin r => r.handles
  | _ => []

/-- The action makes a party, whose errand refers to the handle. -/
inductive Names : Party → Handle → Session → Action → Prop
  | building {s : Session} {running d x h} (compose : Expression.compose s.number d = .ok x)
      (mem : h ∈ Arg.handlesOfItems d.args) : Names (.binding s.built) h s (.build running d)
  | beginning {s : Session} {r h} (mem : h ∈ Request.handles r) :
    Names (.call s.begun) h s (.begin r)

theorem Names.mem_of_build {running : Bool} {d : Draft} (hn : Names p h s (.build running d)) :
    h ∈ Arg.handlesOfItems d.args := by
  cases hn with
  | building _ mem => exact mem

/-- No step makes a party that names handles. -/
theorem not_names_advance {q : Party} : ¬ Names p h s (.advance q) := by
  intro hn
  cases hn

theorem mem_uses_of_templated {session : Nat} {goal : Goal} {kind : Kind} {text : Text}
    {args : List Arg} (hh : h ∈ Arg.handlesOfItems args) :
    h.number ∈ (Call.templated session goal kind text args).errand.uses ∨
      ∃ e, (Call.templated session goal kind text args).errand.stage = .failed e := by
  unfold Call.templated
  split
  · exact Or.inr ⟨_, rfl⟩
  · next x hx =>
    obtain ⟨d, hd, hx⟩ := bind_eq_ok_iff.1 hx
    refine Or.inl (List.mem_map_of_mem ?_)
    exact (Expression.mem_uses_of_compose hx).2 ((Template.mem_handles_of_draft hd).2 hh)

/-- A new call waits for handles of its request only; those of a template are of the session. -/
theorem mem_handles_of_uses {session m : Nat} {r : Request}
    (hm : m ∈ (Call.ofRequest session r).errand.uses) :
    ∃ h ∈ r.handles, h.number = m ∧
      (h.session = session ∨ r = .resolved h ∨ r = .force h) := by
  have templated : ∀ {goal kind text args},
      m ∈ (Call.templated session goal kind text args).errand.uses →
      ∃ h ∈ Arg.handlesOfItems args, h.number = m ∧ h.session = session := by
    intro goal kind text args hm
    unfold Call.templated at hm
    split at hm
    · cases hm
    · next x hx =>
      obtain ⟨d, hd, hx⟩ := bind_eq_ok_iff.1 hx
      obtain ⟨h, hh, rfl⟩ := List.mem_map.1 hm
      have hmem := (Expression.mem_uses_of_compose hx).1 hh
      exact ⟨h, (Template.mem_handles_of_draft hd).1 hmem, rfl,
        Expression.session_of_compose hx hmem⟩
  cases r with
  | resolved h =>
    cases List.mem_singleton.1 hm
    exact ⟨h, List.mem_singleton_self _, rfl, Or.inr (Or.inl rfl)⟩
  | force h =>
    cases List.mem_singleton.1 hm
    exact ⟨h, List.mem_singleton_self _, rfl, Or.inr (Or.inr rfl)⟩
  | execWith text args =>
    obtain ⟨h, hh, hn, hs⟩ := templated hm
    exact ⟨h, hh, hn, Or.inl hs⟩
  | evalWith text args =>
    obtain ⟨h, hh, hn, hs⟩ := templated hm
    exact ⟨h, hh, hn, Or.inl hs⟩
  | importModule name =>
    unfold Call.ofRequest at hm
    dsimp only at hm
    split at hm <;> cases hm
  | _ => cases hm

/-- A new call waits for every handle that its request names, or it was refused. -/
theorem mem_uses_of_handles {session : Nat} {r : Request} (hh : h ∈ r.handles) :
    h.number ∈ (Call.ofRequest session r).errand.uses ∨
      ∃ e, (Call.ofRequest session r).errand.stage = .failed e := by
  cases r with
  | resolved k =>
    cases List.mem_singleton.1 hh
    exact Or.inl (List.mem_singleton_self _)
  | force k =>
    cases List.mem_singleton.1 hh
    exact Or.inl (List.mem_singleton_self _)
  | execWith text args => exact mem_uses_of_templated hh
  | evalWith text args => exact mem_uses_of_templated hh
  | _ => cases hh

/-- The party has been made, though its call may have been dropped since. -/
def Made : Party → Session → Prop
  | .binding n, s => n < s.built
  | .call n, s => n < s.begun

theorem Made.act (hm : s.Made p) (a : Action) : (s.act a).Made p := by
  have hext := extends_act s a
  cases p with
  | binding n => exact Nat.lt_of_lt_of_le hm hext.built
  | call n => exact Nat.lt_of_lt_of_le hm hext.begun

theorem Names.made (hn : Names p h s a) : (s.act a).Made p := by
  cases hn with
  | building compose =>
    show s.built < (s.act _).built
    simp [Session.act, Session.build, compose]
  | beginning => exact Nat.lt_succ_self _

theorem made_of_names (hn : Happens (Names p h) s as) : (s.run as).Made p := by
  induction as using List.reverseRecOn with
  | nil => exact absurd hn not_happens_nil
  | append_singleton as a ih =>
    rw [run_concat]
    rcases happens_concat.1 hn with hn | hn
    · exact (ih hn).act a
    · exact hn.made

/-- The errand of a party that was made before keeps its handles, and stays as it is if it has
ended. -/
theorem Turns.of_made {e' : Errand} (hm : s.Made p) (ht : Turns s p a e') :
    ∃ e, s.errand? p = some e ∧ e'.uses = e.uses ∧ (e' = e ∨ e.stage.result? = none) := by
  cases ht with
  | keeps errand => exact ⟨e', errand, rfl, Or.inl rfl⟩
  | builds party => subst party; exact absurd hm (Nat.lt_irrefl _)
  | imports party => subst party; exact absurd hm (Nat.lt_irrefl _)
  | begins party => subst party; exact absurd hm (Nat.lt_irrefl _)
  | moves errand moves => exact ⟨_, errand, rfl, Or.inr moves.result?_eq_none⟩
  | rewinds _ errand moves => exact ⟨_, errand, rfl, Or.inr moves.result?_eq_none⟩
  | stores _ errand stage => exact ⟨_, errand, rfl, Or.inr (by rw [stage]; rfl)⟩

/-- The errand that a naming action makes waits for what was named. -/
theorem Names.mem_uses {e : Errand} (hs : s.Sound) (hn : Names p h s a)
    (he : (s.act a).errand? p = some e) :
    h.number ∈ e.uses ∨ ∃ err, e.stage = .failed err := by
  have ht := turns_act he
  cases hn with
  | building compose mem =>
    cases ht with
    | keeps errand => rw [hs.no_errand_built] at errand; cases errand
    | builds _ compose' binds =>
      cases compose.symm.trans compose'
      have hmem := List.mem_map_of_mem (f := Handle.number)
        ((Expression.mem_uses_of_compose compose).2 mem)
      cases binds <;> exact Or.inl hmem
  | beginning mem =>
    cases ht with
    | keeps errand => rw [hs.no_errand_begun] at errand; cases errand
    | begins => exact mem_uses_of_handles mem

/-- An errand waits for every handle that was named when it was made, or it has failed. -/
theorem mem_uses_of_names {e : Errand} (hs : s.Sound) (hn : Happens (Names p h) s as)
    (he : (s.run as).errand? p = some e) :
    h.number ∈ e.uses ∨ ∃ err, e.stage = .failed err := by
  induction as using List.reverseRecOn generalizing e with
  | nil => exact absurd hn not_happens_nil
  | append_singleton as a ih =>
    rw [run_concat] at he
    rcases happens_concat.1 hn with hn | hn
    · obtain ⟨e₀, he₀, huses, hstage⟩ := (turns_act he).of_made (made_of_names hn)
      rcases ih hn he₀ with hmem | ⟨err, herr⟩
      · exact Or.inl (huses ▸ hmem)
      · rcases hstage with rfl | hnone
        · exact Or.inr ⟨err, herr⟩
        · rw [herr] at hnone
          cases hnone
    · exact hn.mem_uses (hs.run as) he

end Session

end RemoteInterpreter
