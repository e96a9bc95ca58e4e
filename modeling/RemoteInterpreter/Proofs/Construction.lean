import Mathlib.Data.List.Nodup
import RemoteInterpreter.Proofs.Assignment
import RemoteInterpreter.Proofs.Item
import RemoteInterpreter.Session.Construction

/-!
# Building is all or nothing

A building operation is refused and changes nothing, or it takes the next number of its
session. So the handles of a session are numbered in the order in which they were built,
their variables differ, and a handle is younger than every handle that it uses.
-/

namespace RemoteInterpreter

/-! Variables are no reserved words -/

/-- No reserved word ends in a digit. -/
theorem Identifier.isReserved_append_write (t : Text) (n : Nat) :
    isReserved (t ++ Numeral.write n) = false := by
  have no_digit : ∀ word ∈ reserved, word.getLast?.any Char.isDigit = false := by decide +kernel
  have hne : Numeral.write n ≠ [] := Nat.toDigits_ne_nil
  have hlast : (t ++ Numeral.write n).getLast? = some ((Numeral.write n).getLast hne) := by
    rw [List.getLast?_append, List.getLast?_eq_some_getLast hne]
    rfl
  rw [Bool.eq_false_iff]
  intro hreserved
  have hfalse := no_digit _ (List.contains_iff_mem.1 hreserved)
  rw [hlast, Option.any_some, Numeral.isDigit_of_mem_write (List.getLast_mem hne)] at hfalse
  cases hfalse

theorem Identifier.all_isPart_write (n : Nat) : (Numeral.write n).all isPart = true := by
  refine List.all_eq_true.2 fun c hc => ?_
  have hdigit := Numeral.isDigit_of_mem_write hc
  simp [isPart, Char.isAlphanum, hdigit]

/-- The variable of a handle can be written bare. -/
theorem Handle.isName_name {h : Handle} (hstem : Identifier.isIdentifier h.stem = true) :
    Identifier.isName h.name = true := by
  rw [Identifier.isName, name, Identifier.isReserved_append_write,
    Identifier.isIdentifier_append hstem (Identifier.all_isPart_write _)]
  rfl

theorem Handle.same_iff {h k : Handle} (hs : h.session = k.session → h.stem = k.stem) :
    h.same k = true ↔ h = k := by
  constructor
  · intro hsame
    simp only [same, Bool.and_eq_true, beq_iff_eq] at hsame
    have hstem := hs hsame.1
    have hnumber := name_injective hstem hsame.2
    cases h
    cases k
    simp_all
  · rintro rfl
    simp [same]

/-! What a draft is made of -/

theorem Draft.mem_handles_onHandle {h k : Handle} {fragments : List Text} {args : List Arg} :
    k ∈ Arg.handlesOfItems (onHandle h fragments args).args ↔
      k = h ∨ k ∈ Arg.handlesOfItems args := by
  simp [onHandle, Arg.handlesOfItems, Arg.handles]

theorem Draft.mem_handles_attr {h k : Handle} {name : Text} :
    k ∈ Arg.handlesOfItems (attr h name).args ↔ k = h := by
  unfold attr
  split <;> simp [mem_handles_onHandle, Arg.handlesOfItems]

theorem Draft.mem_handles_subscript {h k : Handle} {key : Arg} :
    k ∈ Arg.handlesOfItems (subscript h key).args ↔ k = h ∨ k ∈ key.handles := by
  simp [subscript, mem_handles_onHandle, Arg.handlesOfItems]

theorem Draft.mem_handles_item {h k : Handle} {key : Arg} :
    k ∈ Arg.handlesOfItems (item h key).args ↔ k = h ∨ k ∈ key.handles := by
  unfold item
  split
  · split <;> simp [mem_handles_attr, mem_handles_subscript, Arg.handles]
  · exact mem_handles_subscript

/-- A draft has no handles but those that the caller passes. -/
theorem Construction.mem_handles_of_draft {c : Construction} {d : Draft} (hd : c.draft = .ok d)
    {k : Handle} (hk : k ∈ Arg.handlesOfItems d.args) : k ∈ c.handles := by
  cases c with
  | expr => cases hd; exact hk
  | format => exact (Template.mem_handles_of_draft hd).1 hk
  | formatNamed => exact Template.mem_handles_of_namedDraft hd hk
  | attr => cases hd; exact List.mem_singleton.2 (Draft.mem_handles_attr.1 hk)
  | index => cases hd; exact List.mem_cons.2 (Draft.mem_handles_subscript.1 hk)
  | item => cases hd; exact List.mem_cons.2 (Draft.mem_handles_item.1 hk)
  | raw h template args =>
    obtain ⟨filled, hfilled, rfl⟩ := map_eq_ok_iff.1 hd
    rcases Draft.mem_handles_onHandle.1 hk with rfl | hk
    · exact List.mem_cons_self
    · exact List.mem_cons_of_mem _ ((Template.mem_handles_of_draft hfilled).1 hk)
  | call h args =>
    obtain ⟨items, hitems, hd⟩ := bind_eq_ok_iff.1 hd
    cases hd
    rcases Draft.mem_handles_onHandle.1 hk with rfl | hk
    · exact List.mem_cons_self
    · rw [CallArg.eq_of_items hitems, CallArg.map_snd_flatMap_itemsOf] at hk
      exact List.mem_cons_of_mem _ (CallArg.mem_handlesOfItems_values.1 hk)
  | binary => cases hd; simpa [Draft.binary, Arg.handlesOfItems, Arg.handles, handles] using hk
  | negated => cases hd; simpa [Draft.negated, Arg.handlesOfItems, Arg.handles, handles] using hk

namespace Session

variable {s t : Session} {n : Nat} {a : Action} {b : Binding} {k : Call} {h : Handle}

theorem eq_of_opened {number : Nat} {stem : Text} {debug : Bool}
    (hopen : opened number stem debug = .ok s) :
    s = ⟨number, stem, .opened debug, fun _ => none, 0, fun _ => none, 0, []⟩ := by
  unfold opened at hopen
  split at hopen
  · cases hopen; rfl
  · cases hopen

/-! What one action builds -/

theorem Settles.built (hs : Settles s n k t) : t.built = s.built ∨ t.built = s.built + 1 := by
  cases hs with
  | evaluates => exact Or.inl (built_markEvaluated _ s)
  | imports => exact Or.inr (built_bind _ _ s)
  | _ => exact Or.inl rfl

theorem built_act (s : Session) (a : Action) :
    (s.act a).built = s.built ∨ (s.act a).built = s.built + 1 := by
  have ha := acts_act s a
  generalize s.act a = t at ha
  cases ha with
  | builds => exact Or.inr (built_bind _ _ s)
  | @stores n k e rest =>
    have hst := stores_store n k e rest s
    generalize s.store n k e rest = t at hst
    cases hst <;> exact Or.inl rfl
  | settles _ _ _ hs => exact hs.built
  | _ => exact Or.inl rfl

/-- The handle that an action builds. -/
def made? (s : Session) (a : Action) : Option Handle :=
  if s.built < (s.act a).built then some (s.handleAt s.built) else none

theorem made?_of_build {running : Bool} {d : Draft} {x : Expression}
    (hx : Expression.compose s.number d = .ok x) :
    s.made? (.build running d) = some (s.handleAt s.built) := by
  simp [made?, act, build, hx]

/-- Two ways in which the expression of a handle comes to stand: it did before, or it has just been
built. -/
def Composed (s : Session) (n : Nat) (a : Action) (x : Expression) : Prop :=
  (∃ b, s.bindings n = some b ∧ b.expression = x) ∨
    (n = s.built ∧ ∀ h ∈ x.uses, h ∈ a.handles ∧ h.session = s.number)

theorem composed_of_bind {running : Bool} {x : Expression}
    (hx : ∀ h ∈ x.uses, h ∈ a.handles ∧ h.session = s.number)
    (hb : (s.bind running x).bindings n = some b) : Composed s n a b.expression := by
  obtain ⟨c, b', hbinds, hbind⟩ := bind_eq running x s
  rw [hbind, bindings_addBinding] at hb
  split at hb
  · next hn =>
    cases hb
    cases hbinds <;> exact Or.inr ⟨hn, hx⟩
  · exact Or.inl ⟨b, hb, rfl⟩

theorem composed_act (hb : (s.act a).bindings n = some b) : Composed s n a b.expression := by
  have ha := acts_act s a
  generalize s.act a = t at ha hb
  cases ha with
  | builds compose =>
    refine composed_of_bind (fun h hh => ?_) hb
    have hmem := (Expression.mem_uses_of_compose compose).1 hh
    exact ⟨hmem, Expression.session_of_compose compose hmem⟩
  | binds =>
    rw [bindings_moved] at hb
    split at hb
    · next hp =>
      obtain ⟨b', hb', rfl⟩ := Option.map_eq_some_iff.1 hb
      exact Or.inl ⟨b', hb', rfl⟩
    · exact Or.inl ⟨b, hb, rfl⟩
  | @stores n k e rest =>
    have hst := stores_store n k e rest s
    generalize s.store n k e rest = t at hst hb
    cases hst <;> exact Or.inl ⟨b, hb, rfl⟩
  | @settles m _ c stage _ _ _ _ hs =>
    -- a step of a call leaves the bindings alone, until its answer is looked at
    cases hs with
    | evaluates =>
      rw [bindings_putCall, bindings_markEvaluated] at hb
      split at hb
      · obtain ⟨b', hb', rfl⟩ := Option.map_eq_some_iff.1 hb
        exact Or.inl ⟨b', hb', rfl⟩
      · exact Or.inl ⟨b, hb, rfl⟩
    | imports _ _ compose =>
      have hbind : Composed (s.moved (.call m) c stage) n (.advance (.call m)) b.expression := by
        refine composed_of_bind (fun h hh => ?_) hb
        cases (Expression.mem_uses_of_compose compose).1 hh
      exact hbind
    | _ => exact Or.inl ⟨b, hb, rfl⟩
  | _ => exact Or.inl ⟨b, hb, rfl⟩

theorem Goal.Gives.of_handle {goal : Goal} {stage : Stage}
    (hg : goal.Gives stage (.ok (.handle h))) : ∃ text, stage.result? = some (.ok text) := by
  cases hg with
  | concludes _ passed => exact ⟨_, passed⟩
  | imports passed => exact ⟨_, passed⟩

theorem Goal.Concludes.ne_handle {registry : Registry} {text : Text} {goal : Goal}
    {x : Except Error Answer} (hc : goal.Concludes registry text x) : x ≠ .ok (.handle h) := by
  cases hc <;> exact nofun

theorem result_ofRequest_ne_handle (session : Nat) (r : Request) :
    (Call.ofRequest session r).result ≠ some (.ok (.handle h)) := by
  intro hresult
  obtain ⟨text, passed⟩ := ((Call.Recorded.ofRequest session r).ended hresult).of_handle
  rcases stage_ofRequest_cases session r with hs | ⟨e, hs⟩ | ⟨id, -, hs⟩ <;>
  · rw [hs] at passed
    cases passed

/-- A result was there before, or it is that of the call that is put down. -/
theorem result?_of_putCall {m : Nat} {x : Except Error Answer}
    (others : ∀ i, i ≠ m → t.calls i = s.calls i) (hx : (t.putCall m k).result? n = some x) :
    s.result? n = some x ∨ k.result = some x := by
  by_cases hn : n = m
  · subst hn
    rw [result?_putCall] at hx
    exact Or.inr hx
  · rw [result?, calls_putCall, put_other _ _ hn, others n hn] at hx
    exact Or.inl hx

theorem result?_of_settles {m : Nat} {c : Channel Party} {stage : Stage} (live : k.result = none)
    (call : s.calls m = some k) (hs : Settles (s.moved (.call m) c stage) m (k.atStage stage) t)
    (hr : t.result? n = some (.ok (.handle h))) :
    s.result? n = some (.ok (.handle h)) ∨ (s.built < t.built ∧ h = s.handleAt s.built) := by
  have others : ∀ i, i ≠ m → (s.moved (.call m) c stage).calls i = s.calls i := by
    intro i hi
    rw [calls_moved, if_neg (by simpa using Ne.symm hi)]
  cases hs with
  | waits =>
    by_cases hn : n = m
    · subst hn
      rw [result?, calls_moved, if_pos rfl, call] at hr
      cases live.symm.trans hr
    · rw [result?, others n hn] at hr
      exact Or.inl hr
  | shows => exact (result?_of_putCall others hr).imp_right fun h => by cases h
  | fails => exact (result?_of_putCall others hr).imp_right fun h => by cases h
  | concludes _ _ concludes =>
    exact (result?_of_putCall others hr).imp_right
      fun h => absurd (Option.some.inj h) concludes.ne_handle
  | @evaluates _ i v =>
    have hmark : ∀ j, j ≠ m →
        ((s.moved (.call m) c stage).markEvaluated i).calls j = s.calls j := by
      intro j hj
      rw [calls_markEvaluated, others j hj]
    exact (result?_of_putCall hmark hr).imp_right fun h => by cases h
  | misnamed => exact (result?_of_putCall others hr).imp_right fun h => by cases h
  | @imports _ _ x =>
    have hbind : ∀ i, i ≠ m → ((s.moved (.call m) c stage).bind true x).calls i = s.calls i := by
      intro i hi
      rw [calls_bind, others i hi]
    rcases result?_of_putCall hbind hr with hr | hr
    · exact Or.inl hr
    · cases hr
      exact Or.inr ⟨by simp, rfl⟩
  | goesOn =>
    refine (result?_of_putCall others hr).imp_right fun h => ?_
    cases live.symm.trans h

/-- A call that ends with a handle has just built it. -/
theorem result?_act (hr : (s.act a).result? n = some (.ok (.handle h))) :
    s.result? n = some (.ok (.handle h)) ∨ s.made? a = some h := by
  have ha := acts_act s a
  have hmade : s.built < (s.act a).built → s.made? a = some (s.handleAt s.built) :=
    fun hlt => if_pos hlt
  generalize s.act a = t at ha hr hmade
  cases ha with
  | builds =>
    rw [result?, calls_bind] at hr
    exact Or.inl hr
  | begins r =>
    have others : ∀ i, i ≠ s.begun → s.calls i = s.calls i := fun _ _ => rfl
    exact (result?_of_putCall others hr).imp_right
      fun h => absurd h (result_ofRequest_ne_handle _ r)
  | drops m =>
    by_cases hn : n = m
    · simp [result?, drop, hn] at hr
    · exact Or.inl (by simpa [result?, drop, hn] using hr)
  | completes => exact (result?_of_putCall (fun _ _ => rfl) hr).imp_right fun h => by cases h
  | @stores m k e rest _ live =>
    have hst := stores_store m k e rest s
    generalize s.store m k e rest = t at hst hr
    cases hst <;>
    · refine (result?_of_putCall (fun _ _ => rfl) hr).imp_right fun h => ?_
      cases live.symm.trans h
  | settles call live _ hs =>
    rcases result?_of_settles live call hs hr with hr | ⟨hlt, rfl⟩
    · exact Or.inl hr
    · exact Or.inr (hmade hlt)
  | _ => exact Or.inl hr

end Session

namespace Program

variable {w : Program} {a : Action} {as : List Action} {h k : Handle} {i n : Nat}
variable {stem : Nat → Text} {debug : Nat → Bool} {given : List Handle}

/-- The handle that an action builds, whether for a caller or with an import. -/
def made? (w : Program) : Action → Option Handle
  | .step i a => (w.session i).made? a
  | .construct running c => (w.construct running c).2.toOption

/-- The handles that are built in a run, in their order. -/
def handles (w : Program) : List Action → List Handle
  | [] => []
  | a :: as => (w.made? a).toList ++ (w.act a).handles as

/-- The handles that a caller passes. -/
def Action.handles : Action → List Handle
  | .step _ a => a.handles
  | .construct _ c => c.handles

/-- Callers pass only handles that they were given, or that have been built since. -/
def Held (w : Program) (given : List Handle) : List Action → Prop
  | [] => True
  | a :: as => (∀ h ∈ a.handles, h ∈ given) ∧ (w.act a).Held (given ++ (w.made? a).toList) as

instance decidableHeld : ∀ (w : Program) (given : List Handle) (as : List Action),
    Decidable (w.Held given as)
  | _, _, [] => .isTrue trivial
  | w, given, a :: as =>
    have := decidableHeld (w.act a) (given ++ (w.made? a).toList) as
    inferInstanceAs (Decidable (_ ∧ _))

theorem run_concat (w : Program) (as : List Action) (a : Action) :
    w.run (as ++ [a]) = (w.run as).act a := by
  simp [run]

@[simp] theorem session_putSession (i : Nat) (s : Session) (w : Program) (j : Nat) :
    (w.putSession i s).session j = if j = i then s else w.session j := put_apply _ _ _ _

theorem handles_concat (w : Program) (as : List Action) (a : Action) :
    w.handles (as ++ [a]) = w.handles as ++ ((w.run as).made? a).toList := by
  induction as generalizing w with
  | nil => simp [handles]
  | cons b as ih => rw [List.cons_append, handles, handles, ih, run_cons, List.append_assoc]

theorem held_concat : w.Held given (as ++ [a]) ↔
    w.Held given as ∧ ∀ h ∈ a.handles, h ∈ given ++ w.handles as := by
  induction as generalizing w given with
  | nil => simp [Held, handles]
  | cons b as ih => rw [List.cons_append, Held, Held, ih, handles, and_assoc, List.append_assoc]

/-! One action -/

/-- A building operation is refused, or it binds the next variable of its session. -/
inductive Constructs (w : Program) (running : Bool) (c : Construction) :
    Program × Except UsageError Handle → Prop
  | refused (e) : Constructs w running c (w, .error e)
  | builds {d x} (draft : c.draft = .ok d)
      (compose : Expression.compose (w.session c.session).number d = .ok x) :
    Constructs w running c (w.putSession c.session ((w.session c.session).bind running x),
      .ok ((w.session c.session).handleAt (w.session c.session).built))

theorem constructs_construct (running : Bool) (c : Construction) (w : Program) :
    Constructs w running c (w.construct running c) := by
  unfold construct
  split
  · exact .refused _
  · next d hd =>
    unfold Session.build
    cases hx : Expression.compose (w.session c.session).number d with
    | error e => exact .refused e
    | ok x => exact .builds hd hx

/-- An action of a program is one of a session, or changes nothing. -/
inductive Acts (w : Program) (a : Action) : Option Handle → Program → Prop
  | idles : Acts w a none w
  | steps {i b} (handles : ∀ h ∈ b.handles, h ∈ a.handles) :
    Acts w a ((w.session i).made? b) (w.putSession i ((w.session i).act b))

theorem acts_act (w : Program) (a : Action) : Acts w a (w.made? a) (w.act a) := by
  cases a with
  | step => exact .steps fun _ h => h
  | construct running c =>
    have hc := constructs_construct running c w
    unfold made? act
    dsimp only
    generalize w.construct running c = result at hc
    cases hc with
    | refused => exact .idles
    | @builds d x draft compose =>
      have hact : (w.session c.session).act (.build running d) =
          (w.session c.session).bind running x := by
        simp only [Session.act, Session.build, compose]
      have hsteps : Acts w (.construct running c) ((w.session c.session).made? (.build running d))
          (w.putSession c.session ((w.session c.session).act (.build running d))) :=
        .steps fun _ => Construction.mem_handles_of_draft draft
      rwa [Session.made?_of_build compose, hact] at hsteps

/-- What every action of a session preserves holds of every session, wherever a run leads. -/
theorem run_preserves {I : Nat → Session → Prop} (step : ∀ i s a, I i s → I i (s.act a))
    (hw : ∀ i, I i (w.session i)) (as : List Action) (i : Nat) : I i ((w.run as).session i) := by
  induction as using List.reverseRecOn with
  | nil => exact hw i
  | append_singleton as a ih =>
    rw [run_concat]
    have ha := acts_act (w.run as) a
    generalize (w.run as).made? a = made, (w.run as).act a = t at ha
    cases ha with
    | idles => exact ih
    | @steps j b =>
      by_cases hi : i = j
      · subst hi
        simpa using step i _ b ih
      · simpa [hi] using ih

/-! Handles that were built -/

/-- All sessions of the program have just been opened. -/
def Opened (stem : Nat → Text) (debug : Nat → Bool) (w : Program) : Prop :=
  ∀ i, Session.opened i (stem i) (debug i) = .ok (w.session i)

theorem Opened.handleAt (hopen : Opened stem debug w) (as : List Action) (i n : Nat) :
    ((w.run as).session i).handleAt n = ⟨i, stem i, n⟩ := by
  refine run_preserves (I := fun i s => s.handleAt n = ⟨i, stem i, n⟩) ?_ ?_ as i
  · intro i s a hs
    rw [(Session.extends_act s a).handleAt, hs]
  · intro i
    rw [Session.eq_of_opened (hopen i)]
    rfl

/-- The handles of one session are numbered in the order in which they were built. -/
theorem filter_handles (hopen : Opened stem debug w) (as : List Action) (i : Nat) :
    (w.handles as).filter (·.session = i) =
      (List.range ((w.run as).session i).built).map (⟨i, stem i, ·⟩) := by
  induction as using List.reverseRecOn with
  | nil => simp [handles, Session.eq_of_opened (hopen i)]
  | append_singleton as a ih =>
    have hat := hopen.handleAt as
    rw [handles_concat, List.filter_append, ih, run_concat]
    have ha := acts_act (w.run as) a
    generalize (w.run as).made? a = made, (w.run as).act a = t at ha
    cases ha with
    | idles => simp
    | @steps j b =>
      by_cases hi : i = j
      · subst hi
        rcases Session.built_act ((w.run as).session i) b with hb | hb <;>
          simp [Session.made?, hb, hat, List.range_succ]
      · have hmade : ((((w.run as).session j).made? b).toList.filter (·.session = i)) = [] := by
          unfold Session.made?
          split
          · simp [hat, Ne.symm hi]
          · rfl
        rw [hmade, List.append_nil, session_putSession, if_neg hi]

theorem mem_handles_iff (hopen : Opened stem debug w) :
    h ∈ w.handles as ↔
      h.stem = stem h.session ∧ h.number < ((w.run as).session h.session).built := by
  have hmem : h ∈ w.handles as ↔ h ∈ (w.handles as).filter (·.session = h.session) := by simp
  rw [hmem, filter_handles hopen, List.mem_map]
  constructor
  · rintro ⟨n, hn, hh⟩
    rw [← hh]
    exact ⟨rfl, List.mem_range.1 hn⟩
  · rintro ⟨hstem, hn⟩
    exact ⟨h.number, List.mem_range.2 hn, by rw [← hstem]⟩

/-- No handle is built twice. -/
theorem nodup_handles (hopen : Opened stem debug w) (as : List Action) : (w.handles as).Nodup := by
  refine List.nodup_iff_count_le_one.2 fun h => ?_
  have hnodup : ((w.handles as).filter (·.session = h.session)).Nodup := by
    rw [filter_handles hopen]
    refine List.nodup_range.map fun m n hmn => ?_
    exact congrArg Handle.number hmn
  rw [← List.count_filter (p := (·.session = h.session)) (by simp)]
  exact List.nodup_iff_count_le_one.1 hnodup h

/-- As many handles of a session were built as its counter says. -/
theorem countP_handles (hopen : Opened stem debug w) (as : List Action) (i : Nat) :
    (w.handles as).countP (·.session = i) = ((w.run as).session i).built := by
  rw [List.countP_eq_length_filter, filter_handles hopen, List.length_map, List.length_range]

/-- Handles that were built are the same exactly if they were built at the same moment. -/
theorem same_iff_of_getElem? (hopen : Opened stem debug w) {m : Nat}
    (hm : (w.handles as)[m]? = some h) (hn : (w.handles as)[n]? = some k) :
    h.same k = true ↔ m = n := by
  have hstem := ((mem_handles_iff hopen).1 (List.mem_of_getElem? hm)).1
  have kstem := ((mem_handles_iff hopen).1 (List.mem_of_getElem? hn)).1
  rw [Handle.same_iff fun hs => by rw [hstem, kstem, hs]]
  constructor
  · rintro rfl
    exact (List.getElem?_inj (List.getElem?_eq_some_iff.1 hm).1 (nodup_handles hopen as)).1
      (hm.trans hn.symm)
  · rintro rfl
    exact Option.some.inj (hm.symm.trans hn)

/-! Handles that are used -/

/-- A handle uses only handles of its session that were built before it. -/
theorem uses_of_held (hopen : Opened stem debug w) (held : w.Held [] as) {b : Session.Binding}
    (hb : ((w.run as).session i).bindings n = some b) :
    ∀ k ∈ b.expression.uses, k ∈ w.handles as ∧ k.session = i ∧ k.number < n := by
  induction as using List.reverseRecOn generalizing b with
  | nil =>
    rw [run_nil, Session.eq_of_opened (hopen i)] at hb
    cases hb
  | append_singleton as a ih =>
    obtain ⟨hinit, hlast⟩ := held_concat.1 held
    have old : ∀ {b : Session.Binding}, ((w.run as).session i).bindings n = some b →
        ∀ k ∈ b.expression.uses, k ∈ w.handles (as ++ [a]) ∧ k.session = i ∧ k.number < n := by
      intro b hb k hk
      obtain ⟨hmem, hk⟩ := ih hinit hb k hk
      exact ⟨by rw [handles_concat]; exact List.mem_append_left _ hmem, hk⟩
    rw [run_concat] at hb
    have ha := acts_act (w.run as) a
    generalize (w.run as).made? a = made, (w.run as).act a = t at ha hb
    cases ha with
    | idles => exact old hb
    | @steps j b' handles =>
      by_cases hi : i = j
      · subst hi
        rw [session_putSession, if_pos rfl] at hb
        rcases Session.composed_act hb with ⟨b₀, hb₀, hexpression⟩ | ⟨hn, hnew⟩
        · rw [← hexpression]
          exact old hb₀
        · intro k hk
          obtain ⟨hmem, hsession⟩ := hnew k hk
          have hbuilt : k ∈ w.handles as := by simpa using hlast k (handles k hmem)
          have hnumber : ((w.run as).session i).number = i :=
            congrArg Handle.session (hopen.handleAt as i 0)
          rw [hnumber] at hsession
          refine ⟨by rw [handles_concat]; exact List.mem_append_left _ hbuilt, hsession, ?_⟩
          rw [hn, ← hsession]
          exact ((mem_handles_iff hopen).1 hbuilt).2
      · rw [session_putSession, if_neg hi] at hb
        exact old hb

/-- No handle uses itself, not through other handles either. -/
theorem uses_acyclic (hopen : Opened stem debug w) (held : w.Held [] as) (i n : Nat) :
    ¬ Relation.TransGen (Session.Uses ((w.run as).session i)) n n := by
  have older : ∀ {n m}, Session.Uses ((w.run as).session i) n m → m < n := by
    rintro n m ⟨b, hb, hm⟩
    obtain ⟨k, hk, rfl⟩ := List.mem_map.1 hm
    exact (uses_of_held hopen held hb k hk).2.2
  have descending : ∀ {n m}, Relation.TransGen (Session.Uses ((w.run as).session i)) n m →
      m < n := by
    intro n m h
    induction h with
    | single h => exact older h
    | tail _ h ih => exact Nat.lt_trans (older h) ih
  exact fun h => Nat.lt_irrefl n (descending h)

/-- Whoever gets a handle with an import gets one that was built. -/
theorem mem_handles_of_result? (hopen : Opened stem debug w)
    (hr : ((w.run as).session i).result? n = some (.ok (.handle h))) : h ∈ w.handles as := by
  induction as using List.reverseRecOn with
  | nil =>
    rw [run_nil, Session.eq_of_opened (hopen i)] at hr
    cases hr
  | append_singleton as a ih =>
    rw [handles_concat, List.mem_append]
    rw [run_concat] at hr
    have ha := acts_act (w.run as) a
    generalize (w.run as).made? a = made, (w.run as).act a = t at ha hr
    cases ha with
    | idles => exact Or.inl (ih hr)
    | @steps j b =>
      by_cases hi : i = j
      · subst hi
        rw [session_putSession, if_pos rfl] at hr
        rcases Session.result?_act hr with hr | hmade
        · exact Or.inl (ih hr)
        · exact Or.inr (by rw [hmade]; exact List.mem_singleton_self h)
      · rw [session_putSession, if_neg hi] at hr
        exact Or.inl (ih hr)

/-! The whole picture -/

/-- What a building operation comes to. Either it is refused, and everything is as before, or it
gives the handle whose number is how many handles the session has built before. -/
inductive AllOrNothing (stem : Nat → Text) (w : Program) (built : List Handle) (i : Nat) :
    Program × Except UsageError Handle → Prop
  | nothing (e) : AllOrNothing stem w built i (w, .error e)
  | all {w' h} (session : h.session = i)
      (name : h.name = stem i ++ Numeral.write (built.countP (·.session = i)))
      (counter : (w'.session i).built = (w.session i).built + 1)
      (others : ∀ j, j ≠ i → w'.session j = w.session j) :
    AllOrNothing stem w built i (w', .ok h)

theorem allOrNothing_construct (hopen : Opened stem debug w) (as : List Action) (running : Bool)
    (c : Construction) :
    AllOrNothing stem (w.run as) (w.handles as) c.session ((w.run as).construct running c) := by
  have hc := constructs_construct running c (w.run as)
  generalize (w.run as).construct running c = result at hc
  cases hc with
  | refused e => exact .nothing e
  | builds =>
    rw [hopen.handleAt]
    refine .all rfl ?_ (by simp) fun j hj => by simp [hj]
    rw [countP_handles hopen]
    rfl

/-- What is true of every handle that was built: its variable is an identifier and no reserved
word, and it uses handles that were built before it. -/
structure WellBuilt (w : Program) (built : List Handle) (h : Handle) : Prop where
  identifier : Identifier.isIdentifier h.name = true
  unreserved : Identifier.isReserved h.name = false
  uses : ∃ b, (w.session h.session).bindings h.number = some b ∧
    ∀ k ∈ b.expression.uses, k ∈ built ∧ k.session = h.session ∧ k.number < h.number

theorem wellBuilt_of_mem (hopen : Opened stem debug w) (held : w.Held [] as)
    (hh : h ∈ w.handles as) : WellBuilt (w.run as) (w.handles as) h := by
  obtain ⟨hstem, hnumber⟩ := (mem_handles_iff hopen).1 hh
  have hidentifier := Session.isIdentifier_opened (hopen h.session)
  rw [Session.eq_of_opened (hopen h.session)] at hidentifier
  have hname := Handle.isName_name (hstem ▸ hidentifier)
  simp only [Identifier.isName, Bool.and_eq_true, Bool.not_eq_true'] at hname
  have hsound : ((w.run as).session h.session).Sound :=
    run_preserves (fun _ _ a hs => hs.act a) (fun i => Session.sound_opened (hopen i)) as _
  obtain ⟨b, hb⟩ := hsound.binding_of_lt hnumber
  exact ⟨hname.1, hname.2, b, hb, uses_of_held hopen held hb⟩

/-- Building is all or nothing, in every session and after every run. The handles of a session
are told apart by their variables, which are identifiers and no reserved words whatever the stem
is; a handle uses older ones only, so there is no cycle; and two handles are the same exactly if
they were built at the same moment. -/
theorem building_is_all_or_nothing (hopen : Opened stem debug w) (held : w.Held [] as) :
    (∀ running c, AllOrNothing stem (w.run as) (w.handles as) c.session
      ((w.run as).construct running c)) ∧
    (∀ i n h, ((w.run as).session i).result? n = some (.ok (.handle h)) → h ∈ w.handles as) ∧
    (∀ h ∈ w.handles as, WellBuilt (w.run as) (w.handles as) h) ∧
    (∀ i n, ¬ Relation.TransGen (Session.Uses ((w.run as).session i)) n n) ∧
    (∀ (m n : Nat) h k, (w.handles as)[m]? = some h → (w.handles as)[n]? = some k →
      (h.session = k.session → h.name = k.name → m = n) ∧ (h.same k = true ↔ m = n)) ∧
    ∀ h k : Handle, h.same k = true → ∀ {α : Type} (hash : Text → α),
      h.hashWith hash = k.hashWith hash := by
  refine ⟨allOrNothing_construct hopen as, fun i n h => mem_handles_of_result? hopen,
    fun h => wellBuilt_of_mem hopen held, uses_acyclic hopen held, ?_, ?_⟩
  · intro m n h k hm hn
    have hsame := same_iff_of_getElem? hopen hm hn
    refine ⟨fun hsession hname => hsame.1 ?_, hsame⟩
    simp [Handle.same, hsession, hname]
  · intro h k hsame α hash
    simp only [Handle.same, Bool.and_eq_true, beq_iff_eq] at hsame
    rw [Handle.hashWith, Handle.hashWith, hsame.2]

/-- A program whose variables begin with a reserved word. -/
def branching : Program :=
  ⟨fun i => ⟨i, ['i', 'f'], .opened false, fun _ => none, 0, fun _ => none, 0, []⟩⟩

/-- Two sessions build a handle each. One more that would use both is refused, and one that uses
the first twice is built. -/
def branchingActions : List Action :=
  [.construct true (.expr 0 [['1']] []), .construct true (.format 1 ['2'] []),
    .construct true (.index ⟨0, ['i', 'f'], 0⟩ (.handle ⟨1, ['i', 'f'], 0⟩)),
    .construct true (.binary ⟨0, ['i', 'f'], 0⟩ .add (.handle ⟨0, ['i', 'f'], 0⟩))]

theorem building_is_all_or_nothing_branching :
    Opened (fun _ => ['i', 'f']) (fun _ => false) branching ∧
    branching.Held [] branchingActions ∧
    branching.handles branchingActions =
      [⟨0, ['i', 'f'], 0⟩, ⟨1, ['i', 'f'], 0⟩, ⟨0, ['i', 'f'], 1⟩] ∧
    WellBuilt (branching.run branchingActions) (branching.handles branchingActions)
      ⟨0, ['i', 'f'], 1⟩ ∧
    ¬ Relation.TransGen (Session.Uses ((branching.run branchingActions).session 0)) 1 1 := by
  have hopen : Opened (fun _ => ['i', 'f']) (fun _ => false) branching := fun _ => rfl
  have held : branching.Held [] branchingActions := by decide +kernel
  have hhandles : branching.handles branchingActions =
      [⟨0, ['i', 'f'], 0⟩, ⟨1, ['i', 'f'], 0⟩, ⟨0, ['i', 'f'], 1⟩] := by decide +kernel
  obtain ⟨-, -, hbuilt, hacyclic, -⟩ := building_is_all_or_nothing hopen held
  exact ⟨hopen, held, hhandles, hbuilt _ (by rw [hhandles]; decide), hacyclic 0 1⟩

end Program

end RemoteInterpreter
