import RemoteInterpreter.Proofs.Failure

/-!
# Joined handles

An errand goes on when all its handles are bound, and fails when it sees that one of them has
failed. Up to thirty handles are looked at all at once. More handles are looked at in order,
and a failure is overlooked while a handle before it is open.
-/

namespace RemoteInterpreter.Session

/-! How results stand together -/

namespace Joined

variable {rs : List (Option (Except Error Text))} {e : Error} {uses : List Nat}
variable {resolution resolution' : Nat → Option (Except Error Text)} {m : Nat}

theorem failed_of_mem_atOnce (h : some (.error e) ∈ rs) : ∃ e', atOnce rs = .failed e' := by
  fun_induction atOnce rs with
  | case1 => cases h
  | case2 => exact ⟨_, rfl⟩
  | case3 _ _ ih => exact ih (by simpa using h)
  | case4 => exact ⟨_, rfl⟩
  | case5 rest hne ih =>
    obtain ⟨e', he'⟩ := ih (by simpa using h)
    exact absurd he' (hne e')

theorem inOrder_append_none (h : ∀ x ∈ rs, ∀ e, x ≠ some (.error e))
    (after : List (Option (Except Error Text))) : inOrder (rs ++ none :: after) = .waiting := by
  induction rs with
  | nil => rfl
  | cons x rs ih =>
    have hrest := ih fun y hy => h y (List.mem_cons_of_mem _ hy)
    cases x with
    | none => rfl
    | some result =>
      cases result with
      | error e => exact absurd rfl (h _ List.mem_cons_self e)
      | ok text => exact hrest

theorem split_of_inOrder_waiting (h : inOrder rs = .waiting) :
    ∃ before after, rs = before ++ none :: after ∧ ∀ x ∈ before, ∃ text, x = some (.ok text) := by
  fun_induction inOrder rs with
  | case1 => cases h
  | case2 => cases h
  | case3 text rest ih =>
    obtain ⟨before, after, rfl, hok⟩ := ih h
    exact ⟨some (.ok text) :: before, after, rfl, by simpa using hok⟩
  | case4 rest => exact ⟨[], rest, rfl, by simp⟩

/-- Of more than thirty handles the first one that is not bound is open, and nobody looks behind
it. -/
def Overlooked (resolution : Nat → Option (Except Error Text)) (uses : List Nat) : Prop :=
  smallCount < uses.length ∧ ∃ before m after, uses = before ++ m :: after ∧
    resolution m = none ∧ ∀ i ∈ before, ∃ text, resolution i = some (.ok text)

theorem all_of_many (h : smallCount < uses.length) :
    all (uses.map resolution) = inOrder (uses.map resolution) := by
  rw [all, List.length_map, if_neg (by omega)]

theorem overlooked_of_waiting (hm : m ∈ uses) (hr : resolution m = some (.error e))
    (h : all (uses.map resolution) = .waiting) : Overlooked resolution uses := by
  have hmem : some (.error e) ∈ uses.map resolution := hr ▸ List.mem_map_of_mem hm
  by_cases hsmall : uses.length ≤ smallCount
  · obtain ⟨e', he'⟩ := failed_of_mem_atOnce hmem
    rw [all, List.length_map, if_pos hsmall, he'] at h
    cases h
  · have hmany : smallCount < uses.length := by omega
    rw [all_of_many hmany] at h
    obtain ⟨before, after, hsplit, hok⟩ := split_of_inOrder_waiting h
    obtain ⟨first, rest, rfl, rfl, hrest⟩ := List.map_eq_append_iff.1 hsplit
    obtain ⟨i, later, rfl, hi, -⟩ := List.map_eq_cons_iff.1 hrest
    refine ⟨hmany, first, i, later, rfl, hi, fun j hj => ?_⟩
    obtain ⟨text, ht⟩ := hok _ (List.mem_map_of_mem hj)
    exact ⟨text, ht⟩

/-- While a failure is overlooked now, nothing has failed before. -/
theorem Overlooked.waiting_before (h : Overlooked resolution' uses)
    (grows : ∀ m x, resolution m = some x → resolution' m = some x) :
    all (uses.map resolution) = .waiting := by
  obtain ⟨hmany, before, m, after, rfl, hm, hok⟩ := h
  have hopen : resolution m = none := by
    cases hx : resolution m with
    | none => rfl
    | some x =>
      rw [grows m x hx] at hm
      cases hm
  rw [all_of_many hmany, List.map_append, List.map_cons, hopen]
  refine inOrder_append_none (fun x hx e he => ?_) _
  obtain ⟨i, hi, rfl⟩ := List.mem_map.1 hx
  obtain ⟨text, ht⟩ := hok i hi
  rw [grows i _ he] at ht
  cases ht

theorem Overlooked.waiting (h : Overlooked resolution uses) :
    all (uses.map resolution) = .waiting :=
  h.waiting_before fun _ _ hx => hx

/-- A failure is overlooked from the beginning, or never. -/
theorem Overlooked.before (h : Overlooked resolution' uses)
    (grows : ∀ m x, resolution m = some x → resolution' m = some x) (hm : m ∈ uses)
    (hr : resolution m = some (.error e)) : Overlooked resolution uses :=
  overlooked_of_waiting hm hr (h.waiting_before grows)

end Joined

open Session.Joined (Overlooked)

variable {s : Session} {p : Party} {n m : Nat} {a : Action} {as : List Action} {e : Error}
variable {en : Errand} {k : Call} {number : Nat} {stem : Text} {debug : Bool}

/-! Errands and their handles -/

/-- The errand has left its handles behind. -/
def Stage.Passed : Stage → Prop
  | .sent _ | .parked _ | .cleared | .answered _ => True
  | _ => False

/-- One of these handles has failed with this error. -/
def Failing (s : Session) (uses : List Nat) (e : Error) : Prop :=
  ∃ m ∈ uses, s.resolution? m = some (.error e)

/-- The bindings of all these handles went well. -/
def AllBound (s : Session) (uses : List Nat) : Prop :=
  ∀ m ∈ uses, ∃ text, s.resolution? m = some (.ok text)

/-- An errand goes on only when all its handles are bound. It fails for them only with the failure
of one of them, which was not overlooked, or because nothing can run in the background. -/
structure Joins (p : Party) (en : Errand) (s : Session) (as : List Action) : Prop where
  passed : en.stage.Passed → AllBound (s.run as) en.uses
  failed : ∀ {e}, en.stage = .failed e → AllBound (s.run as) en.uses ∨
    (Failing (s.run as) en.uses e ∧ ¬ Overlooked (s.run as).resolution? en.uses) ∨
    ∃ n, p = .binding n ∧ e = .usage .outsideRuntime ∧ Happens (FailsAlone n e) s as

theorem Joins.of_no_uses (h : en.uses = []) : Joins p en s as :=
  ⟨fun _ => by simp [AllBound, h], fun _ => Or.inl (by simp [AllBound, h])⟩

theorem joins_of_waiting (passed : ¬ en.stage.Passed) (failed : ∀ e, en.stage ≠ .failed e) :
    Joins p en s as :=
  ⟨fun h => absurd h passed, fun h => absurd h (failed _)⟩

theorem Failing.act (hs : s.Sound) {uses : List Nat} (h : Failing s uses e) (a : Action) :
    Failing (s.act a) uses e := by
  obtain ⟨m, hm, hr⟩ := h
  exact ⟨m, hm, hs.resolution?_act hr a⟩

theorem AllBound.act (hs : s.Sound) {uses : List Nat} (h : AllBound s uses) (a : Action) :
    AllBound (s.act a) uses := by
  intro m hm
  obtain ⟨text, ht⟩ := h m hm
  exact ⟨text, hs.resolution?_act ht a⟩

theorem allBound_of_ready {uses : List Nat} (h : Joined.all (uses.map s.resolution?) = .ready) :
    AllBound s uses :=
  fun _ hm => Joined.ok_of_all_ready h _ (List.mem_map_of_mem hm)

theorem Failing.not_allBound {uses : List Nat} (h : Failing s uses e) : ¬ AllBound s uses := by
  obtain ⟨m, hm, hr⟩ := h
  intro hok
  obtain ⟨text, ht⟩ := hok m hm
  rw [hr] at ht
  cases ht

theorem Joins.concat (hs : (s.run as).Sound) (h : Joins p en s as) (a : Action) :
    Joins p en s (as ++ [a]) := by
  have hrun := run_concat s as a
  refine ⟨fun hp => hrun ▸ (h.passed hp).act hs a, fun hf => ?_⟩
  rcases h.failed hf with hok | ⟨hfailing, hseen⟩ | ⟨n, hp, he, hn⟩
  · exact Or.inl (hrun ▸ hok.act hs a)
  · refine Or.inr (Or.inl ⟨hrun ▸ hfailing.act hs a, fun ho => hseen ?_⟩)
    obtain ⟨m, hm, hr⟩ := hfailing
    rw [hrun] at ho
    exact ho.before (fun _ _ hx => hs.resolution?_act hx a) hm hr
  · exact Or.inr (Or.inr ⟨n, hp, he, hn.concat a⟩)

theorem Joins.moves (h : Joins p en s as) {resolution : Nat → Option (Except Error Text)}
    {c c' : Channel Party} {stage : Stage} (hres : resolution = (s.run as).resolution?)
    (hm : Errand.Moves p resolution c en c' stage) :
    Joins p { en with stage := stage } s as := by
  subst hres
  have ok : en.stage.Passed → Joins p { en with stage := stage } s as :=
    fun hp => ⟨fun _ => h.passed hp, fun _ => Or.inl (h.passed hp)⟩
  cases hm with
  | starts => exact joins_of_waiting id nofun
  | @inherits err hs joined =>
    refine ⟨False.elim, ?_⟩
    rintro _ ⟨⟩
    obtain ⟨m, hm, hr⟩ := List.mem_map.1 (Joined.mem_of_all_failed joined)
    refine Or.inr (Or.inl ⟨⟨m, hm, hr⟩, fun ho => ?_⟩)
    rw [ho.waiting] at joined
    cases joined
  | clears _ joined => exact ⟨fun _ => allBound_of_ready joined, nofun⟩
  | sends _ joined => exact ⟨fun _ => allBound_of_ready joined, nofun⟩
  | refused hs => exact ok (hs ▸ trivial)
  | takes hs => exact ok (hs ▸ trivial)
  | turnedAway hs => exact ok (hs ▸ trivial)
  | parks hs => exact ok (hs ▸ trivial)
  | collects hs => exact ok (hs ▸ trivial)
  | letDown hs => exact ok (hs ▸ trivial)

theorem Binds.joins (hs : (s.run as).Sound) {x : Expression} {running : Bool} {d : Draft}
    {c : Channel Party} {b : Binding} (compose : Expression.compose (s.run as).number d = .ok x)
    (h : Binds (s.run as) x running c b) :
    Joins (.binding (s.run as).built) b.errand s (as ++ [.build running d]) := by
  cases h with
  | outside =>
    refine ⟨False.elim, ?_⟩
    rintro _ ⟨⟩
    exact Or.inr (Or.inr ⟨_, rfl, rfl, .last (.outside compose rfl)⟩)
  | atOnce bound =>
    have ok : AllBound (s.run as) (Binding.uses x) := fun m hm => hs.isBound_iff.1 (bound m hm)
    exact Joins.concat hs ⟨fun _ => ok, fun hf => by cases hf⟩ _
  | deferred => exact joins_of_waiting id nofun

/-- A call that has failed as it began was refused for its request. -/
theorem refused_of_failed {session : Nat} {r : Request}
    (h : (Call.ofRequest session r).errand.stage = .failed e) :
    ∃ err, Call.ofRequest session r = Call.refused (.usage err) := by
  have templated : ∀ goal kind text args,
      (Call.templated session goal kind text args).errand.stage = .failed e →
      ∃ err, Call.templated session goal kind text args = Call.refused (.usage err) := by
    intro goal kind text args h
    unfold Call.templated at h ⊢
    split at h
    · exact ⟨_, rfl⟩
    · cases h
  cases r with
  | execWith text args => exact templated _ _ _ _ h
  | evalWith text args => exact templated _ _ _ _ h
  | importModule name =>
    unfold Call.ofRequest at h ⊢
    dsimp only at h ⊢
    split at h
    · cases h
    · next hname => exact ⟨_, if_neg hname⟩
  | _ => cases h

theorem joins_ofRequest (session : Nat) (r : Request) :
    Joins p (Call.ofRequest session r).errand s as := by
  rcases stage_ofRequest_cases session r with h | ⟨e, h⟩ | ⟨id, hr, -⟩
  · exact joins_of_waiting (by rw [h]; exact id) (by simp [h])
  · obtain ⟨err, heq⟩ := refused_of_failed h
    exact .of_no_uses (by rw [heq]; rfl)
  · rcases hr with rfl | rfl <;> exact .of_no_uses rfl

/-- What becomes of a call's errand with an action. -/
theorem Joins.proceeds (hs : (s.run as).Sound)
    (hrec : ∀ {n k}, (s.run as).calls n = some k → k.Recorded)
    (h : ∀ {k}, (s.run as).calls n = some k → Joins (.call n) k.errand s as)
    (hk : Proceeds (s.run as) n a k) : Joins (.call n) k.errand s (as ++ [a]) := by
  cases hk with
  | keeps call => exact (h call).concat hs a
  | begins => exact joins_ofRequest _ _
  | waits call _ moves => exact ((h call).moves rfl moves).concat hs _
  | ends call _ moves => exact ((h call).moves rfl moves).concat hs _
  | rewinds => exact joins_of_waiting id nofun
  | completes call => exact (h call).concat hs _
  | stores call => exact (h call).concat hs _
  | registers call _ goal => exact .of_no_uses ((hrec call).installs goal).1

theorem Joins.turns (hs : (s.run as).Sound)
    (h : ∀ {en}, (s.run as).errand? (.binding n) = some en → Joins (.binding n) en s as)
    (ht : Turns (s.run as) (.binding n) a en) : Joins (.binding n) en s (as ++ [a]) := by
  cases ht with
  | keeps errand => exact (h errand).concat hs a
  | builds party compose binds => exact party ▸ binds.joins hs compose
  | imports _ uses => exact .of_no_uses (by simp [Binding.errandAt, Binding.uses, uses])
  | begins party => cases party
  | moves errand moves => exact ((h errand).moves rfl moves).concat hs _
  | rewinds party => cases party
  | stores party => cases party

/-- Every errand joins its handles. -/
theorem joins_run (hopen : opened number stem debug = .ok s)
    (he : (s.run as).errand? p = some en) : Joins p en s as := by
  have hs := sound_opened hopen
  induction as using List.reverseRecOn generalizing p en with
  | nil =>
    rw [run_nil, errand?_opened hopen] at he
    cases he
  | append_singleton as a ih =>
    rw [run_concat] at he
    cases p with
    | binding n => exact Joins.turns (hs.run as) ih (turns_act he)
    | call n =>
      obtain ⟨k, hk, rfl⟩ := Option.map_eq_some_iff.1 he
      refine Joins.proceeds (hs.run as) (recorded_opened hopen as) (fun hk => ih ?_)
        (proceeds_act hk)
      rw [errand?_call, hk]
      rfl

end RemoteInterpreter.Session
