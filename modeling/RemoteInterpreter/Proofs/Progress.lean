import RemoteInterpreter.Proofs.Failure
import RemoteInterpreter.Proofs.Naming

/-!
# No handle is stuck

When nothing in the background can move, every handle that is still open waits, by itself or
through handles that it uses, for the answer to a command that was sent. When the channel
is closed there is no such answer to wait for, so nothing is open, and every call that is
polled comes to its end.
-/

namespace RemoteInterpreter.Session

variable {s : Session} {p : Party} {n m : Nat} {a : Action} {as : List Action}
variable {number : Nat} {stem : Text} {debug : Bool}

/-! Handles are older than what uses them -/

/-- Handles come from building them: the handles of a session that an action brings in have been
built before, and a handle is awaited or forced in its own session. -/
structure Admissible (s : Session) (a : Action) : Prop where
  built : ∀ h ∈ a.handles, h.session = s.number → h.number < s.built
  own : ∀ h, a = .begin (.resolved h) ∨ a = .begin (.force h) → h.session = s.number

theorem admissible_of_handles (h : a.handles = []) : Admissible s a := by
  refine ⟨by simp [h], ?_⟩
  rintro k (rfl | rfl) <;> cases h

/-- The handles that a party waits for are older than the party. -/
def Older (s : Session) : Party → Nat → Prop
  | .binding n, m => m < n
  | .call _, m => m < s.built

/-- Nobody waits for a handle that is not there. -/
def Grounded (s : Session) : Prop :=
  ∀ p e, s.errand? p = some e → ∀ m ∈ e.uses, Older s p m

theorem Older.act (h : Older s p m) (a : Action) : Older (s.act a) p m := by
  cases p with
  | binding n => exact h
  | call n => exact Nat.lt_of_lt_of_le h (extends_act s a).built

theorem Grounded.act (h : Grounded s) (ha : Admissible s a) : Grounded (s.act a) := by
  intro p e' he' m hm
  refine Older.act ?_ a
  cases turns_act he' with
  | keeps errand => exact h p e' errand m hm
  | @builds running d x c b party compose binds =>
    subst party
    have hm : m ∈ Binding.uses x := by cases binds <;> exact hm
    obtain ⟨k, hk, rfl⟩ := List.mem_map.1 hm
    have hmem := (Expression.mem_uses_of_compose compose).1 hk
    exact ha.built k hmem (Expression.session_of_compose compose hmem)
  | imports _ uses =>
    rw [show Errand.uses _ = Binding.uses _ from rfl, Binding.uses, uses] at hm
    cases hm
  | begins party =>
    subst party
    obtain ⟨k, hk, rfl, hsession⟩ := mem_handles_of_uses hm
    refine ha.built k hk ?_
    rcases hsession with h | rfl | rfl
    · exact h
    · exact ha.own k (Or.inl rfl)
    · exact ha.own k (Or.inr rfl)
  | moves errand => exact h _ _ errand m hm
  | rewinds _ errand => exact h _ _ errand m hm
  | stores _ errand => exact h _ _ errand m hm

theorem grounded_run (h : Grounded s) (ha : Always Admissible s as) : Grounded (s.run as) := by
  induction as using List.reverseRecOn with
  | nil => exact h
  | append_singleton as a ih =>
    obtain ⟨hinit, hlast⟩ := always_concat.1 ha
    rw [run_concat]
    exact (ih hinit).act hlast

theorem grounded_opened (hopen : opened number stem debug = .ok s) : Grounded s := by
  intro p e he
  rw [errand?_opened hopen] at he
  cases he

/-! At rest -/

/-- Only handles that were built can have a step. -/
theorem Sound.atRest (h : s.Sound)
    (bindings : ∀ n < s.built, (s.advanceBinding? n).isNone = true)
    (writer : s.channel.write?.isNone = true) (reader : s.channel.read?.isNone = true) :
    s.AtRest := by
  refine ⟨fun n => ?_, Option.isNone_iff_eq_none.1 writer, Option.isNone_iff_eq_none.1 reader⟩
  rcases Nat.lt_or_ge n s.built with hn | hn
  · exact Option.isNone_iff_eq_none.1 (bindings n hn)
  · rw [advanceBinding?, (h.bindings n).2 hn]

/-- A handle's command was queued, and its binding is parked for the answer in an open table. -/
def Awaits (n : Nat) (s : Session) (as : List Action) : Prop :=
  ∃ b sent, (s.run as).bindings n = some b ∧ Happens (Queues (.binding n) sent) s as ∧
    sent.tag = .exec ∧ sent.text = Binding.source (s.handleAt n) b.expression ∧
    (s.run as).channel.pending.live? sent.id = some (.binding n) ∧
    (s.run as).channel.pending.closed = none

/-- Whoever is parked, and has no answer yet, is waited for in an open table. -/
theorem Sound.parked (h : s.Sound) {e : Errand} {id : Nat} (he : s.errand? p = some e)
    (hs : e.stage = .parked id) (ha : ∀ answer, s.channel.pending.place p ≠ .answered answer) :
    s.channel.pending.live? id = some p ∧ s.channel.pending.closed = none := by
  have hseat := h.seated p
  rw [he] at hseat
  have hplace : s.channel.pending.place p = .parked id := by
    simpa [Seated, hs, ha] using hseat
  exact ⟨h.table.live hplace, h.table.isOpen hplace⟩

theorem awaits_of_parked (hopen : opened number stem debug = .ok s) {b : Binding} {id : Nat}
    (hb : (s.run as).bindings n = some b) (hstage : b.errand.stage = .parked id)
    (ha : ∀ answer, (s.run as).channel.pending.place (.binding n) ≠ .answered answer) :
    Awaits n s as := by
  have hs := (sound_opened hopen).run as
  have he : (s.run as).errand? (.binding n) = some b.errand := by simp [hb]
  obtain ⟨hlive, hclosed⟩ := hs.parked he hstage ha
  have hpast : Past (.binding n) b.errand s as := past_run hopen as he
  obtain ⟨sent, rfl, hsent, htag, htext⟩ := sent_of_given hs hb (hpast.waiting (Or.inr hstage))
  exact ⟨b, sent, hb, hsent, htag, htext, hlive, hclosed⟩

/-- A binding without a step has ended, or waits for a handle, or for its answer. -/
theorem waits_of_advanceBinding? {b : Binding} (hb : s.bindings n = some b)
    (h : s.advanceBinding? n = none) :
    (∃ x, s.resolution? n = some x) ∨ (∃ m ∈ b.errand.uses, s.resolution? m = none) ∨
    ∃ id, b.errand.stage = .parked id ∧
      ∀ answer, s.channel.pending.place (.binding n) ≠ .answered answer := by
  have hadvance := advance?_of_advanceBinding? hb h
  rcases Errand.waits_of_advance?_eq_none hadvance with ⟨x, hx⟩ | ⟨-, hm⟩ | hparked
  · exact Or.inl ⟨x, by simp [resolution?, hb, Binding.resolution?, hx]⟩
  · exact Or.inr (Or.inl hm)
  · exact Or.inr (Or.inr hparked)

/-- At rest an open handle waits for an answer, by itself or through handles that it uses. -/
theorem awaits_of_atRest (hopen : opened number stem debug = .ok s)
    (ha : Always Admissible s as) (hrest : (s.run as).AtRest) {n : Nat}
    (hn : n < (s.run as).built) (hopen' : (s.run as).resolution? n = none) :
    ∃ m, Relation.ReflTransGen (Uses (s.run as)) n m ∧ Awaits m s as := by
  have hs := (sound_opened hopen).run as
  have hground := grounded_run (grounded_opened hopen) ha
  -- handles that are used are older
  induction n using Nat.strongRecOn with
  | ind n ih =>
    obtain ⟨b, hb⟩ := hs.binding_of_lt hn
    rcases waits_of_advanceBinding? hb (hrest.bindings n) with ⟨x, hx⟩ | ⟨m, hm, hr⟩ | ⟨id, hid, hp⟩
    · rw [hopen'] at hx
      cases hx
    · have hlt : m < n := hground (.binding n) b.errand (by simp [hb]) m hm
      obtain ⟨k, hk, hawaits⟩ := ih m hlt (Nat.lt_trans hlt hn) hr
      exact ⟨k, .head ⟨b, hb, (hs.recorded hb).uses ▸ hm⟩ hk, hawaits⟩
    · exact ⟨n, .refl, awaits_of_parked hopen hb hid hp⟩

/-- At rest on a closed channel no handle is open. -/
theorem resolved_of_closed (hopen : opened number stem debug = .ok s)
    (ha : Always Admissible s as) (hrest : (s.run as).AtRest)
    (hclosed : (s.run as).channel.isClosed = true) (hn : n < (s.run as).built) :
    ∃ x, (s.run as).resolution? n = some x := by
  cases hx : (s.run as).resolution? n with
  | some x => exact ⟨x, rfl⟩
  | none =>
    obtain ⟨m, -, b, sent, -, -, -, -, -, hnone⟩ := awaits_of_atRest hopen ha hrest hn hx
    simp [Channel.isClosed, Pending.isClosed, hnone] at hclosed

/-! Polling a call -/

/-- How many polls a call may still take on a closed channel. Every entry that is stored may be
followed by an answer that had arrived before. -/
def Call.patience (k : Call) : Nat :=
  match k.goal, k.errand.stage with
  | .installed entries, .held => 3 * entries.length
  | .installed entries, .parked _ => 3 * entries.length + 1
  | .installed entries, _ => 3 * entries.length + 2
  | _, .fresh => 4
  | _, .held => 3
  | _, .sent _ => 2
  | _, _ => 1

/-- On a closed channel a step with which a call goes on waiting takes some of its patience. -/
theorem patience_lt_of_waits {k : Call} {c : Channel Party} {stage : Stage} {reason : CloseReason}
    (closed : s.channel.pending.closed = some reason)
    (entries : ∀ entries, k.goal = .installed entries → k.errand.stage ≠ .held)
    (moves : Errand.Moves p s.resolution? s.channel k.errand c stage)
    (waiting : stage.result? = none) : (k.atStage stage).patience < k.patience := by
  cases moves with
  | starts hs =>
    show Call.patience ⟨k.goal, { k.errand with stage := .held }, k.result⟩ < _
    cases hg : k.goal <;> simp [Call.patience, hg, hs]
  | sends hs =>
    show Call.patience ⟨k.goal, { k.errand with stage := .sent _ }, k.result⟩ < _
    cases hg : k.goal with
    | installed es => exact absurd hs (entries es hg)
    | _ => simp [Call.patience, hg, hs]
  | parks _ _ isOpen => rw [closed] at isOpen; cases isOpen
  | inherits => cases waiting
  | clears => cases waiting
  | refused => cases waiting
  | takes => cases waiting
  | turnedAway => cases waiting
  | collects => cases waiting
  | letDown => cases waiting

/-- So does a step with which a pack goes on to its next entry. -/
theorem patience_lt_of_goesOn {k : Call} {c : Channel Party} {stage : Stage} {rest : List Entry}
    {text : Text} (goal : k.goal = .installed rest) (held : k.errand.stage ≠ .held)
    (moves : Errand.Moves p s.resolution? s.channel k.errand c stage)
    (passed : stage.result? = some (.ok text)) : (k.atStage .held).patience < k.patience := by
  show Call.patience ⟨k.goal, { k.errand with stage := .held }, k.result⟩ < _
  cases moves with
  | clears hs => exact absurd hs held
  | takes hs => simp [Call.patience, goal, hs]
  | collects hs => simp [Call.patience, goal, hs]
  | starts => cases passed
  | inherits => cases passed
  | sends => cases passed
  | refused => cases passed
  | turnedAway => cases passed
  | parks => cases passed
  | letDown => cases passed

/-- A poll of a call on a closed channel brings its result, or takes some of its patience. -/
theorem poll_of_closed (hs : s.Sound) {k : Call} {reason : CloseReason}
    (closed : s.channel.pending.closed = some reason) (call : s.calls n = some k)
    (hrec : k.Recorded) (live : k.result = none)
    (uses : ∀ m ∈ k.errand.uses, ∃ x, s.resolution? m = some x) :
    ∃ k', (s.act (.advance (.call n))).calls n = some k' ∧
      (k'.result ≠ none ∨ k'.patience < k.patience) := by
  by_cases hheld : ∃ entries, k.goal = .installed entries ∧ k.errand.stage = .held
  · obtain ⟨entries, hg, hst⟩ := hheld
    cases entries with
    | nil =>
      refine ⟨k.finished (.ok .done), ?_, Or.inl (Option.some_ne_none _)⟩
      simp [act, advance?, advanceCall?, call, live, hg, hst]
    | cons e rest =>
      have hact : s.act (.advance (.call n)) = s.store n k e rest := by
        simp [act, advance?, advanceCall?, call, live, hg, hst]
      have hstore := stores_store n k e rest s
      rw [hact]
      generalize s.store n k e rest = t at hstore
      cases hstore with
      | silently =>
        refine ⟨_, by rw [calls_putCall, put_same], Or.inr ?_⟩
        simp [Call.patience, hg, hst]
      | sending =>
        refine ⟨_, by rw [calls_putCall, put_same], Or.inr ?_⟩
        simp only [Call.patience, Call.atStage, hg, hst, List.length_cons]
        omega
  · have entries : ∀ entries, k.goal = .installed entries → k.errand.stage ≠ .held :=
      fun entries hg hst => hheld ⟨entries, hg, hst⟩
    cases hm : k.errand.advance? (.call n) s.resolution? s.channel with
    | none =>
      rcases Errand.waits_of_advance?_eq_none hm with ⟨x, hx⟩ | ⟨-, m, hm, hr⟩ | ⟨id, hid, ha⟩
      · rw [hrec.live live] at hx
        cases hx
      · obtain ⟨x, hx⟩ := uses m hm
        rw [hr] at hx
        cases hx
      · have hnone := (hs.parked (by simp [call]) hid ha).2
        rw [closed] at hnone
        cases hnone
    | some x =>
      obtain ⟨c, stage⟩ := x
      have moves := Errand.moves_of_advance? hm
      have hsettles := settles_advanceCall call live entries hm
      have own : (s.moved (.call n) c stage).calls n = some (k.atStage stage) := by
        rw [calls_moved, if_pos rfl, call]
        rfl
      generalize s.act (.advance (.call n)) = t at hsettles
      cases hsettles with
      | waits waiting => exact ⟨_, own, Or.inr (patience_lt_of_waits closed entries moves waiting)⟩
      | goesOn goal passed =>
        refine ⟨_, by rw [calls_putCall, put_same], Or.inr ?_⟩
        have hgoal : k.goal = .installed _ := goal
        exact patience_lt_of_goesOn hgoal (entries _ hgoal) moves passed
      | _ => exact ⟨_, by rw [calls_putCall, put_same], Or.inl (Option.some_ne_none _)⟩

/-- On a closed channel a call that waits for ended handles only comes to its end when polled. -/
theorem ends_of_closed (hs : s.Sound) {k : Call} {reason : CloseReason}
    (closed : s.channel.pending.closed = some reason)
    (hrec : ∀ {k}, s.calls n = some k → k.Recorded) (call : s.calls n = some k)
    (uses : ∀ m ∈ k.errand.uses, ∃ x, s.resolution? m = some x) :
    ∃ polls x, (s.run (List.replicate polls (.advance (.call n)))).result? n = some x := by
  induction hp : k.patience using Nat.strongRecOn generalizing s k with
  | ind patience ih =>
    cases hr : k.result with
    | some x => exact ⟨0, x, by simp [result?, call, hr]⟩
    | none =>
      obtain ⟨k', call', hk'⟩ := poll_of_closed hs closed call (hrec call) hr uses
      rcases hk' with hresult | hlt
      · obtain ⟨x, hx⟩ := Option.ne_none_iff_exists'.1 hresult
        exact ⟨1, x, by simp [result?, call', hx]⟩
      · have hkept : k'.errand.uses = k.errand.uses := by
          have ht : Turns s (.call n) (.advance (.call n)) k'.errand := turns_act (by simp [call'])
          exact (ht.kept hs (by simp [call])).1
        have uses' : ∀ m ∈ k'.errand.uses,
            ∃ x, (s.act (.advance (.call n))).resolution? m = some x := by
          intro m hm
          obtain ⟨x, hx⟩ := uses m (hkept ▸ hm)
          exact ⟨x, hs.resolution?_act hx _⟩
        obtain ⟨polls, x, hx⟩ := ih k'.patience (hp ▸ hlt) (hs.act _) (closed_act closed _)
          (fun hk => .proceeds hrec (proceeds_act hk)) call' uses' rfl
        exact ⟨polls + 1, x, by rw [List.replicate_succ, run_cons]; exact hx⟩

/-! The whole picture -/

/-- When nothing in the background can move, every handle that is neither bound nor failed waits,
by itself or through handles that it uses, for the answer to its assignment in the open table.
When the channel is closed besides, every handle has ended, and every call ends when polled. -/
theorem no_handle_is_stuck (hopen : opened number stem debug = .ok s)
    (ha : Always Admissible s as) (hrest : (s.run as).AtRest) :
    (∀ n b, (s.run as).bindings n = some b → b.state.isBound = false → b.state ≠ .failed →
      ∃ m, Relation.ReflTransGen (Uses (s.run as)) n m ∧ Awaits m s as) ∧
    ((s.run as).channel.isClosed = true →
      (∀ n < (s.run as).built, ∃ x, (s.run as).resolution? n = some x) ∧
      ∀ n k, (s.run as).calls n = some k → ∃ polls x,
        ((s.run as).run (List.replicate polls (.advance (.call n)))).result? n = some x) := by
  have hs := (sound_opened hopen).run as
  refine ⟨?_, fun hclosed => ⟨?_, ?_⟩⟩
  · intro n b hb hbound hfailed
    refine awaits_of_atRest hopen ha hrest (hs.lt_built hb) ?_
    have hrec := hs.recorded hb
    have hres : (s.run as).resolution? n = b.resolution? := by simp [resolution?, hb]
    rw [hres]
    cases hx : b.resolution? with
    | none => rfl
    | some x =>
      cases x with
      | ok text => rw [hrec.bound.2 ⟨text, hx⟩] at hbound; cases hbound
      | error e => exact absurd (hrec.failed.2 ⟨e, hx⟩) hfailed
  · exact fun n hn => resolved_of_closed hopen ha hrest hclosed hn
  · intro n k hk
    obtain ⟨reason, hreason⟩ := Option.isSome_iff_exists.1 hclosed
    refine ends_of_closed hs hreason ?_ hk ?_
    · exact recorded_opened hopen as
    · intro m hm
      have hlt : m < (s.run as).built :=
        grounded_run (grounded_opened hopen) ha (.call n) k.errand (by simp [hk]) m hm
      exact resolved_of_closed hopen ha hrest hclosed hlt

/-- The channel is killed while a handle is awaited through another one, and the background comes
to rest. -/
def killedActions : List Action :=
  [.build true ⟨[['1']], []⟩, .build true ⟨[[], []], [.handle ⟨0, ['v'], 0⟩]⟩,
    .begin (.force ⟨0, ['v'], 1⟩), .advance (.binding 0), .advance (.binding 1), .kill,
    .advance (.binding 0), .advance (.binding 1), .write]

theorem atRest_killed : (newSession.run killedActions).AtRest :=
  ((sound_opened opened_newSession).run killedActions).atRest (by decide +kernel)
    (by decide +kernel) (by decide +kernel)

theorem no_handle_is_stuck_killed :
    opened 0 ['v'] false = .ok newSession ∧ Always Admissible newSession killedActions ∧
    (newSession.run killedActions).AtRest ∧
    (newSession.run killedActions).channel.isClosed = true ∧
    ∃ polls x, ((newSession.run killedActions).run
      (List.replicate polls (.advance (.call 0)))).result? 0 = some x := by
  have hadmissible : Always Admissible newSession killedActions := by
    simp only [killedActions, always_cons, always_nil, and_true]
    refine ⟨admissible_of_handles rfl, ⟨by decide +kernel, by simp⟩, ⟨by decide +kernel, ?_⟩,
      admissible_of_handles rfl, admissible_of_handles rfl, admissible_of_handles rfl,
      admissible_of_handles rfl, admissible_of_handles rfl, admissible_of_handles rfl⟩
    rintro h (hh | hh)
    · cases hh
    · cases hh; rfl
  have hclosed : (newSession.run killedActions).channel.isClosed = true := by decide +kernel
  obtain ⟨k, hk⟩ : ∃ k, (newSession.run killedActions).calls 0 = some k :=
    Option.isSome_iff_exists.1 (by decide +kernel)
  exact ⟨opened_newSession, hadmissible, atRest_killed, hclosed,
    ((no_handle_is_stuck opened_newSession hadmissible atRest_killed).2 hclosed).2 0 k hk⟩

end RemoteInterpreter.Session
