import RemoteInterpreter.Proofs.Correlation
import RemoteInterpreter.Proofs.Record

/-!
# The life of a handle

The recorded state of a handle only moves forward, and it always agrees with what became of
the binding. Only a force whose own command was answered well, with a payload that can be
decoded, makes a handle evaluated; a force that fails changes nothing.
-/

namespace RemoteInterpreter.Session

variable {s : Session} {p : Party} {n m : Nat} {a : Action} {as : List Action} {b b' : Binding}
variable {k : Call} {number : Nat} {stem : Text} {debug : Bool}

/-! Forces -/

/-- Every call was asked for. -/
theorem begins_of_call (hopen : opened number stem debug = .ok s) (as : List Action)
    (hk : (s.run as).calls n = some k) : ∃ r, Happens (Begins n r) s as := by
  induction as using List.reverseRecOn generalizing k with
  | nil =>
    rw [run_nil, calls_opened hopen] at hk
    cases hk
  | append_singleton as a ih =>
    have before : ∀ {k₀}, (s.run as).calls n = some k₀ → ∃ r, Happens (Begins n r) s (as ++ [a]) :=
      fun hk₀ => (ih hk₀).imp fun _ hr => hr.concat a
    rw [run_concat] at hk
    cases proceeds_act hk with
    | begins hn => exact ⟨_, .last ⟨rfl, hn.symm⟩⟩
    | keeps call => exact before call
    | waits call => exact before call
    | ends call => exact before call
    | rewinds call => exact before call
    | completes call => exact before call
    | stores call => exact before call
    | registers call => exact before call

theorem eq_force_of_goal {session : Nat} {r : Request}
    (h : (Call.ofRequest session r).goal = .forced n) : ∃ e, r = .force e ∧ e.number = n := by
  have haims := aims_ofRequest session r
  rw [h] at haims
  cases haims with
  | forces isForce => exact ⟨_, isForce, rfl⟩

/-- A call that waits for a handle's value was asked to force this handle. -/
theorem force_of_goal (hopen : opened number stem debug = .ok s)
    (hk : (s.run as).calls m = some k) (goal : k.goal = .forced n) :
    ∃ e, e.number = n ∧ Happens (Begins m (.force e)) s as ∧
      k.errand.command = some (.eval, e.name) := by
  obtain ⟨r, hr⟩ := begins_of_call hopen as hk
  have hfrom := from_of_begins (sound_opened hopen) hr hk
  rcases hfrom.goal with hgoal | ⟨entries, rest, -, hgoal⟩
  · obtain ⟨e, rfl, hn⟩ := eq_force_of_goal (hgoal.symm.trans goal)
    exact ⟨e, hn, hr, hfrom.command⟩
  · rw [goal] at hgoal
    cases hgoal

/-- An errand with a command that ends well obtains the answer that it went well. -/
theorem Errand.Moves.obtains {e : Errand} {c : Channel Party} {stage : Stage} {text : Text}
    (h : Errand.Moves p s.resolution? s.channel e c stage) (errand : s.errand? p = some e)
    (sends : e.command ≠ none) (passed : stage.result? = some (.ok text)) :
    ∃ id r, (e.stage = .sent (.ok id) ∨ e.stage = .parked id) ∧ Obtains p id r s (.advance p) ∧
      r.tag = .pass ∧ r.text = text := by
  cases h with
  | clears _ _ command => exact absurd command sends
  | takes hstage arrived =>
    obtain ⟨htag, rfl⟩ := Stage.pass_of_result? passed
    exact ⟨_, _, Or.inl hstage, .atOnce errand hstage arrived, htag, rfl⟩
  | collects hstage answer =>
    obtain ⟨htag, rfl⟩ := Stage.pass_of_result? passed
    exact ⟨_, _, Or.inr hstage, .later errand hstage answer, htag, rfl⟩
  | starts => cases passed
  | inherits => cases passed
  | sends => cases passed
  | refused => cases passed
  | turnedAway => cases passed
  | parks => cases passed
  | letDown => cases passed

/-- The id for which a force waits is that of its own command. -/
theorem queued_of_force (hopen : opened number stem debug = .ok s) {e : Handle} {id : Nat}
    (hk : (s.run as).calls m = some k) (hb : Happens (Begins m (.force e)) s as)
    (waiting : k.errand.stage = .sent (.ok id) ∨ k.errand.stage = .parked id) :
    ∃ c, c.id = id ∧ Happens (Queues (.call m) c) s as ∧ c.tag = .eval ∧ c.text = e.name := by
  have hfrom := from_of_begins (sound_opened hopen) hb hk
  have hpast : Past (.call m) k.errand s as := past_run hopen as (by rw [errand?_call, hk]; rfl)
  cases hpast.waiting waiting with
  | @queued c isId queues =>
    have hcommand := command_of_queues hopen hb queues nofun
    simp only [Call.ofRequest, Call.started, Option.some.injEq, Prod.mk.injEq] at hcommand
    exact ⟨c, isId, queues, hcommand.1.symm, hcommand.2.symm⟩
  | @asked m' r party request begins =>
    -- who asks for an answer by its id has no command of its own
    cases party
    have hnone := (from_of_begins (sound_opened hopen) begins hk).command
    rw [hfrom.command] at hnone
    rcases request with rfl | rfl <;> cases hnone

/-- With this action a force of the handle ends well: its own command was answered that it went
well, and the payload was decoded. -/
def EndsWell (n : Nat) (s : Session) (before : List Action) (a : Action) : Prop :=
  ∃ m e c r v, e.number = n ∧ a = .advance (.call m) ∧ Happens (Begins m (.force e)) s before ∧
    Happens (Queues (.call m) c) s before ∧ c.tag = .eval ∧ c.text = e.name ∧
    Obtains (.call m) c.id r (s.run before) a ∧ r.tag = .pass ∧
    Decode.payload (s.run before).registry r.text = .ok v ∧
    (s.run (before ++ [a])).result? m = some (.ok (.value v))

/-- A handle becomes evaluated with a force that ends well. -/
theorem endsWell_of_evaluated (hopen : opened number stem debug = .ok s)
    (hb : ∀ b, (s.run as).bindings n = some b → b.state ≠ .evaluated)
    (hb' : (s.run (as ++ [a])).bindings n = some b') (evaluated : b'.state = .evaluated) :
    EndsWell n s as a := by
  rw [run_concat] at hb'
  cases records_act hb' with
  | keeps binding => exact absurd evaluated (hb _ binding)
  | builds _ _ _ binds => cases binds <;> cases evaluated
  | @moves b c stage =>
    unfold Binding.atStage at evaluated
    dsimp only at evaluated
    split at evaluated <;> cases evaluated
  | @evaluates m b k c stage text v binding call goal moves passed decoded result =>
    obtain ⟨e, hn, hbegins, hcommand⟩ := force_of_goal hopen call goal
    obtain ⟨id, r, hwaiting, hobtains, htag, rfl⟩ :=
      moves.obtains (by rw [errand?_call, call]; rfl) (by rw [hcommand]; exact nofun) passed
    obtain ⟨sent, rfl, hqueues, hkind, htext⟩ := queued_of_force hopen call hbegins hwaiting
    rw [← run_concat] at result
    exact ⟨m, e, sent, r, v, hn, rfl, hbegins, hqueues, hkind, htext, hobtains, htag, decoded,
      result⟩

/-- A step of a force ends it well, or changes nothing that is recorded of handles. -/
theorem bindings_of_force (call : s.calls m = some k) (goal : k.goal = .forced n) :
    (s.act (.advance (.call m))).bindings = s.bindings ∨
      ∃ v, (s.act (.advance (.call m))).result? m = some (.ok v) := by
  have ha := acts_act s (.advance (.call m))
  generalize s.act (.advance (.call m)) = s' at ha
  cases ha with
  | idles => exact Or.inl rfl
  | drives => exact Or.inl rfl
  | completes call' _ goal' =>
    cases call.symm.trans call'
    rw [goal] at goal'
    cases goal'
  | stores call' _ goal' =>
    cases call.symm.trans call'
    rw [goal] at goal'
    cases goal'
  | @settles _ k' c stage _ call' _ _ hs =>
    cases call.symm.trans call'
    have moved : (s.moved (.call m) c stage).bindings = s.bindings := rfl
    have other : ∀ {g : Goal}, k.goal = g → g = .forced n := fun hg => hg.symm.trans goal
    cases hs with
    | evaluates => exact Or.inr ⟨_, result?_putCall _ _ _⟩
    | imports goal' => cases other goal'
    | _ => exact Or.inl moved

/-- No step of this call changes what is recorded of handles. -/
def Spares (m : Nat) (s : Session) (a : Action) : Prop :=
  a = .advance (.call m) → (s.act a).bindings = s.bindings

theorem spares_of_absent (h : s.calls m = none) (a : Action) : Spares m s a := by
  rintro rfl
  simp [act, advance?, advanceCall?, h]

/-- A force that has not ended well has changed nothing that is recorded of handles. -/
theorem always_spares (hs : s.Sound) (hk : (s.run as).begun ≤ m ∨ ∃ k,
    (s.run as).calls m = some k ∧ k.goal = .forced n ∧ ∀ v, k.result ≠ some (.ok v)) :
    Always (Spares m) s as := by
  induction as using List.reverseRecOn with
  | nil => exact always_nil
  | append_singleton as a ih =>
    have hrun := hs.run as
    rw [run_concat] at hk
    rcases hk with hm | ⟨k, hk, hgoal, hresult⟩
    · have hm := Nat.le_trans (extends_act _ a).begun hm
      exact always_concat.2 ⟨ih (Or.inl hm), spares_of_absent (hrun.calls m hm) a⟩
    · have hspares : ∀ {k₀}, (s.run as).calls m = some k₀ → k₀.goal = .forced n →
          Spares m (s.run as) a := by
        rintro k₀ hk₀ hgoal₀ rfl
        rcases bindings_of_force hk₀ hgoal₀ with h | ⟨v, hv⟩
        · exact h
        · rw [Session.result?, hk] at hv
          exact absurd hv (hresult v)
      have earlier : ∀ {k₀}, (s.run as).calls m = some k₀ → k₀.goal = .forced n →
          (∀ v, k₀.result ≠ some (.ok v)) → Always (Spares m) s (as ++ [a]) :=
        fun hk₀ hgoal₀ hresult₀ =>
          always_concat.2 ⟨ih (Or.inr ⟨_, hk₀, hgoal₀, hresult₀⟩), hspares hk₀ hgoal₀⟩
      have live : ∀ {k₀ : Call}, k₀.result = none → ∀ v, k₀.result ≠ some (.ok v) := by
        intro k₀ h v
        simp [h]
      cases proceeds_act hk with
      | keeps call => exact earlier call hgoal hresult
      | begins hn =>
        exact always_concat.2 ⟨ih (Or.inl (Nat.le_of_eq hn.symm)),
          spares_of_absent (hrun.calls m (Nat.le_of_eq hn.symm)) _⟩
      | waits call hlive => exact earlier call hgoal (live hlive)
      | ends call hlive => exact earlier call hgoal (live hlive)
      | rewinds _ _ _ goal => cases goal.symm.trans hgoal
      | completes _ _ goal => cases goal.symm.trans hgoal
      | stores => cases hgoal
      | registers => cases hgoal

theorem spares_of_failed (hs : s.Sound) {e : Handle} {err : Error}
    (hb : Happens (Begins m (.force e)) s as) (hx : (s.run as).result? m = some (.error err)) :
    Always (Spares m) s as := by
  obtain ⟨k, hk, hkx⟩ := Option.bind_eq_some_iff.1 hx
  have hfrom := from_of_begins hs hb hk
  have hgoal : k.goal = .forced e.number :=
    hfrom.goal.resolve_right (by rintro ⟨_, _, h, -⟩; cases h)
  refine always_spares hs (Or.inr ⟨k, hk, hgoal, ?_⟩)
  rw [hkx]
  exact fun _ => nofun

/-! The whole picture -/

/-- However building, bindings, forces, responses and teardown take turns: the recorded state of a
handle stays or takes one step with each action, so that it only moves forward and never leaves
its failure; it tells what became of the binding; it becomes evaluated with a force that ends well,
and a force that fails changes nothing. A handle reports that it is closed exactly on a closed
channel, and then for ever. -/
theorem state_moves_forward (hopen : opened number stem debug = .ok s) (as : List Action) :
    (∀ before a after, as = before ++ a :: after → ∀ n b',
      (s.run (before ++ [a])).bindings n = some b' →
      (∃ b, (s.run before).bindings n = some b ∧
        (b'.state = b.state ∨ State.Moves b.state b'.state)) ∨
      (s.run before).bindings n = none ∧ Relation.ReflTransGen State.Moves .created b'.state) ∧
    (∀ before, before <+: as → ∀ n b, (s.run before).bindings n = some b →
      ∃ b', (s.run as).bindings n = some b' ∧ Relation.ReflTransGen State.Moves b.state b'.state ∧
        (Relation.ReflTransGen State.Moves b'.state b.state → b'.state = b.state) ∧
        (b.state = .failed → b'.state = .failed)) ∧
    (∀ n b, (s.run as).bindings n = some b →
      (b.state = .bound ∨ b.state = .evaluated ↔
        ∃ text, (s.run as).resolution? n = some (.ok text)) ∧
      (b.state = .failed ↔ ∃ e, (s.run as).resolution? n = some (.error e))) ∧
    (∀ before a after, as = before ++ a :: after → ∀ n b',
      (∀ b, (s.run before).bindings n = some b → b.state ≠ .evaluated) →
      (s.run (before ++ [a])).bindings n = some b' → b'.state = .evaluated →
      EndsWell n s before a) ∧
    (∀ m h e, Happens (Begins m (.force h)) s as → (s.run as).result? m = some (.error e) →
      Always (Spares m) s as) ∧
    (∀ n < (s.run as).built,
      ((s.run as).state? n = some .closed ↔ (s.run as).channel.isClosed = true) ∧
      ∀ after, (s.run as).state? n = some .closed →
        (s.run (as ++ after)).state? n = some .closed) := by
  have hs := sound_opened hopen
  refine ⟨?_, ?_, ?_, ?_, ?_, ?_⟩
  · rintro before a after rfl n b' hb'
    rw [run_concat] at hb'
    cases hb : (s.run before).bindings n with
    | none => exact Or.inr ⟨rfl, moves_state_new hb hb'⟩
    | some b =>
      exact Or.inl ⟨b, rfl, moves_state_act (hs.run before) (fun h => lives_run hopen _ h) hb hb'⟩
  · rintro before ⟨after, rfl⟩ n b hb
    obtain ⟨b', hb', -⟩ := (hs.run before).uses_run hb after
    rw [← run_append] at hb'
    have hmoves := moves_state_run hopen (List.prefix_append before after) hb hb'
    refine ⟨b', hb', hmoves, State.eq_of_moves_of_moves hmoves, ?_⟩
    intro hfailed
    rw [hfailed] at hmoves
    exact State.eq_failed_of_moves hmoves
  · intro n b hb
    have hrec := (hs.run as).recorded hb
    have hres : (s.run as).resolution? n = b.resolution? := by simp [resolution?, hb]
    rw [hres, ← hrec.bound, ← hrec.failed]
    refine ⟨?_, Iff.rfl⟩
    cases b.state <;> simp [State.isBound]
  · rintro before a after rfl n b' hb hb' evaluated
    exact endsWell_of_evaluated hopen hb hb' evaluated
  · exact fun m h e hb hx => spares_of_failed hs hb hx
  · intro n hn
    refine ⟨state?_eq_closed_iff hopen hn, fun after h => ?_⟩
    have hclosed := (state?_eq_closed_iff hopen hn).1 h
    have hn' : n < (s.run (as ++ after)).built := by
      rw [run_append]
      exact Nat.lt_of_lt_of_le hn (extends_run _ after).built
    refine (state?_eq_closed_iff hopen hn').2 ?_
    rw [run_append]
    exact isClosed_run hclosed after

/-- A handle is built and bound, and forced; the answer to the force is `7`. -/
def forcedActions : List Action :=
  [.build true ⟨[['7']], []⟩, .advance (.binding 0),
    .feed [48, 61, 80, 65, 83, 83, 61, 79, 75, 10], .read, .advance (.binding 0),
    .begin (.force ⟨0, ['v'], 0⟩), .advance (.call 0),
    .feed [49, 61, 80, 65, 83, 83, 61, 55, 10], .read]

theorem state_moves_forward_forced :
    opened 0 ['v'] false = .ok newSession ∧
    ((newSession.run forcedActions).bindings 0).map Binding.state = some .bound ∧
    ((newSession.run (forcedActions ++ [.advance (.call 0)])).bindings 0).map Binding.state =
      some .evaluated ∧
    EndsWell 0 newSession forcedActions (.advance (.call 0)) := by
  have hbound : ((newSession.run forcedActions).bindings 0).map Binding.state = some .bound := by
    decide +kernel
  have hevaluated : ((newSession.run (forcedActions ++ [.advance (.call 0)])).bindings 0).map
      Binding.state = some .evaluated := by decide +kernel
  obtain ⟨b', hb', hstate⟩ := Option.map_eq_some_iff.1 hevaluated
  refine ⟨opened_newSession, hbound, hevaluated, ?_⟩
  refine (state_moves_forward opened_newSession (forcedActions ++ [.advance (.call 0)])).2.2.2.1
    forcedActions (.advance (.call 0)) [] rfl 0 b' ?_ hb' hstate
  intro b hb
  rw [hb] at hbound
  rw [Option.some.inj hbound]
  exact nofun

end RemoteInterpreter.Session
