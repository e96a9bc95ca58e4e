import RemoteInterpreter.Proofs.Assignment
import RemoteInterpreter.Proofs.Correlation
import RemoteInterpreter.Proofs.Dependency
import RemoteInterpreter.Proofs.Joining

/-!
# How failures are passed on

Whoever waits for handles of which one has failed is meant to fail with it, whatever becomes of the
others. So it is while the failure is not overlooked. At rest an errand behind a failed handle
has failed with the failure of one of its handles, or it still waits and overlooks them all.
-/

namespace RemoteInterpreter.Session

open Session.Joined (Overlooked)

variable {s : Session} {p : Party} {n m : Nat} {a : Action} {as : List Action} {e : Error}
variable {en : Errand} {k : Call} {number : Nat} {stem : Text} {debug : Bool}

/-! Errands behind a failed handle -/

/-- An errand behind a failed handle has not started to wait, or waits, or has failed. -/
theorem stage_of_failing (hopen : opened number stem debug = .ok s)
    (he : (s.run as).errand? p = some en) (h : Failing (s.run as) en.uses e) :
    en.stage = .fresh ∨ en.stage = .held ∨ ∃ err, en.stage = .failed err := by
  have hpassed : ¬ en.stage.Passed := fun hp => h.not_allBound ((joins_run hopen he).passed hp)
  cases hs : en.stage with
  | fresh => exact Or.inl rfl
  | held => exact Or.inr (Or.inl rfl)
  | failed err => exact Or.inr (Or.inr ⟨err, rfl⟩)
  | sent ticket => exact absurd (hs ▸ trivial) hpassed
  | parked id => exact absurd (hs ▸ trivial) hpassed
  | cleared => exact absurd (hs ▸ trivial) hpassed
  | answered r => exact absurd (hs ▸ trivial) hpassed

/-- Held behind a failed handle, an errand fails with its next step, or overlooks the failure and
has no step. -/
theorem advance?_of_failing {resolution : Nat → Option (Except Error Text)} (hs : en.stage = .held)
    (hm : m ∈ en.uses) (hr : resolution m = some (.error e)) (c : Channel Party) :
    (Overlooked resolution en.uses ∧ en.advance? p resolution c = none) ∨
    ∃ err, (∃ i ∈ en.uses, resolution i = some (.error err)) ∧
      en.advance? p resolution c = some (c, .failed err) := by
  unfold Errand.advance?
  rw [hs]
  dsimp only
  cases hj : Joined.all (en.uses.map resolution) with
  | waiting => exact Or.inl ⟨Joined.overlooked_of_waiting hm hr hj, rfl⟩
  | failed err =>
    obtain ⟨i, hi, hri⟩ := List.mem_map.1 (Joined.mem_of_all_failed hj)
    exact Or.inr ⟨err, ⟨i, hi, hri⟩, rfl⟩
  | ready =>
    obtain ⟨text, ht⟩ := Joined.ok_of_all_ready hj _ (List.mem_map_of_mem hm)
    rw [hr] at ht
    cases ht

/-! Handles -/

/-- A handle is never sent if one of those that it uses fails, now or later. -/
theorem Failing.not_queued (hs : s.Sound) {b : Binding} (hb : (s.run as).bindings n = some b)
    (h : Failing (s.run as) (Binding.uses b.expression) e) (bs : List Action) (c : Command) :
    ¬ Happens (Queues (.binding n) c) s (as ++ bs) := by
  obtain ⟨m, hm, hr⟩ := h
  intro hq
  have huses : Uses (s.run (as ++ bs)) n m := by
    rw [run_append]
    exact run_preserves (I := fun t => t.Sound ∧ Uses t n m)
      (fun t a ⟨ht, hu⟩ => ⟨ht.act a, hu.act ht a⟩) ⟨hs.run as, b, hb, hm⟩ bs |>.2
  obtain ⟨text, ht⟩ := bound_of_queues hs hq huses
  rw [run_append, (hs.run as).resolution?_run hr bs] at ht
  cases ht

/-- What may become of a handle behind a failed one until nothing in the background moves. -/
inductive Behind (n : Nat) (b : Binding) (s : Session) (as : List Action) : Prop
  | fails {err} (failing : Failing (s.run as) (Binding.uses b.expression) err)
      (state : b.state = .failed) (resolution : (s.run as).resolution? n = some (.error err)) :
    Behind n b s as
  | outside (alone : Happens (FailsAlone n (.usage .outsideRuntime)) s as)
      (state : b.state = .failed)
      (resolution : (s.run as).resolution? n = some (.error (.usage .outsideRuntime))) :
    Behind n b s as
  | overlooks (overlooked : Overlooked (s.run as).resolution? (Binding.uses b.expression))
      (state : b.state = .resolving) (resolution : (s.run as).resolution? n = none) :
    Behind n b s as

/-- A handle that waits for others counts as resolving. -/
theorem Binding.Recorded.resolving_of_held {h : Handle} {b : Binding} (hrec : b.Recorded h)
    (hl : b.Lives) (hs : b.errand.stage = .held) : b.state = .resolving := by
  have hnone : b.resolution? = none := by
    rw [Binding.resolution?, hs]
    rfl
  have unbound : b.state.isBound ≠ true := by
    intro hbound
    obtain ⟨text, ht⟩ := hrec.bound.1 hbound
    rw [hnone] at ht
    cases ht
  cases hstate : b.state with
  | resolving => rfl
  | created => cases (hl.created hstate).symm.trans hs
  | closed => exact absurd hstate hl.notClosed
  | bound => exact absurd (by rw [hstate]; rfl) unbound
  | evaluated => exact absurd (by rw [hstate]; rfl) unbound
  | failed =>
    obtain ⟨err, herr⟩ := hrec.failed.1 hstate
    rw [hnone] at herr
    cases herr

theorem behind_of_atRest (hopen : opened number stem debug = .ok s) (hrest : (s.run as).AtRest)
    {b : Binding} (hb : (s.run as).bindings n = some b)
    (h : Failing (s.run as) (Binding.uses b.expression) e) : Behind n b s as := by
  have hrec := ((sound_opened hopen).run as).recorded hb
  have herrand : (s.run as).errand? (.binding n) = some b.errand := by
    rw [errand?_binding, hb]
    rfl
  have hadvance := advance?_of_advanceBinding? hb (hrest.bindings n)
  have hresolution : (s.run as).resolution? n = b.errand.stage.result? := by
    rw [resolution?, hb]
    rfl
  rw [← hrec.uses] at h
  rcases stage_of_failing hopen herrand h with hstage | hstage | ⟨err, hstage⟩
  · -- a fresh binding has a step
    rw [Errand.advance?, hstage] at hadvance
    cases hadvance
  · obtain ⟨m, hm, hr⟩ := h
    rw [hstage] at hresolution
    rcases advance?_of_failing (p := .binding n) hstage hm hr (s.run as).channel with
      ⟨hover, -⟩ | ⟨err, -, hsome⟩
    · refine .overlooks (hrec.uses ▸ hover) ?_ hresolution
      exact hrec.resolving_of_held (lives_run hopen as hb) hstage
    · rw [hadvance] at hsome
      cases hsome
  · rw [hstage] at hresolution
    have hstate : b.state = .failed := hrec.failed.2 ⟨err, by rw [Binding.resolution?, hstage]; rfl⟩
    rcases (joins_run hopen herrand).failed hstage with hok | ⟨hfailing, -⟩ | ⟨m, hm, rfl, halone⟩
    · exact absurd hok h.not_allBound
    · exact .fails (hrec.uses ▸ hfailing) hstate hresolution
    · cases hm
      exact .outside halone hstate hresolution

/-! Calls -/

theorem Errand.Moves.ne_fresh {resolution : Nat → Option (Except Error Text)}
    {c c' : Channel Party} {stage : Stage} (h : Errand.Moves p resolution c en c' stage) :
    stage ≠ .fresh := by
  cases h <;> nofun

/-- Calls are held from their beginning. -/
theorem stage_ne_fresh (hopen : opened number stem debug = .ok s)
    (hk : (s.run as).calls n = some k) : k.errand.stage ≠ .fresh := by
  induction as using List.reverseRecOn generalizing k with
  | nil =>
    rw [run_nil, calls_opened hopen] at hk
    cases hk
  | append_singleton as a ih =>
    rw [run_concat] at hk
    cases proceeds_act hk with
    | keeps call => exact ih call
    | begins =>
      rename_i r _
      rcases stage_ofRequest_cases (s.run as).number r with h | ⟨err, h⟩ | ⟨id, -, h⟩ <;>
        rw [h] <;> nofun
    | waits _ _ moves => exact moves.ne_fresh
    | ends _ _ moves => exact moves.ne_fresh
    | rewinds => nofun
    | completes call => exact (ih call :)
    | stores call => exact (ih call :)
    | registers => nofun

/-- The handles that a request names were bound when the command of its call was queued. -/
theorem handles_bound_of_queues (hopen : opened number stem debug = .ok s) {r : Request}
    {h : Handle} {c : Command} (hb : Happens (Begins n r) s as) (hh : h ∈ r.handles)
    (hq : Happens (Queues (.call n) c) s as) :
    ∃ text, (s.run as).resolution? h.number = some (.ok text) := by
  have hs := sound_opened hopen
  induction as using List.reverseRecOn with
  | nil => exact absurd hb not_happens_nil
  | append_singleton as a ih =>
    have hrun := hs.run as
    have names : Happens (Names (.call n) h) s (as ++ [a]) := by
      refine hb.imp fun t a ⟨ha, hn⟩ => ?_
      subst ha hn
      exact .beginning hh
    rw [run_concat]
    rcases happens_concat.1 hq with hq | hq
    · rcases happens_concat.1 hb with hb | ⟨-, hn⟩
      · obtain ⟨text, ht⟩ := ih hb hq
        exact ⟨text, hrun.resolution?_act ht a⟩
      · exact absurd (lt_begun_of_queues hs hq) (by omega)
    · obtain ⟨uses, hc⟩ := hq.enqueues
      have hmem := hc.mem_uses hopen hq.1 names
      obtain ⟨text, ht⟩ := hrun.isBound_iff.1 (hc.isBound hrun _ hmem)
      exact ⟨text, hrun.resolution?_act ht a⟩

/-- What comes of polling a call whose request names a failed handle. -/
inductive Polled (n : Nat) (r : Request) (s : Session) : Prop
  | refused {err} (request : Call.ofRequest s.number r = Call.refused (.usage err)) : Polled n r s
  | fails {h err} (mem : h ∈ r.handles) (failed : s.resolution? h.number = some (.error err))
      (result : (s.act (.advance (.call n))).result? n = some (.error err)) : Polled n r s
  | overlooks (overlooked : Overlooked s.resolution? (Call.ofRequest s.number r).errand.uses)
      (result : (s.act (.advance (.call n))).result? n = none) : Polled n r s

theorem polled_of_failed (hopen : opened number stem debug = .ok s) {r : Request} {h : Handle}
    (hb : Happens (Begins n r) s as) (hh : h ∈ r.handles)
    (hr : (s.run as).resolution? h.number = some (.error e))
    (hk : (s.run as).calls n = some k) : Polled n r (s.run as) := by
  have hs := sound_opened hopen
  have hfrom := from_of_begins hs hb hk
  have hrec := recorded_opened hopen as hk
  have herrand : (s.run as).errand? (.call n) = some k.errand := by
    rw [errand?_call, hk]
    rfl
  have hnumber := (extends_run s as).number
  have hnames : h.number ∈ (Call.ofRequest s.number r).errand.uses ∨
      ∃ err, (Call.ofRequest s.number r).errand.stage = .failed err := mem_uses_of_handles hh
  rcases hnames with hmem | ⟨err, hfailed⟩
  swap
  · obtain ⟨err, hrefused⟩ := refused_of_failed hfailed
    exact .refused (hnumber ▸ hrefused)
  rw [← hfrom.uses] at hmem
  have named : ∀ {m}, m ∈ k.errand.uses → ∃ i ∈ r.handles, i.number = m := by
    intro m hm
    rw [hfrom.uses] at hm
    obtain ⟨i, hi, him, -⟩ := mem_handles_of_uses hm
    exact ⟨i, hi, him⟩
  have uninstalled : ∀ entries, k.goal ≠ .installed entries := by
    intro entries hg
    rw [(hrec.installs hg).1] at hmem
    cases hmem
  rcases stage_of_failing hopen herrand ⟨_, hmem, hr⟩ with hstage | hstage | ⟨err, hstage⟩
  · exact absurd hstage (stage_ne_fresh hopen hk)
  · -- the poll looks at the handles
    have hlive := hrec.live_of_held hstage (uninstalled [])
    rcases advance?_of_failing (p := .call n) hstage hmem hr (s.run as).channel with
      ⟨hover, hnone⟩ | ⟨err, ⟨m, hm, hri⟩, hsome⟩
    · refine .overlooks (by rw [hnumber, ← hfrom.uses]; exact hover) ?_
      rw [act_of_waiting hk (fun entries hg => absurd hg (uninstalled entries)) hnone, result?, hk]
      exact hlive
    · obtain ⟨i, hi, rfl⟩ := named hm
      have hsettles := settles_advanceCall hk hlive
        (fun entries hg => absurd hg (uninstalled entries)) hsome
      exact .fails hi hri (hsettles.result?_of_failed rfl)
  · -- it has failed before
    rcases (joins_run hopen herrand).failed hstage with hok | ⟨⟨m, hm, hri⟩, -⟩ | ⟨m, hp, -⟩
    · exact absurd hok (Failing.not_allBound ⟨_, hmem, hr⟩)
    · obtain ⟨i, hi, rfl⟩ := named hm
      have hresult := hrec.result_of_failed hstage
      refine .fails hi hri ?_
      rw [act_of_ended hk hresult, result?, hk]
      exact hresult
    · cases hp

/-! The whole picture -/

/-- A handle of which a dependency has failed is never sent, and neither is the command of a call
that names a failed handle. At rest the handle has failed with the failure of one of its
dependencies, and the call fails so when it is polled, whatever the other dependencies do. There
are these exceptions: a handle that was built where nothing can run has failed already, a request
may be refused for itself, and of more than thirty dependencies an open one hides what comes after
it. -/
theorem failed_dependency_fails (hopen : opened number stem debug = .ok s) (as : List Action) :
    (∀ n b e, (s.run as).bindings n = some b →
      Failing (s.run as) (Binding.uses b.expression) e →
      (∀ bs c, ¬ Happens (Queues (.binding n) c) s (as ++ bs)) ∧
      ((s.run as).AtRest → Behind n b s as)) ∧
    (∀ n r h e, Happens (Begins n r) s as → h ∈ r.handles →
      (s.run as).resolution? h.number = some (.error e) →
      (∀ bs c, ¬ Happens (Queues (.call n) c) s (as ++ bs)) ∧
      ∀ k, (s.run as).calls n = some k → Polled n r (s.run as)) := by
  have hs := sound_opened hopen
  constructor
  · intro n b e hb hf
    exact ⟨hf.not_queued hs hb, fun hrest => behind_of_atRest hopen hrest hb hf⟩
  · intro n r h e hb hh hr
    refine ⟨fun bs c hq => ?_, fun k hk => polled_of_failed hopen hb hh hr hk⟩
    obtain ⟨text, ht⟩ := handles_bound_of_queues hopen (hb.append bs) hh hq
    rw [run_append, (hs.run as).resolution?_run hr bs] at ht
    cases ht

/-- Of the two handles that a third one uses the second fails, and the first is not answered. Then
somebody evaluates a template with the second. -/
def unevenActions : List Action :=
  [.build true ⟨[['1']], []⟩, .build true ⟨[['2']], []⟩,
    .build true ⟨[[], ['+'], []], [.handle ⟨0, ['v'], 0⟩, .handle ⟨0, ['v'], 1⟩]⟩,
    .advance (.binding 0), .advance (.binding 1), .write, .write, .write,
    .feed [49, 61, 70, 65, 73, 76, 61, 69, 10], .read, .advance (.binding 1),
    .advance (.binding 2), .advance (.binding 2),
    .begin (.evalWith ['\x7b', '\x7d'] [.handle ⟨0, ['v'], 1⟩])]

theorem atRest_uneven : (newSession.run unevenActions).AtRest :=
  ((sound_opened opened_newSession).run unevenActions).atRest (by decide +kernel)
    (by decide +kernel) (by decide +kernel)

theorem failed_dependency_fails_uneven :
    opened 0 ['v'] false = .ok newSession ∧
    (newSession.run unevenActions).AtRest ∧
    (newSession.run unevenActions).resolution? 0 = none ∧
    (newSession.run unevenActions).resolution? 1 = some (.error (.channel (.remote ['E']))) ∧
    (∃ b, (newSession.run unevenActions).bindings 2 = some b ∧
      Binding.uses b.expression = [0, 1] ∧ Behind 2 b newSession unevenActions) ∧
    Polled 0 (.evalWith ['\x7b', '\x7d'] [.handle ⟨0, ['v'], 1⟩])
      (newSession.run unevenActions) := by
  have hfailed : (newSession.run unevenActions).resolution? 1 =
      some (.error (.channel (.remote ['E']))) := by decide +kernel
  obtain ⟨handles, calls⟩ := failed_dependency_fails opened_newSession unevenActions
  obtain ⟨b, hb⟩ := ((sound_opened opened_newSession).run unevenActions).binding_of_lt
    (n := 2) (by decide +kernel)
  have huses : ((newSession.run unevenActions).bindings 2).map
      (fun b => Binding.uses b.expression) = some [0, 1] := by decide +kernel
  rw [hb] at huses
  have huses : Binding.uses b.expression = [0, 1] := Option.some.inj huses
  have hcall : ((newSession.run unevenActions).calls 0).isSome = true := by decide +kernel
  obtain ⟨k, hk⟩ := Option.isSome_iff_exists.1 hcall
  refine ⟨opened_newSession, atRest_uneven, by decide +kernel, hfailed, ⟨b, hb, huses, ?_⟩, ?_⟩
  · exact (handles 2 b _ hb ⟨1, by rw [huses]; decide, hfailed⟩).2 atRest_uneven
  · refine (calls 0 _ ⟨0, ['v'], 1⟩ _ ?_ ?_ hfailed).2 k hk
    · exact ⟨unevenActions.dropLast, _, [], rfl, rfl, by decide +kernel⟩
    · decide +kernel

/-- Of thirty-one handles the second fails, and none of the others is answered. One more handle
uses them all. -/
def manyActions : List Action :=
  List.replicate 31 (.build true ⟨[['1']], []⟩) ++
    (List.range 31).map (fun n => .advance (.binding n)) ++ List.replicate 32 .write ++
    [.feed [49, 61, 70, 65, 73, 76, 61, 69, 10], .read, .advance (.binding 1),
      .build true ⟨List.replicate 32 [','], (List.range 31).map fun n => .handle ⟨0, ['v'], n⟩⟩,
      .advance (.binding 31)]

theorem atRest_many : (newSession.run manyActions).AtRest :=
  ((sound_opened opened_newSession).run manyActions).atRest (by decide +kernel)
    (by decide +kernel) (by decide +kernel)

/-- At rest a handle may wait for others of which one has failed. -/
theorem overlooked_failure :
    ¬ ∀ (number : Nat) (stem : Text) (debug : Bool) (s : Session) (as : List Action) (n m : Nat)
      (e : Error), opened number stem debug = .ok s → (s.run as).AtRest →
      (s.run as).channel.isClosed = false → Happens (BuildsInside n) s as →
      Uses (s.run as) n m → (s.run as).resolution? m = some (.error e) →
      (s.run as).state? n = some .failed ∧
      ∃ i err, Uses (s.run as) n i ∧ (s.run as).resolution? i = some (.error err) ∧
        (s.run as).resolution? n = some (.error err) := by
  intro h
  have hbuilds : Happens (BuildsInside 31) newSession manyActions :=
    ⟨manyActions.take 97, .build true ⟨List.replicate 32 [','],
      (List.range 31).map fun n => .handle ⟨0, ['v'], n⟩⟩, [.advance (.binding 31)], rfl,
      by decide +kernel, by decide +kernel, nofun⟩
  have huses : ((newSession.run manyActions).bindings 31).map
      (fun b => Binding.uses b.expression) = some (List.range 31) := by decide +kernel
  obtain ⟨b, hb, huses⟩ := Option.map_eq_some_iff.1 huses
  have hone : Uses (newSession.run manyActions) 31 1 := ⟨b, hb, by rw [huses]; decide⟩
  obtain ⟨hfailed, -⟩ := h 0 ['v'] false newSession manyActions 31 1 (.channel (.remote ['E']))
    opened_newSession atRest_many (by decide +kernel) hbuilds hone (by decide +kernel)
  have hresolving : (newSession.run manyActions).state? 31 = some .resolving := by decide +kernel
  rw [hresolving] at hfailed
  cases hfailed

end RemoteInterpreter.Session
