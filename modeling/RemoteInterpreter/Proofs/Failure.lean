import Mathlib.Logic.Relation
import RemoteInterpreter.Proofs.History

/-!
# How handles fail

A binding fails by itself in a few ways, or it passes on the failure of a handle that it
uses. So every failure goes back to one handle that failed by itself with the same error.
A handle that uses a failed one is never sent.
-/

namespace RemoteInterpreter.Session

/-- The expression of the handle `n` uses the handle `m`. -/
def Uses (s : Session) (n m : Nat) : Prop :=
  ∃ b, s.bindings n = some b ∧ m ∈ Binding.uses b.expression

/-- The binding of `n` fails with an error of its own: nothing can run in the background, or the
channel refuses the command, or the answer is a raised exception, or the table refuses the wait
or is closed while the binding waits. -/
inductive FailsAlone (n : Nat) : Error → Session → Action → Prop
  | outside {s : Session} {d x} (compose : Expression.compose s.number d = .ok x)
      (number : n = s.built) : FailsAlone n (.usage .outsideRuntime) s (.build false d)
  | refused {s : Session} {e err} (errand : s.errand? (.binding n) = some e)
      (stage : e.stage = .sent (.error err)) (refuses : Refuses s.channel err) :
    FailsAlone n (.channel err) s (.advance (.binding n))
  | raised {s : Session} {a id r} (obtains : Obtains (.binding n) id r s a)
      (tag : r.tag = .fail) : FailsAlone n (.channel (.remote r.text)) s a
  | turnedAway {s : Session} {e id err} (errand : s.errand? (.binding n) = some e)
      (stage : e.stage = .sent (.ok id))
      (claims : s.channel.pending.Claims (.binding n) id s.channel.pending (.refused err)) :
    FailsAlone n (.channel err) s (.advance (.binding n))
  | letDown {s : Session} {e id reason} (errand : s.errand? (.binding n) = some e)
      (stage : e.stage = .parked id) (closed : s.channel.pending.closed = some reason) :
    FailsAlone n (.channel (.closed reason)) s (.advance (.binding n))

variable {s : Session} {p : Party} {n m : Nat} {a : Action} {as : List Action} {e : Error}
variable {number : Nat} {stem : Text} {debug : Bool}

theorem Uses.act (hs : s.Sound) (h : Uses s n m) (a : Action) : Uses (s.act a) n m := by
  obtain ⟨b, hb, hm⟩ := h
  obtain ⟨b', hb', huses⟩ := hs.uses_run hb [a]
  rw [(hs.recorded hb).uses, ((hs.act a).recorded hb').uses] at huses
  exact ⟨b', hb', huses ▸ hm⟩

/-! One step -/

/-- A step with which a binding fails makes it fail by itself, or passes on a failure. -/
theorem Errand.Moves.fails {en : Errand} {c : Channel Party} {stage : Stage} (hs : s.Sound)
    (he : s.errand? (.binding n) = some en)
    (refused : ∀ {err}, en.stage = .sent (.error err) → Refuses s.channel err)
    (hm : Errand.Moves (.binding n) s.resolution? s.channel en c stage)
    (hx : stage.result? = some (.error e)) :
    FailsAlone n e s (.advance (.binding n)) ∨
      ∃ m ∈ en.uses, s.resolution? m = some (.error e) := by
  cases hm with
  | starts => cases hx
  | clears => cases hx
  | sends => cases hx
  | parks => cases hx
  | inherits _ joined =>
    cases hx
    obtain ⟨m, hm, hr⟩ := List.mem_map.1 (Joined.mem_of_all_failed joined)
    exact Or.inr ⟨m, hm, hr⟩
  | refused hstage =>
    cases hx
    exact Or.inl (.refused he hstage (refused hstage))
  | @takes id r hstage arrived =>
    obtain ⟨htag, rfl⟩ := Stage.fail_of_result? hx
    exact Or.inl (.raised (.atOnce he hstage arrived) htag)
  | turnedAway hstage claims =>
    cases hx
    exact Or.inl (.turnedAway he hstage claims)
  | @collects id r hstage answer =>
    obtain ⟨htag, rfl⟩ := Stage.fail_of_result? hx
    exact Or.inl (.raised (.later he hstage answer) htag)
  | @letDown id reason hstage answer =>
    cases hx
    refine Or.inl (.letDown he hstage ?_)
    have hseat := hs.seated (.binding n)
    rw [he] at hseat
    simpa [Seated, hstage, answer] using hseat

/-- A binding that fails with an action fails by itself, or passes on a failure. -/
theorem fails_concat (hopen : opened number stem debug = .ok s)
    (h : (s.run (as ++ [a])).resolution? n = some (.error e)) :
    (s.run as).resolution? n = some (.error e) ∨ FailsAlone n e (s.run as) a ∨
      ∃ m, Uses (s.run as) n m ∧ (s.run as).resolution? m = some (.error e) := by
  have hs := (sound_opened hopen).run as
  rw [run_concat] at h
  obtain ⟨e', he', hx⟩ := resolution?_eq_some_iff.1 h
  generalize hp : Party.binding n = p at he'
  cases turns_act he' with
  | keeps errand =>
    subst hp
    exact Or.inl (resolution?_eq_some_iff.2 ⟨e', errand, hx⟩)
  | builds party compose binds =>
    cases hp.trans party
    cases binds with
    | outside =>
      cases hx
      exact Or.inr (Or.inl (.outside compose rfl))
    | atOnce => cases hx
    | deferred => cases hx
  | imports => cases hx
  | begins party => cases hp.trans party
  | @moves en c stage errand moves =>
    subst hp
    have hpast : Past (.binding n) en s as := past_run hopen as errand
    rcases moves.fails hs errand hpast.refused hx with hself | ⟨m, hm, hr⟩
    · exact Or.inr (Or.inl hself)
    · obtain ⟨b, hb, rfl⟩ := Option.map_eq_some_iff.1 errand
      exact Or.inr (Or.inr ⟨m, ⟨b, hb, (hs.recorded hb).uses ▸ hm⟩, hr⟩)
  | rewinds party => cases hp.trans party
  | stores party => cases hp.trans party

/-! All failures of a run -/

theorem resolution?_opened (hopen : opened number stem debug = .ok s) (n : Nat) :
    s.resolution? n = none := by
  have h := errand?_opened hopen (.binding n)
  rw [errand?_binding, Option.map_eq_none_iff] at h
  rw [resolution?, h]
  rfl

/-- A failed handle failed by itself, or a handle that it uses has failed with the same error. -/
theorem fails_or_inherits (hopen : opened number stem debug = .ok s)
    (h : (s.run as).resolution? n = some (.error e)) :
    Happens (FailsAlone n e) s as ∨
      ∃ m, Uses (s.run as) n m ∧ (s.run as).resolution? m = some (.error e) := by
  induction as using List.reverseRecOn with
  | nil => rw [run_nil, resolution?_opened hopen] at h; cases h
  | append_singleton as a ih =>
    have hs := (sound_opened hopen).run as
    have later : (∃ m, Uses (s.run as) n m ∧ (s.run as).resolution? m = some (.error e)) →
        ∃ m, Uses (s.run (as ++ [a])) n m ∧
          (s.run (as ++ [a])).resolution? m = some (.error e) := by
      rintro ⟨m, hm, hr⟩
      rw [run_concat]
      exact ⟨m, hm.act hs a, hs.resolution?_act hr a⟩
    rcases fails_concat hopen h with h | h | h
    · exact (ih h).imp (fun hf => hf.concat a) later
    · exact Or.inl (.last h)
    · exact Or.inr (later h)

/-- Some handle from which the failure was passed on has failed by itself. -/
theorem root_of_failure (hopen : opened number stem debug = .ok s)
    (h : (s.run as).resolution? n = some (.error e)) :
    ∃ m, Relation.ReflTransGen (Uses (s.run as)) n m ∧ Happens (FailsAlone m e) s as := by
  induction as using List.reverseRecOn generalizing n with
  | nil => rw [run_nil, resolution?_opened hopen] at h; cases h
  | append_singleton as a ih =>
    have hs := (sound_opened hopen).run as
    have later : ∀ {i j}, Uses (s.run as) i j → Uses (s.run (as ++ [a])) i j := by
      intro i j hij
      rw [run_concat]
      exact hij.act hs a
    -- the cause of a failure that is passed on now was there before
    rcases fails_concat hopen h with h | h | ⟨m, hm, hr⟩
    · obtain ⟨k, hk, hf⟩ := ih h
      exact ⟨k, Relation.ReflTransGen.mono (fun _ _ h => later h) _ _ hk, hf.concat a⟩
    · exact ⟨n, .refl, .last h⟩
    · obtain ⟨k, hk, hf⟩ := ih hr
      have hk := Relation.ReflTransGen.mono (fun _ _ h => later h) _ _ hk
      exact ⟨k, .head (later hm) hk, hf.concat a⟩

/-! Nothing downstream is sent -/

/-- The handles that a handle uses were bound when its command was queued. -/
theorem bound_of_queues (hs : s.Sound) {c : Command} (h : Happens (Queues (.binding n) c) s as)
    (hm : Uses (s.run as) n m) : ∃ text, (s.run as).resolution? m = some (.ok text) := by
  obtain ⟨before, a, after, rfl, hq⟩ := h
  have hbefore := hs.run before
  obtain ⟨uses, hc⟩ := hq.enqueues
  obtain ⟨e, he, -, heuses⟩ := hc.awaited _ hq.1
  obtain ⟨b, hb, rfl⟩ := Option.map_eq_some_iff.1 he
  obtain ⟨b', hb', huses⟩ := (hbefore.act a).uses_run hb after
  -- the handles are those of the errand that was sent
  have hmem : m ∈ uses := by
    obtain ⟨b'', hb'', hm⟩ := hm
    rw [run_append, run_cons] at hb''
    cases hb'.symm.trans hb''
    rw [← (((hbefore.act a).run after).recorded hb').uses, huses, heuses n rfl] at hm
    exact hm
  obtain ⟨text, ht⟩ := hbefore.isBound_iff.1 (hc.isBound hbefore m hmem)
  refine ⟨text, ?_⟩
  rw [run_append, run_cons]
  exact (hbefore.act a).resolution?_run (hbefore.resolution?_act ht a) after

/-! Awaiting a handle -/

/-- An errand that sends nothing ends as the one handle that it waits for. -/
theorem Errand.Moves.inherited {en : Errand} {resolution : Nat → Option (Except Error Text)}
    {c c' : Channel Party} {stage : Stage} (hm : Errand.Moves p resolution c en c' stage)
    (held : en.stage = .held) (uses : en.uses = [m]) (command : en.command = none) :
    ∃ x, resolution m = some x ∧ stage.result? = some (x.map fun _ => []) := by
  cases hm with
  | inherits _ joined =>
    have hmem := Joined.mem_of_all_failed joined
    rw [uses, List.map_singleton, List.mem_singleton] at hmem
    exact ⟨_, hmem.symm, rfl⟩
  | clears _ joined =>
    rw [uses, List.map_singleton] at joined
    obtain ⟨text, ht⟩ := Joined.ok_of_all_ready joined _ (List.mem_singleton_self _)
    exact ⟨.ok text, ht, rfl⟩
  | sends _ _ hc => rw [command] at hc; cases hc
  | starts h => rw [held] at h; cases h
  | refused h => rw [held] at h; cases h
  | takes h => rw [held] at h; cases h
  | turnedAway h => rw [held] at h; cases h
  | parks h => rw [held] at h; cases h
  | collects h => rw [held] at h; cases h
  | letDown h => rw [held] at h; cases h

/-- Whoever awaits a handle is still held, or has got what became of the handle. -/
theorem result_of_resolved (hs : s.Sound) {h : Handle} {k : Call}
    (hb : Happens (Begins n (.resolved h)) s as) (hk : (s.run as).calls n = some k) :
    (k.errand.stage = .held ∧ k.result = none) ∨
    ∃ x, (s.run as).resolution? h.number = some x ∧ k.result = some (x.map fun _ => .done) := by
  induction as using List.reverseRecOn generalizing k with
  | nil => exact absurd hb not_happens_nil
  | append_singleton as a ih =>
    have hrun := hs.run as
    have hfrom := from_of_begins hs hb hk
    have hgoal : k.goal = .done := hfrom.goal.resolve_right (by rintro ⟨_, _, h, -⟩; cases h)
    rw [run_concat] at hk ⊢
    rcases happens_concat.1 hb with hb | ⟨rfl, rfl⟩
    · -- a step can only be the one that looks at the handle
      have first : ∀ {k₀ c stage}, (s.run as).calls n = some k₀ → k₀.result = none →
          Errand.Moves (.call n) (s.run as).resolution? (s.run as).channel k₀.errand c stage →
          ∃ x, (s.run as).resolution? h.number = some x ∧
            stage.result? = some (x.map fun _ => []) := by
        intro k₀ c stage call live moves
        have hfrom₀ := from_of_begins hs hb call
        rcases ih hb call with ⟨held, -⟩ | ⟨x, -, hx⟩
        · exact moves.inherited held hfrom₀.uses hfrom₀.command
        · rw [live] at hx
          cases hx
      have hlt := lt_begun_of_begins hb
      cases proceeds_act hk with
      | keeps call =>
        rcases ih hb call with hheld | ⟨x, hx, hr⟩
        · exact Or.inl hheld
        · exact Or.inr ⟨x, hrun.resolution?_act hx a, hr⟩
      | begins number => omega
      | waits call live moves waiting =>
        obtain ⟨x, -, hstage⟩ := first call live moves
        rw [waiting] at hstage
        cases hstage
      | @ends k₀ c stage result call live moves gives =>
        obtain ⟨x, hx, hstage⟩ := first call live moves
        rw [show k₀.goal = .done from hgoal] at gives
        obtain ⟨y, hy, rfl⟩ := gives.of_done
        cases hstage.symm.trans hy
        refine Or.inr ⟨x, hrun.resolution?_act hx _, ?_⟩
        cases x <;> rfl
      | rewinds _ _ _ goal => cases hgoal.symm.trans goal
      | completes _ _ goal => cases hgoal.symm.trans goal
      | stores => cases hgoal
      | registers => cases hgoal
    · cases proceeds_act hk with
      | keeps call =>
        rw [hrun.calls _ (Nat.le_refl _)] at call
        cases call
      | begins => exact Or.inl ⟨rfl, rfl⟩

/-! The whole picture -/

/-- A failed handle failed by itself or passes on the same failure of a handle that it uses, and so
some handle behind it failed by itself with this error. A handle that uses a failed one is never
sent. Whoever awaits a handle, and whenever, gets what became of it in the end. -/
theorem failure_has_one_cause (hopen : opened number stem debug = .ok s) (as : List Action) :
    (∀ n e, (s.run as).resolution? n = some (.error e) →
      (Happens (FailsAlone n e) s as ∨
        ∃ m, Uses (s.run as) n m ∧ (s.run as).resolution? m = some (.error e)) ∧
      ∃ m, Relation.ReflTransGen (Uses (s.run as)) n m ∧ Happens (FailsAlone m e) s as) ∧
    (∀ n m e, Uses (s.run as) n m → (s.run as).resolution? m = some (.error e) →
      ∀ c, ¬ Happens (Queues (.binding n) c) s as) ∧
    (∀ n h x before, before <+: as → Happens (Begins n (.resolved h)) s before →
      (s.run before).result? n = some x →
      ((s.run as).resolution? h.number).map (Except.map fun _ => .done) = some x) := by
  have hs := sound_opened hopen
  refine ⟨?_, ?_, ?_⟩
  · intro n e h
    exact ⟨fails_or_inherits hopen h, root_of_failure hopen h⟩
  · intro n m e hm hr c hc
    obtain ⟨text, ht⟩ := bound_of_queues hs hc hm
    rw [ht] at hr
    cases hr
  · rintro n h x before ⟨after, rfl⟩ hb hx
    obtain ⟨k, hk, hkx⟩ := Option.bind_eq_some_iff.1 hx
    rcases result_of_resolved hs hb hk with ⟨-, hnone⟩ | ⟨y, hy, hr⟩
    · rw [hkx] at hnone
      cases hnone
    · rw [run_append, (hs.run before).resolution?_run hy after, ← hkx, hr]
      rfl

/-- A handle that another one uses raises an exception. -/
def raisingActions : List Action :=
  [.build true ⟨[['1']], []⟩, .build true ⟨[[], []], [.handle ⟨0, ['v'], 0⟩]⟩,
    .advance (.binding 0), .feed [48, 61, 70, 65, 73, 76, 61, 69, 10], .read,
    .advance (.binding 0), .advance (.binding 1), .advance (.binding 1)]

theorem failure_has_one_cause_raised :
    opened 0 ['v'] false = .ok newSession ∧
    (newSession.run raisingActions).resolution? 1 = some (.error (.channel (.remote ['E']))) ∧
    ∃ m, Relation.ReflTransGen (Uses (newSession.run raisingActions)) 1 m ∧
      Happens (FailsAlone m (.channel (.remote ['E']))) newSession raisingActions := by
  have hfailed : (newSession.run raisingActions).resolution? 1 =
      some (.error (.channel (.remote ['E']))) := by decide +kernel
  exact ⟨opened_newSession, hfailed,
    ((failure_has_one_cause opened_newSession raisingActions).1 1 _ hfailed).2⟩

end RemoteInterpreter.Session
