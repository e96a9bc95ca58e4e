import RemoteInterpreter.Proofs.Lifecycle
import RemoteInterpreter.Proofs.Occurrence
import RemoteInterpreter.Proofs.Refusal

/-!
# Commands on one line

An expression is refused for its line only where a fragment or a pasted text has a line end. So
what is assigned to a variable is on one line, and so is the variable: the channel has no reason
to refuse the command of a binding or a force for what it is.
-/

namespace RemoteInterpreter

namespace Session

/-- The channel could not frame the command, or the errand has failed like one that could not. -/
def Stage.Invalid (stage : Stage) : Prop :=
  ∃ fault, stage = .sent (.error (.invalidCommand fault)) ∨
    stage = .failed (.channel (.invalidCommand fault))

/-- No channel refuses the command of the errand for what it is, and none has done so. -/
structure Errand.Framed (e : Errand) : Prop where
  sends : ∀ kind source, e.command = some (kind, source) → ∀ (c : Channel Party) fault,
    (c.send kind source).2 ≠ .error (.invalidCommand fault)
  stage : ¬ e.stage.Invalid

variable {s : Session} {p : Party} {n m : Nat} {as : List Action} {b : Binding} {k : Call}
variable {stage : Stage} {fault : Text} {number : Nat} {stem : Text} {debug : Bool}

theorem Stage.invalid_of_result?
    (h : stage.result? = some (.error (.channel (.invalidCommand fault)))) : stage.Invalid := by
  cases stage with
  | failed e =>
    cases h
    exact ⟨fault, Or.inr rfl⟩
  | answered r => cases (fail_of_result? h).2
  | _ => cases h

/-- One step makes no errand invalid whose command is on one line, if no handle is that it uses. -/
theorem Errand.Moves.not_invalid {resolution : Nat → Option (Except Error Text)}
    {c c' : Channel Party} {e : Errand} (h : Errand.Moves p resolution c e c' stage)
    (old : ¬ e.stage.Invalid)
    (others : ∀ m fault, resolution m ≠ some (.error (.channel (.invalidCommand fault))))
    (line : ∀ kind source, e.command = some (kind, source) → source.breaksLine = false) :
    ¬ stage.Invalid := by
  rintro ⟨fault, hstage⟩
  cases h with
  | inherits _ joined =>
    rcases hstage with hstage | hstage
    · cases hstage
    · cases hstage
      obtain ⟨m, -, hm⟩ := List.mem_map.1 (Joined.mem_of_all_failed joined)
      exact others m fault hm
  | sends _ _ command =>
    rcases hstage with hstage | hstage
    · exact ticket_ne_invalidCommand (line _ _ command) _ _ _ (Stage.sent.inj hstage)
    · cases hstage
  | refused before =>
    rcases hstage with hstage | hstage
    · cases hstage
    · cases hstage
      exact old ⟨fault, Or.inl before⟩
  | turnedAway _ claims =>
    rcases hstage with hstage | hstage
    · cases hstage
    · cases hstage
      rcases claims.refused with h | ⟨reason, h⟩ <;> cases h
  | _ => rcases hstage with hstage | hstage <;> cases hstage

theorem Errand.framed_of_line {e : Errand}
    (line : ∀ kind source, e.command = some (kind, source) → source.breaksLine = false)
    (hstage : ¬ e.stage.Invalid) : e.Framed :=
  ⟨fun kind source command => ticket_ne_invalidCommand (line kind source command) kind, hstage⟩

theorem line_of_binding (hopen : opened number stem debug = .ok s) (as : List Action)
    (hb : (s.run as).bindings n = some b) (kind : Kind) (source : Text)
    (command : b.errand.command = some (kind, source)) : source.breaksLine = false := by
  have hstem : Identifier.isIdentifier (s.run as).stem = true := by
    rw [(extends_run s as).stem]
    exact isIdentifier_opened hopen
  rw [(((sound_opened hopen).run as).recorded hb).command] at command
  cases command
  have hline := (oneLine_run hopen as hb).source
  exact Binding.breaksLine_source (h := (s.run as).handleAt n) hstem hline

theorem resolution?_ne_of_bindings
    (h : ∀ {n b}, s.bindings n = some b → ¬ b.errand.stage.Invalid) (m : Nat) (fault : Text) :
    s.resolution? m ≠ some (.error (.channel (.invalidCommand fault))) := by
  intro hm
  obtain ⟨b, hb, hresult⟩ := Option.bind_eq_some_iff.1 hm
  exact h hb (Stage.invalid_of_result? hresult)

/-- No binding is refused for its command. -/
theorem not_invalid_binding (hopen : opened number stem debug = .ok s) (as : List Action)
    (hb : (s.run as).bindings n = some b) : ¬ b.errand.stage.Invalid := by
  -- a handle fails with the error of one that it uses, so this is shown of all of them at once
  induction as using List.reverseRecOn generalizing n b with
  | nil =>
    rw [run_nil, bindings_opened hopen] at hb
    cases hb
  | append_singleton as a ih =>
    have hline := line_of_binding hopen (as ++ [a]) hb
    rw [run_concat] at hb
    cases records_act hb with
    | keeps binding => exact ih binding
    | builds _ _ _ binds =>
      rintro ⟨fault, hstage⟩
      cases binds with
      | outside => rcases hstage with hstage | hstage <;> cases hstage
      | deferred => rcases hstage with hstage | hstage <;> cases hstage
      | atOnce =>
        rcases hstage with hstage | hstage
        · exact ticket_ne_invalidCommand (hline _ _ rfl) _ _ _ (Stage.sent.inj hstage)
        · cases hstage
    | moves binding moves =>
      exact moves.not_invalid (ih binding) (resolution?_ne_of_bindings ih) hline
    | evaluates binding =>
      have hkept := ih binding
      exact hkept

/-- No call is refused for its command if this is on one line. -/
theorem not_invalid_call (hopen : opened number stem debug = .ok s) (as : List Action)
    (hk : (s.run as).calls n = some k) (single : ∀ entries, k.goal ≠ .installed entries)
    (line : ∀ kind source, k.errand.command = some (kind, source) → source.breaksLine = false) :
    ¬ k.errand.stage.Invalid := by
  induction as using List.reverseRecOn generalizing k with
  | nil =>
    rw [run_nil, calls_opened hopen] at hk
    cases hk
  | append_singleton as a ih =>
    have others := resolution?_ne_of_bindings (not_invalid_binding hopen as)
    rw [run_concat] at hk
    cases proceeds_act hk with
    | keeps call => exact ih call single line
    | @begins r =>
      rintro ⟨fault, hstage⟩
      rcases stage_ofRequest_cases (s.run as).number r with h | ⟨e, h⟩ | ⟨id, -, h⟩ <;>
      · rw [h] at hstage
        rcases hstage with hstage | hstage <;> cases hstage
    | waits call _ moves => exact moves.not_invalid (ih call single line) others line
    | ends call _ moves => exact moves.not_invalid (ih call single line) others line
    -- only an installation sends again after its first command
    | rewinds _ _ _ goal => exact absurd goal (single _)
    | completes _ _ goal => exact absurd goal (single _)
    | stores => exact absurd rfl (single _)
    | registers => exact absurd rfl (single _)

end Session

namespace Program

variable {w : Program} {as : List Action} {stem : Nat → Text} {debug : Nat → Bool}
variable {running : Bool} {i : Nat} {fragments : List Text} {args : List Arg}

/-- What happens in one session is a run of this session, and whatever handles are passed in it
were built before. -/
theorem exists_run_session (held : w.Held [] as) (i : Nat) :
    ∃ bs, (w.run as).session i = (w.session i).run bs ∧
      ∀ b ∈ bs, ∀ h ∈ b.handles, h ∈ w.handles as := by
  induction as using List.reverseRecOn with
  | nil => exact ⟨[], rfl, nofun⟩
  | append_singleton as a ih =>
    obtain ⟨held, hlast⟩ := held_concat.1 held
    obtain ⟨bs, hbs, hhandles⟩ := ih held
    have before : ∀ b ∈ bs, ∀ h ∈ b.handles, h ∈ w.handles (as ++ [a]) := by
      intro b hb h hh
      rw [handles_concat]
      exact List.mem_append_left _ (hhandles b hb h hh)
    rw [run_concat]
    have ha := acts_act (w.run as) a
    generalize (w.run as).made? a = made, (w.run as).act a = t at ha
    cases ha with
    | idles => exact ⟨bs, hbs, before⟩
    | @steps j b passes =>
      by_cases hj : i = j
      · subst hj
        refine ⟨bs ++ [b], ?_, ?_⟩
        · rw [session_putSession, if_pos rfl, Session.run_concat, hbs]
        · refine List.forall_mem_append.2 ⟨before, List.forall_mem_singleton.2 fun h hh => ?_⟩
          rw [handles_concat]
          exact List.mem_append_left _ (by simpa using hlast h (passes h hh))
      · exact ⟨bs, by rw [session_putSession, if_neg hj, hbs], before⟩

/-- An expression of own handles is refused for a line end, or not at all. -/
theorem refuses_expr_iff (hopen : Opened stem debug w)
    (hlength : fragments.length = args.length + 1)
    (hown : ∀ p k, Arg.Occurs args p (.handle k) → k ∈ w.handles as ∧ k.session = i)
    {e : UsageError} : (w.run as).Refuses running (.expr i fragments args) e ↔
      e = .severalLines ∧ ((∃ fragment ∈ fragments, '\n' ∈ fragment ∨ '\r' ∈ fragment) ∨
        ∃ p t, Arg.Occurs args p (.raw t) ∧ ('\n' ∈ t ∨ '\r' ∈ t)) := by
  have hoccurs : ∀ k ∈ Arg.handlesOfItems args, k ∈ w.handles as ∧ k.session = i := by
    intro k hk
    obtain ⟨p, hp⟩ := Arg.mem_handlesOfItems_iff.1 hk
    exact hown p k hp
  have hsession : ∀ k ∈ Arg.handlesOfItems args, k.session = i := fun k hk => (hoccurs k hk).2
  have hcollect := Expression.collect_eq_ok_iff.2 ⟨hsession, rfl⟩
  have hcomposed : (Construction.expr i fragments args).composed =
      Expression.compose i ⟨fragments, args⟩ := rfl
  have hbreaks : (Expression.interleave fragments args).breaksLine = true ↔
      (∃ fragment ∈ fragments, '\n' ∈ fragment ∨ '\r' ∈ fragment) ∨
        ∃ p t, Arg.Occurs args p (.raw t) ∧ ('\n' ∈ t ∨ '\r' ∈ t) := by
    rw [Expression.breaksLine_interleave hlength
      fun k hk => isName_of_mem_handles hopen (hoccurs k hk).1]
    simp only [Bool.or_eq_true, List.any_eq_true, Text.breaksLine_iff, Arg.exists_raw_iff]
  have balanced : Draft.Balanced ⟨fragments, args⟩ := hlength
  rw [refuses_iff hopen, hcomposed, Expression.compose_eq_error_iff balanced, ← hbreaks]
  constructor
  · rintro (herror | ⟨-, hline, rfl⟩)
    · cases hcollect.symm.trans herror
    · exact ⟨rfl, hline⟩
  · rintro ⟨rfl, hline⟩
    exact Or.inr ⟨hsession, hline, rfl⟩

/-- A force sends the variable of a handle that was built. -/
theorem line_of_force (hopen : Opened stem debug w) {bs : List Session.Action}
    (hhandles : ∀ b ∈ bs, ∀ h ∈ b.handles, h ∈ w.handles as) {m n : Nat} {k : Session.Call}
    (hk : ((w.session i).run bs).calls m = some k) (goal : k.goal = .forced n) (kind : Kind)
    (source : Text) (command : k.errand.command = some (kind, source)) :
    source.breaksLine = false := by
  obtain ⟨h, -, ⟨before, a, after, rfl, rfl, -⟩, hcommand⟩ :=
    Session.force_of_goal (hopen i) hk goal
  cases hcommand.symm.trans command
  have hh : h ∈ w.handles as := hhandles (.begin (.force h)) (by simp) h (List.mem_singleton_self h)
  exact Identifier.breaksLine_of_isName (isName_of_mem_handles hopen hh)

theorem result_ne_of_not_invalid {k : Session.Call} {n : Nat} (hrec : k.Recorded)
    (goal : k.goal = .forced n) (hstage : ¬ k.errand.stage.Invalid) (fault : Text) :
    k.result ≠ some (.error (.channel (.invalidCommand fault))) := by
  intro hresult
  have hgives := hrec.ended hresult
  rw [goal] at hgives
  cases hgives with
  | fails _ failed => exact hstage (Session.Stage.invalid_of_result? failed)
  | concludes _ _ concludes => cases concludes

/-- Only pasted text breaks a line. With own handles an expression is refused for its line exactly
if a fragment or a pasted text at any depth has a line feed or a carriage return, and for nothing
else. So in every run the channel finds the assignment of every handle on one line, and the command
of every force. -/
theorem only_pasted_text_breaks_lines (hopen : Opened stem debug w) (held : w.Held [] as) :
    (∀ running i fragments args, fragments.length = args.length + 1 →
      (∀ p k, Arg.Occurs args p (.handle k) → k ∈ w.handles as ∧ k.session = i) →
      ∀ e, (w.run as).Refuses running (.expr i fragments args) e ↔
        e = .severalLines ∧ ((∃ fragment ∈ fragments, '\n' ∈ fragment ∨ '\r' ∈ fragment) ∨
          ∃ p t, Arg.Occurs args p (.raw t) ∧ ('\n' ∈ t ∨ '\r' ∈ t))) ∧
    (∀ i n b, ((w.run as).session i).bindings n = some b → b.errand.Framed) ∧
    ∀ i m k n, ((w.run as).session i).calls m = some k → k.goal = .forced n →
      k.errand.Framed ∧ ∀ fault, k.result ≠ some (.error (.channel (.invalidCommand fault))) := by
  refine ⟨fun running i fragments args hlength hown e => refuses_expr_iff hopen hlength hown,
    fun i n b hb => ?_, fun i m k n hk goal => ?_⟩
  · obtain ⟨bs, hbs, -⟩ := exists_run_session held i
    rw [hbs] at hb
    exact Session.Errand.framed_of_line (Session.line_of_binding (hopen i) bs hb)
      (Session.not_invalid_binding (hopen i) bs hb)
  · obtain ⟨bs, hbs, hhandles⟩ := exists_run_session held i
    rw [hbs] at hk
    have single : ∀ entries, k.goal ≠ .installed entries := by
      rw [goal]
      exact nofun
    have line := line_of_force hopen hhandles hk goal
    have hstage := Session.not_invalid_call (hopen i) bs hk single line
    exact ⟨Session.Errand.framed_of_line line hstage,
      result_ne_of_not_invalid (Session.recorded_opened (hopen i) bs hk) goal hstage⟩

/-- A handle is built and forced. -/
def forcingActions : List Action :=
  branchingActions ++ [.step 0 (.begin (.force ⟨0, ['i', 'f'], 0⟩)), .step 0 (.advance (.call 0))]

theorem only_pasted_text_breaks_lines_forced :
    Opened (fun _ => ['i', 'f']) (fun _ => false) branching ∧
    branching.Held [] forcingActions ∧
    (branching.run forcingActions).Refuses true
      (.expr 0 [[], []] [.list [.str ['\n'], .raw ['1', '\n']]]) .severalLines ∧
    (∀ e, ¬ (branching.run forcingActions).Refuses true
      (.expr 0 [[], []] [.list [.str ['\n']]]) e) ∧
    (∃ b, ((branching.run forcingActions).session 0).bindings 0 = some b ∧ b.errand.Framed) ∧
    ∃ k, ((branching.run forcingActions).session 0).calls 0 = some k ∧ k.goal = .forced 0 ∧
      k.errand.Framed := by
  have hopen : Opened (fun _ => ['i', 'f']) (fun _ => false) branching := fun _ => rfl
  have held : branching.Held [] forcingActions := by decide +kernel
  obtain ⟨hexpr, hbindings, hforces⟩ := only_pasted_text_breaks_lines hopen held
  refine ⟨hopen, held, ?_, ?_, ?_, ?_⟩
  · refine (hexpr true 0 _ _ rfl (fun p k hp => ?_) _).2 ⟨rfl, Or.inr ⟨[0, 1], ['1', '\n'], ?_, ?_⟩⟩
    · cases Arg.mem_handlesOfItems_iff.2 ⟨p, hp⟩
    · exact .inside rfl (.here rfl)
    · exact Or.inl (by decide)
  · intro e he
    obtain ⟨-, ⟨fragment, hmem, hbreaks⟩ | ⟨p, t, hp, -⟩⟩ :=
      (hexpr true 0 _ _ rfl (fun p k hp => by cases Arg.mem_handlesOfItems_iff.2 ⟨p, hp⟩) e).1 he
    · simp at hmem
      simp [hmem] at hbreaks
    · cases Arg.mem_rawsOfItems_iff.2 ⟨p, hp⟩
  · have hsome : (((branching.run forcingActions).session 0).bindings 0).isSome = true := by
      decide +kernel
    obtain ⟨b, hb⟩ := Option.isSome_iff_exists.1 hsome
    exact ⟨b, hb, hbindings 0 0 b hb⟩
  · have hgoal : (((branching.run forcingActions).session 0).calls 0).map Session.Call.goal =
        some (.forced 0) := rfl
    obtain ⟨k, hk, goal⟩ := Option.map_eq_some_iff.1 hgoal
    exact ⟨k, hk, goal, (hforces 0 0 k 0 hk goal).1⟩

end Program

end RemoteInterpreter
