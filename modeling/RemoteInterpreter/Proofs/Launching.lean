import RemoteInterpreter.Launch
import RemoteInterpreter.Proofs.KeyOrder
import RemoteInterpreter.Proofs.Schedule

/-!
# Launched sessions

Which program is started, what it finds set, and what it is told. What the program does with it is
left open: the same holds for whatever may be behind the name in a configuration.
-/

namespace RemoteInterpreter

/-! Finding a program -/

namespace Filesystem

variable {d : Disk} {directory : Place} {name path : Text} {x : Executable}

/-- The path of a program in a directory. -/
def within (name dir : Text) : Text := if dir.isEmpty then name else dir ++ '/' :: name

/-- The first directory that has the program decides. Those before it do not have it, and none of
their paths is too long. -/
theorem search_eq_ok_iff {dirs : List Text} {fault : Fault} :
    search d directory name dirs fault = .ok (path, x) ↔
      ∃ before dir after, dirs = before ++ dir :: after ∧ path = within name dir ∧
        executable d directory path = .ok x ∧
        ∀ b ∈ before, ∃ e, executable d directory (within name b) = .error e ∧ e ≠ .tooLong := by
  induction dirs generalizing fault with
  | nil => simp [search]
  | cons dir dirs ih =>
    unfold search
    dsimp only
    rw [← within]
    constructor
    · intro h
      split at h
      · next hfound =>
        cases h
        exact ⟨[], dir, dirs, rfl, rfl, hfound, nofun⟩
      · cases h
      · next e hlong hfault =>
        obtain ⟨before, found, after, rfl, hpath, hfound, hbefore⟩ := ih.1 h
        refine ⟨dir :: before, found, after, rfl, hpath, hfound, ?_⟩
        intro b hb
        rcases List.mem_cons.1 hb with rfl | hb
        · exact ⟨e, hfault, hlong⟩
        · exact hbefore b hb
    · rintro ⟨before, found, after, hdirs, hpath, hfound, hbefore⟩
      cases before with
      | nil =>
        cases hdirs
        rw [hpath] at hfound
        rw [hfound, hpath]
      | cons b before =>
        cases hdirs
        obtain ⟨e, hfault, hlong⟩ := hbefore dir List.mem_cons_self
        rw [hfault]
        cases e with
        | tooLong => exact absurd rfl hlong
        | _ =>
          exact ih.2 ⟨before, found, after, rfl, hpath, hfound,
            fun b hb => hbefore b (List.mem_cons_of_mem _ hb)⟩

end Filesystem

namespace Launch

open Simulation (Leads)

variable {c : Config} {w : Simulation}

/-! The environment -/

/-- A variable that is configured comes from the configuration, any other is set as always. -/
theorem find?_environment (h : c.env.Sorted) (name : Text) :
    Entries.find? name (environment c) =
      (Entries.find? name c.env).or (Entries.find? name standing) := by
  have hfold : ∀ vs m : Entries Text, vs.Sorted →
      Entries.find? name (vs.foldl (fun env v => env.insert v.1 v.2) m) =
        (Entries.find? name vs).or (Entries.find? name m) := by
    intro vs
    induction vs with
    | nil => simp
    | cons v vs ih =>
      intro m hv
      obtain ⟨hfirst, hrest⟩ := List.pairwise_cons.1 hv
      rw [List.foldl_cons, ih _ hrest, Entries.find?]
      split
      · next heq =>
        -- A later entry has a greater key.
        have habsent : Entries.find? name vs = none := by
          cases hv : Entries.find? name vs with
          | none => rfl
          | some value =>
            have hlt : v.1 < name := hfirst _ (Entries.mem_of_find? hv)
            exact absurd (heq ▸ hlt) (List.lt_irrefl _)
        rw [habsent, ← heq, Entries.find?_insert_self]
        rfl
      · next hne => rw [Entries.find?_insert_of_ne (Ne.symm hne)]
  exact hfold c.env standing h

/-- The last value that a variable was given counts. -/
theorem find?_environment_withEnv (h : c.env.Sorted) (key value name : Text) :
    Entries.find? name (environment (c.withEnv key value)) =
      if name = key then some value else Entries.find? name (environment c) := by
  have hsorted : (c.withEnv key value).env.Sorted := h.insert key value
  rw [find?_environment hsorted, find?_environment h, Config.withEnv]
  dsimp only
  by_cases hname : name = key
  · rw [hname, Entries.find?_insert_self, if_pos rfl]
    rfl
  · rw [Entries.find?_insert_of_ne hname, if_neg hname]

/-! Starting -/

/-- Whatever keeps an interpreter from being started, the error names the interpreter. -/
theorem notStarted_of_spawn {e : ChannelError} (h : spawn c = .error e) :
    ∃ why, e = notStarted c why := by
  unfold spawn at h
  dsimp only at h
  split at h
  · cases h
    exact ⟨_, rfl⟩
  split at h
  · cases h
    exact ⟨_, rfl⟩
  split at h
  · cases h
  · cases h
    exact ⟨_, rfl⟩

/-- A start is refused for a stem that is no name, and else for an interpreter that cannot be
started. -/
theorem start_eq_refused_iff {e : Session.Error} :
    start c = .refused e ↔
      (∃ u, Session.opened 0 c.stem c.debug = .error u ∧ e = .usage u) ∨
      ∃ s why, Session.opened 0 c.stem c.debug = .ok s ∧ spawn c = .error (notStarted c why) ∧
        e = .channel (notStarted c why) := by
  unfold start
  cases hopened : Session.opened 0 c.stem c.debug with
  | error u =>
    constructor
    · intro h
      cases h
      exact Or.inl ⟨u, rfl, rfl⟩
    · rintro (⟨_, h, rfl⟩ | ⟨_, _, h, _⟩)
      · cases h
        rfl
      · cases h
  | ok s =>
    cases hspawn : spawn c with
    | error e' =>
      obtain ⟨why, rfl⟩ := notStarted_of_spawn hspawn
      constructor
      · intro h
        cases h
        exact Or.inr ⟨s, why, rfl, rfl, rfl⟩
      · rintro (⟨_, h, _⟩ | ⟨_, _, _, h, rfl⟩)
        · cases h
        · rw [Except.error.inj h]
    | ok j =>
      constructor
      · intro h
        dsimp only at h
        split at h
        · cases h
        · split at h <;> cases h
      · rintro (⟨_, h, _⟩ | ⟨_, _, _, h, _⟩) <;> cases h

/-! What is launched -/

/-- A launch has led to this simulation. -/
def Launched (c : Config) (w : Simulation) : Prop :=
  ∃ w₀, (start c).simulation? = some w₀ ∧ Leads w₀ w

/-- The builtin decoders are installed, and an interpreter is killed, by turns and actions. -/
theorem leads_of_start {w₀ : Simulation} (h : (start c).simulation? = some w₀) :
    ∃ s j, Session.opened 0 c.stem c.debug = .ok s ∧ spawn c = .ok j ∧
      Leads (Simulation.empty.addSession (s.act .attach) (.interpreter j)) w₀ := by
  unfold start at h
  cases hopened : Session.opened 0 c.stem c.debug with
  | error u =>
    rw [hopened] at h
    cases h
  | ok s =>
    rw [hopened] at h
    cases hspawn : spawn c with
    | error e =>
      rw [hspawn] at h
      cases h
    | ok j =>
      rw [hspawn] at h
      refine ⟨s, j, rfl, rfl, ?_⟩
      dsimp only at h
      generalize Simulation.empty.addSession (s.act .attach) (.interpreter j) = w₁ at h ⊢
      split at h
      · cases h
        exact .refl _
      · have hbegun : Leads w₁ (w₁.begin 0 (.install Decode.builtins)).1 :=
          Simulation.leads_act 0 (.begin (.install Decode.builtins)) nofun w₁
        generalize w₁.begin 0 (.install Decode.builtins) = begun at h hbegun
        have hawaited := hbegun.trans (Simulation.leads_await 0 begun.2 begun.1)
        split at h
        · cases h
          exact hawaited.trans
            ((Simulation.leads_act 0 .kill nofun _).trans (Simulation.leads_settle _))
        · cases h
          exact hawaited.trans (Simulation.leads_drop 0 begun.2 _)

/-- What every action preserves holds of a launched session. -/
theorem session?_of_launched {I : Session → Prop} (step : ∀ t a, I t → I (t.act a))
    (fresh : ∀ s, Session.opened 0 c.stem c.debug = .ok s → I s) (h : Launched c w) :
    ∃ t, w.session? 0 = some t ∧ I t := by
  obtain ⟨w₀, hstart, hleads⟩ := h
  obtain ⟨s, j, hopened, -, hadded⟩ := leads_of_start hstart
  have hfirst : (Simulation.empty.addSession (s.act .attach) (.interpreter j)).session? 0 =
      some (s.act .attach) := by
    rw [Simulation.session?_eq, Simulation.ends_addSession]
    rfl
  exact Simulation.session?_preserves step (hadded.trans hleads) hfirst
    (step s .attach (fresh s hopened))

/-- The table of a launched session is sound. -/
theorem sound_of_launched (h : Launched c w) : ∃ t, w.session? 0 = some t ∧ t.Sound :=
  session?_of_launched (fun _ a ht => ht.act a) (fun _ hs => Session.sound_opened hs) h

/-- However a launched session is used, it makes a run that begins with its monitor, and whatever
program is behind it is told the lines of its commands, in their order. Read line by line, what
it is told gives back the commands. -/
theorem told_in_order (h : Launched c w) :
    ∃ s j as f, Session.opened 0 c.stem c.debug = .ok s ∧ spawn c = .ok j ∧
      w.ends[0]? = some (s.run (.attach :: as), f) ∧ f.nature = .interpreter j ∧
      f.heard <+: (s.run (.attach :: as)).channel.outbox.commands.flatMap Outbox.octets ∧
      ((s.run (.attach :: as)).channel.commandsSent ≤ Message.idBound →
        ∃ k, Interpreter.readLines f.heard =
          ((s.run (.attach :: as)).channel.outbox.commands.take k).map .ok) := by
  obtain ⟨w₀, hstart, hleads⟩ := h
  obtain ⟨s, j, hopened, hspawn, hadded⟩ := leads_of_start hstart
  have hunheard : (s.act .attach).channel.outbox.received = [] := by
    rw [Session.received_act (a := .attach) nofun, Session.channel_opened hopened]
    rfl
  obtain ⟨as, f, hget, hnature, hheard⟩ :=
    Simulation.run_of_addSession (hadded.trans hleads) hunheard
  have hreceived : f.heard = (s.run (.attach :: as)).channel.outbox.received := hheard j rfl
  refine ⟨s, j, as, f, hopened, hspawn, hget, hnature, ?_, ?_⟩
  · rw [hreceived]
    exact Session.prefix_received_run hopened (.attach :: as)
  · intro hbound
    obtain ⟨k, rest, -, -, hread⟩ := Session.readLines_received hopened hbound
    rw [hreceived]
    exact ⟨k, hread⟩

end Launch

end RemoteInterpreter
