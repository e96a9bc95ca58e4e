import RemoteInterpreter.Proofs.Telling
import RemoteInterpreter.Proofs.Transmission

/-!
# What a schedule makes of its sessions

A simulation gives turns to tasks and to callers. Whatever it does, the session of each of its
sites makes a run, and an interpreter at the far end has got the octets that left the pipe, in
their order. So what holds of all runs holds of a session whatever turns its tasks take, and
whatever program answers it.
-/

namespace RemoteInterpreter.Simulation

open Session (Party Action)

variable {w w' w'' : Simulation} {x : Site}

/-- Everything that an interpreter has got. -/
def FarEnd.heard (f : FarEnd) : Octets := f.input.pieces.flatMap Prod.snd

/-- An interpreter at the far end has got what left the pipe. -/
def Fed (e : Session × FarEnd) : Prop :=
  ∀ j, e.2.nature = .interpreter j → e.2.heard = e.1.channel.outbox.received

/-- What a session and its far end may become. -/
structure GoesOn (e e' : Session × FarEnd) : Prop where
  run : ∃ as, e'.1 = e.1.run as
  nature : e'.2.nature = e.2.nature
  fed : Fed e → Fed e'

/-- All sessions and their far ends may become what stands in their place. -/
structure Leads (w w' : Simulation) : Prop where
  length : w'.ends.length = w.ends.length
  goesOn : ∀ {i : Nat} {e}, w.ends[i]? = some e → ∃ e', w'.ends[i]? = some e' ∧ GoesOn e e'

variable {e e' e'' : Session × FarEnd}

theorem GoesOn.refl (e : Session × FarEnd) : GoesOn e e := ⟨⟨[], rfl⟩, rfl, id⟩

theorem GoesOn.trans (h : GoesOn e e') (h' : GoesOn e' e'') : GoesOn e e'' := by
  obtain ⟨as, has⟩ := h.run
  obtain ⟨bs, hbs⟩ := h'.run
  refine ⟨⟨as ++ bs, ?_⟩, h'.nature.trans h.nature, fun he => h'.fed (h.fed he)⟩
  rw [hbs, has, Session.run_append]

theorem Leads.trans (h : Leads w w') (h' : Leads w' w'') : Leads w w'' := by
  constructor
  · exact h'.length.trans h.length
  · intro i e he
    obtain ⟨e', he', hgo⟩ := h.goesOn he
    obtain ⟨e'', he'', hgo'⟩ := h'.goesOn he'
    exact ⟨e'', he'', hgo.trans hgo'⟩

theorem leads_of_eq (h : w'.ends = w.ends) : Leads w w' :=
  ⟨by rw [h], fun {i e} he => ⟨e, by rw [h, he], .refl e⟩⟩

theorem Leads.refl (w : Simulation) : Leads w w := leads_of_eq rfl

theorem Leads.ite {c : Prop} [Decidable c] (h : Leads w w') (h' : Leads w w'') :
    Leads w (if c then w' else w'') := by
  split
  · exact h
  · exact h'

/-- It does not matter what is to be done next. -/
theorem leads_of_agenda {g : Agenda} (h : Leads { w with agenda := g } w') : Leads w w' :=
  ⟨h.length, h.goesOn⟩

theorem leads_of_modify {i : Nat} {change : Session × FarEnd → Session × FarEnd}
    (h : w'.ends = w.ends.modify i change)
    (goesOn : ∀ {e}, w.ends[i]? = some e → GoesOn e (change e)) : Leads w w' := by
  constructor
  · rw [h, List.length_modify]
  · intro j e he
    rw [h, List.getElem?_modify]
    by_cases hj : i = j
    · subst hj
      exact ⟨change e, by simp [he], goesOn he⟩
    · exact ⟨e, by simp [hj, he], .refl e⟩

theorem leads_act (i : Nat) (a : Action) (h : ∀ n, a ≠ .carry n) (w : Simulation) :
    Leads w (w.act i a) := by
  apply leads_of_modify (ends_act i a w)
  intro e _
  refine ⟨⟨[a], rfl⟩, rfl, ?_⟩
  intro he j hj
  rw [Session.received_act h]
  exact he j hj

theorem leads_changeFarEnd {i : Nat} {change : FarEnd → FarEnd}
    (nature : ∀ f, (change f).nature = f.nature) (heard : ∀ f, (change f).heard = f.heard) :
    Leads w (w.changeFarEnd i change) := by
  apply leads_of_modify (ends_changeFarEnd i change w)
  intro e _
  refine ⟨⟨[], rfl⟩, nature e.2, ?_⟩
  intro he j hj
  rw [heard]
  exact he j (nature e.2 ▸ hj)

theorem ends_takeOut (i n : Nat) (w : Simulation) :
    (w.takeOut i n).ends = w.ends.modify i fun e => (e.1.act (.carry n), e.2) := by
  unfold takeOut
  split
  · next h => rw [List.modify_eq_self (length_ends_le h)]
  · next x h =>
    have hput : (w.putSite i { x with entered := x.entered - n, writerWaits := false }).ends =
        w.ends := ends_putSite_of_eq h rfl rfl
    dsimp only
    split
    · rw [ends_wake, ends_act, hput]
    · rw [ends_act, hput]

theorem FarEnd.nature_receive (fresh : Octets) (f : FarEnd) :
    (f.receive fresh).nature = f.nature := by
  unfold receive
  split <;> rfl

theorem FarEnd.heard_receive (fresh : Octets) (f : FarEnd) :
    (f.receive fresh).heard = f.heard ++ fresh := by
  unfold receive
  split
  · next h => simp [List.isEmpty_iff.1 h]
  · simp [heard, befall]

/-- What leaves the pipe is what an interpreter gets. -/
theorem leads_receive {i : Nat} (h : w.sites[i]? = some x) (n : Nat) :
    Leads w ((w.takeOut i n).changeFarEnd i
      (FarEnd.receive (x.session.channel.outbox.carried n))) := by
  have hends := ends_changeFarEnd i (FarEnd.receive (x.session.channel.outbox.carried n))
    (w.takeOut i n)
  rw [ends_takeOut, List.modify_modify_eq] at hends
  apply leads_of_modify hends
  intro e he
  rw [getElem?_ends, h] at he
  cases he
  refine ⟨⟨[.carry n], rfl⟩, FarEnd.nature_receive _ _, ?_⟩
  intro hfed j hj
  have hreceived : (x.session.act (.carry n)).channel.outbox.received =
      x.session.channel.outbox.received ++ x.session.channel.outbox.carried n :=
    Outbox.received_carry n _
  have hheard : x.farEnd.heard = x.session.channel.outbox.received :=
    hfed j ((FarEnd.nature_receive _ _).symm.trans hj)
  have hgot := FarEnd.heard_receive (x.session.channel.outbox.carried n) x.farEnd
  rw [hheard] at hgot
  exact hgot.trans hreceived.symm

/-- The far end is no interpreter. -/
def Apart (i : Nat) (w : Simulation) : Prop :=
  ∀ e, w.ends[i]? = some e → ∀ j, e.2.nature ≠ .interpreter j

theorem apart_of_nature {i : Nat} (h : w.sites[i]? = some x)
    (nature : ∀ j, x.farEnd.nature ≠ .interpreter j) : w.Apart i := by
  intro e he j
  rw [getElem?_ends, h] at he
  cases he
  exact nature j

theorem leads_takeOut {i : Nat} (h : w.Apart i) (n : Nat) : Leads w (w.takeOut i n) := by
  apply leads_of_modify (ends_takeOut i n w)
  intro e he
  exact ⟨⟨[.carry n], rfl⟩, rfl, fun _ j hj => absurd hj (h e he j)⟩

/-! Turns -/

theorem leads_goOn (i : Nat) (p : Party) (k : Nat) (w : Simulation) : Leads w (w.goOn i p k) := by
  induction k generalizing w with
  | zero => exact .refl w
  | succ k ih =>
    -- One step of the errand, if it has one now.
    have hstep : ∀ w, Leads w (goOn i p k (w.act i (.advance p))) := fun w =>
      (leads_act i (.advance p) nofun w).trans (ih _)
    unfold goOn
    split
    · exact .refl w
    · split
      · exact .refl w
      · next uses _ _ =>
        have hattend := ends_attend i p uses w
        split
        · next h =>
          rw [h] at hattend
          exact leads_of_eq hattend
        · next h =>
          rw [h] at hattend
          exact (leads_of_eq ((ends_leave i p uses _).trans hattend)).trans (hstep _)
      · split
        · exact leads_of_eq rfl
        · split
          · exact leads_of_agenda (hstep { w with agenda := w.agenda.spend })
          · exact .refl w
      · exact hstep w

theorem leads_poll (i : Nat) (p : Party) (w : Simulation) : Leads w (w.poll i p) := by
  unfold poll
  split
  · exact .refl w
  · exact leads_goOn i p _ w

theorem leads_meet (i : Nat) (need : Need) (w : Simulation) : Leads w (w.meet i need) := by
  unfold meet
  split
  · exact .refl w
  · next x h =>
    split
    · have hput : (w.putSite i { x with farEnd := { x.farEnd with need := .nothing } }).ends =
          w.ends.modify i fun e => (e.1, { e.2 with need := .nothing }) := ends_putSite h rfl
      apply leads_of_modify ((ends_wake _ _).trans hput)
      exact fun _ => ⟨⟨[], rfl⟩, rfl, id⟩
    · exact .refl w

theorem leads_writeOn (i k : Nat) (w : Simulation) : Leads w (w.writeOn i k) := by
  induction k generalizing w with
  | zero => exact .refl w
  | succ k ih =>
    have hstep : ∀ w, Leads w (writeOn i k (w.act i .write)) := fun w =>
      (leads_act i .write nofun w).trans (ih _)
    unfold writeOn
    split
    · exact .refl w
    · next x h =>
      extract_lets o rest n w₁ w₂
      split
      · have hentered : Leads w w₁ := leads_of_eq (ends_putSite_of_eq h rfl rfl)
        have htold : Leads w w₂ := .ite (hentered.trans (leads_meet i .input w₁)) hentered
        exact .ite htold (htold.trans (hstep w₂))
      · exact .ite (hstep w) (.refl w)

theorem leads_write (i : Nat) (w : Simulation) : Leads w (w.write i) := by
  unfold write
  split
  · exact .refl w
  · extract_lets o w₁
    have hwrite : Leads w w₁ := leads_writeOn i _ w
    exact .ite (hwrite.trans (leads_meet i .input w₁)) hwrite

theorem leads_readOn (i k : Nat) (w : Simulation) : Leads w (w.readOn i k) := by
  induction k generalizing w with
  | zero => exact .refl w
  | succ k ih => exact .ite ((leads_act i .read nofun w).trans (ih _)) (.refl w)

theorem leads_read (i : Nat) (w : Simulation) : Leads w (w.read i) := by
  unfold read
  split
  · exact .refl w
  · extract_lets inbox w₁
    have hmet : Leads w w₁ := .ite (.refl w) (leads_meet i .room w)
    exact hmet.trans (leads_readOn i _ w₁)

theorem Apart.leads {i : Nat} (h : w.Apart i) (hw : Leads w w') : w'.Apart i := by
  intro e' he' j
  have hlt : i < w.ends.length := by
    rw [← hw.length]
    exact (List.getElem?_eq_some_iff.1 he').1
  obtain ⟨e, he, hgo⟩ := hw.goesOn (List.getElem?_eq_getElem hlt)
  rw [he'] at he
  cases he
  rw [hgo.nature]
  exact h _ (List.getElem?_eq_getElem hlt) j

theorem leads_answerOn (i : Nat) (answer : Text → Octets) (k : Nat) {w : Simulation}
    (apart : w.Apart i) : Leads w (w.answerOn i answer k) := by
  induction k generalizing w with
  | zero => exact .refl w
  | succ k ih =>
    have hgo : ∀ {w'}, Leads w w' → Leads w (answerOn i answer k w') := fun hw =>
      hw.trans (ih (apart.leads hw))
    unfold answerOn
    split
    · exact .refl w
    · next x h =>
      dsimp only
      split
      · split
        · exact leads_of_eq rfl
        · split
          · exact leads_changeFarEnd (fun _ => rfl) (fun _ => rfl)
          · apply hgo
            apply leads_of_agenda (g := w.agenda.spend)
            refine .trans ?_ (leads_act i (.feed _) nofun _)
            exact leads_changeFarEnd (fun _ => rfl) (fun _ => rfl)
      · split
        · exact hgo (leads_changeFarEnd (fun _ => rfl) (fun _ => rfl))
        · split
          · exact leads_of_eq rfl
          · split
            · apply hgo
              have apart' : Apart i { w with agenda := w.agenda.spend } := apart
              apply leads_of_agenda (g := w.agenda.spend)
              refine (leads_takeOut apart' (min Site.chunk x.entered)).trans ?_
              exact leads_changeFarEnd (fun _ => rfl) (fun _ => rfl)
            · split
              · refine .trans ?_ (leads_act i (.finish .closed) nofun _)
                exact leads_changeFarEnd (fun _ => rfl) (fun _ => rfl)
              · exact leads_changeFarEnd (fun _ => rfl) (fun _ => rfl)

theorem leads_interpret (i : Nat) (w : Simulation) : Leads w (w.interpret i) := by
  unfold interpret
  split
  · extract_lets fresh w₁ w₂ w₃ w₄
    have h₁ : Leads w w₁ := leads_changeFarEnd (fun _ => rfl) (fun _ => rfl)
    have h₂ : Leads w w₂ := .ite h₁ (h₁.trans (leads_act i (.feed fresh) nofun w₁))
    have h₃ : Leads w w₃ := .ite (h₂.trans (leads_act i (.stopReceiving _) nofun w₂)) h₂
    have h₄ : Leads w w₄ := .ite (h₃.trans (leads_act i (.finish .closed) nofun w₃)) h₃
    exact .ite (h₄.trans (leads_act i .exit nofun w₄)) h₄
  · exact .refl w

theorem leads_watch (i : Nat) (w : Simulation) : Leads w (w.watch i) := by
  unfold watch
  split
  · exact .refl w
  · split
    · refine (leads_act i .heed nofun w).trans (.trans ?_ (leads_of_eq (ends_wake _ _)))
      exact leads_changeFarEnd (fun _ => rfl) (fun _ => rfl)
    · exact leads_act i .resume nofun w
    · exact .refl w

theorem FarEnd.heard_receiveEnd (f : FarEnd) : f.receiveEnd.heard = f.heard := by
  unfold receiveEnd
  split <;> rfl

theorem FarEnd.nature_receiveEnd (f : FarEnd) : f.receiveEnd.nature = f.nature := by
  unfold receiveEnd
  split <;> rfl

theorem leads_serve (i : Nat) (w : Simulation) : Leads w (w.serve i) := by
  unfold serve
  split
  · exact .refl w
  · next x h =>
    split
    · next answer nature =>
      apply leads_answerOn
      apply apart_of_nature h
      rw [nature]
      nofun
    · extract_lets fresh w₁ w₂
      have h₁ : Leads w w₁ := leads_receive h x.entered
      have h₂ : Leads w w₂ :=
        .ite (h₁.trans (leads_changeFarEnd FarEnd.nature_receiveEnd FarEnd.heard_receiveEnd)) h₁
      exact h₂.trans (leads_interpret i w₂)
    · next nature =>
      split
      · extract_lets w₁ w₂
        have h₂ : Leads w w₂ := by
          refine .trans ?_ (leads_act i (.stopReceiving _) nofun w₁)
          exact leads_changeFarEnd (fun _ => rfl) (fun _ => rfl)
        exact .ite (h₂.trans (leads_of_eq (ends_wake _ w₂))) h₂
      · have apart : w.Apart i := by
          apply apart_of_nature h
          rw [nature]
          nofun
        refine (leads_takeOut apart x.entered).trans ?_
        exact leads_changeFarEnd (fun _ => rfl) (fun _ => rfl)

theorem leads_turn (t : Task) (w : Simulation) : Leads w (w.turn t) := by
  unfold turn
  extract_lets w₁ again w₂
  have h₁ : Leads w w₁ := by
    apply leads_of_agenda (g := w.agenda.begin t)
    cases t with
    | writer i => exact leads_write i _
    | reader i => exact leads_read i _
    | farEnd i => exact leads_serve i _
    | monitor i => exact leads_watch i _
    | binding i n => exact leads_poll i (.binding n) _
  exact .ite (h₁.trans (leads_of_eq (ends_wake t w₂))) (h₁.trans (leads_of_eq rfl))

theorem leads_turns (k : Nat) (w : Simulation) : Leads w (w.turns k) := by
  induction k generalizing w with
  | zero => exact .refl w
  | succ k ih =>
    unfold turns
    split
    · exact .refl w
    · next t rest _ =>
      exact leads_of_agenda
        ((leads_turn t { w with agenda := { w.agenda with queue := rest } }).trans (ih _))

theorem leads_runOn (k : Nat) (w : Simulation) : Leads w (w.runOn k).2 := by
  induction k generalizing w with
  | zero => exact .refl w
  | succ k ih =>
    unfold runOn
    split
    · exact leads_of_eq rfl
    · have hround := leads_turns roundLength w
      dsimp only
      split
      · exact hround.trans (leads_of_eq rfl)
      · exact hround.trans ((leads_of_eq (ends_giveDeferred _)).trans (ih _))

/-! Callers -/

theorem leads_settle (w : Simulation) : Leads w w.settle := by
  unfold settle
  generalize w.rounds = k
  induction k generalizing w with
  | zero => exact .refl w
  | succ k ih =>
    have hrun := leads_runOn w.rounds w
    unfold settleFor
    split
    · next h =>
      rw [h] at hrun
      exact hrun.trans (ih _)
    · next h =>
      rw [h] at hrun
      exact hrun

theorem leads_letTimePass (h : w.letTimePass = some w') : Leads w w' := by
  unfold letTimePass at h
  dsimp only at h
  split at h
  · cases h
  · cases h
    refine .trans ?_ (leads_of_eq (ends_wake _ _))
    exact leads_changeFarEnd (fun _ => rfl) (fun _ => rfl)

theorem leads_await (i n : Nat) (w : Simulation) : Leads w (w.await i n) := by
  unfold await
  generalize w.rounds = k
  induction k generalizing w with
  | zero => exact .refl w
  | succ k ih =>
    unfold awaitFor
    dsimp only
    have hpoll := leads_poll i (.call n) w
    generalize w.poll i (.call n) = w₁ at hpoll
    have hrun := leads_runOn w₁.rounds w₁
    split
    · exact hpoll
    · split
      · next h =>
        rw [h] at hrun
        exact hpoll.trans (hrun.trans (ih _))
      · next h =>
        rw [h] at hrun
        split
        · next later => exact hpoll.trans (hrun.trans ((leads_letTimePass later).trans (ih _)))
        · exact hpoll.trans hrun

theorem leads_drop (i n : Nat) (w : Simulation) : Leads w (w.drop i n) :=
  (leads_act i (.drop n) nofun w).trans (leads_of_eq (ends_leave i _ _ _))

theorem leads_dismiss (i : Nat) (w : Simulation) : Leads w (w.dismiss i) := by
  refine .trans ?_ (leads_of_eq (ends_wake _ _))
  exact leads_changeFarEnd (fun _ => rfl) (fun _ => rfl)

theorem leads_report (i : Nat) (w : Simulation) : Leads w (w.report i).2 := by
  unfold report
  split
  · exact .refl w
  · next h => exact leads_of_eq (ends_putSite_of_eq h rfl rfl)

/-! Sessions in a simulation -/

/-- What every action preserves holds of a session whatever the schedule does. -/
theorem session?_preserves {I : Session → Prop} (step : ∀ t a, I t → I (t.act a)) (h : Leads w w')
    {i : Nat} {s : Session} (hs : w.session? i = some s) (holds : I s) :
    ∃ t, w'.session? i = some t ∧ I t := by
  rw [session?_eq, Option.map_eq_some_iff] at hs
  obtain ⟨e, he, rfl⟩ := hs
  obtain ⟨e', he', hgo⟩ := h.goesOn he
  obtain ⟨as, has⟩ := hgo.run
  refine ⟨e'.1, by rw [session?_eq, he']; rfl, ?_⟩
  rw [has]
  exact Session.run_preserves step holds as

theorem ends_addSession (s : Session) (nature : Nature) (w : Simulation) :
    (w.addSession s nature).ends = w.ends ++ [(s, (Site.ofSession s nature).farEnd)] := by
  simp only [addSession, ends_wake]
  rw [ends, List.map_append]
  rfl

/-- A session that has been added makes a run from then on. An interpreter that answers it gets what
leaves the pipe. -/
theorem run_of_addSession {s : Session} {nature : Nature} (h : Leads (w.addSession s nature) w')
    (unheard : s.channel.outbox.received = []) :
    ∃ as f, w'.ends[w.ends.length]? = some (s.run as, f) ∧ f.nature = nature ∧
      ∀ j, nature = .interpreter j → f.heard = (s.run as).channel.outbox.received := by
  have hadded : (w.addSession s nature).ends[w.ends.length]? =
      some (s, (Site.ofSession s nature).farEnd) := by
    rw [ends_addSession]
    exact List.getElem?_concat_length
  obtain ⟨⟨t, f⟩, hget, hgo⟩ := h.goesOn hadded
  obtain ⟨as, rfl⟩ := hgo.run
  have hnature : f.nature = nature := hgo.nature
  have hfed : Fed (s.run as, f) := hgo.fed fun _ _ => unheard.symm
  exact ⟨as, f, hget, hnature, fun j hj => hfed j (hnature.trans hj)⟩

end RemoteInterpreter.Simulation
