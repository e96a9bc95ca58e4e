import RemoteInterpreter.Proofs.Deed

/-!
# Installing entries

A call that installs entries works through them in order. It stores an entry and queues its
registration in one step, and goes on to the next entry when the registration was answered well. So
wherever it is suspended, fails or is dropped, what it has done is the registration of the first
entries one after another, and a part of the next one.
-/

namespace RemoteInterpreter.Session

variable {s : Session} {n : Nat} {k : Call} {a : Action} {as bs : List Action}
variable {p : Party} {e : Entry} {c : Command} {r : Response} {entries rest : List Entry}
variable {number : Nat} {stem : Text} {debug : Bool}

/-! Entries that are registered one after another -/

/-- What is done for an entry that is registered. -/
inductive Registers (e : Entry) : List Deed → Prop
  | silently (plain : e.encoder = none) : Registers e [.stores e]
  | answered {encoder id r} (encodes : e.encoder = some encoder) (isAnswer : r.id = id)
      (passed : r.tag = .pass) :
    Registers e [.stores e, .queues ⟨id, .exec, registration e.tag encoder⟩, .hears r]

/-- The entries are registered, each before anything is done for the next. -/
inductive RegistersAll : List Entry → List Deed → Prop
  | nil : RegistersAll [] []
  | concat {es e log more} (before : RegistersAll es log) (last : Registers e more) :
    RegistersAll (es ++ [e]) (log ++ more)

/-- What is done for an entry whose registration waits, and the stage of its errand. -/
inductive Hangs (e : Entry) : List Deed → Stage → Prop
  | refused {encoder err} (encodes : e.encoder = some encoder)
      (why : err = .lineBreak ∨ ∃ reason, err = .closed reason) :
    Hangs e [.stores e] (.sent (.error err))
  | sent {encoder id} (encodes : e.encoder = some encoder) :
    Hangs e [.stores e, .queues ⟨id, .exec, registration e.tag encoder⟩] (.sent (.ok id))
  | parked {encoder id} (encodes : e.encoder = some encoder) :
    Hangs e [.stores e, .queues ⟨id, .exec, registration e.tag encoder⟩] (.parked id)

/-- What is done for an entry whose registration fails: the channel refuses it, or it stays
unanswered, or its encoder raises an exception. -/
inductive Fails (e : Entry) : List Deed → ChannelError → Prop
  | refused {encoder err} (encodes : e.encoder = some encoder)
      (why : err = .lineBreak ∨ ∃ reason, err = .closed reason) : Fails e [.stores e] err
  | unanswered {encoder id err} (encodes : e.encoder = some encoder)
      (why : err = .alreadyAwaited id ∨ ∃ reason, err = .closed reason) :
    Fails e [.stores e, .queues ⟨id, .exec, registration e.tag encoder⟩] err
  | raised {encoder id r} (encodes : e.encoder = some encoder) (isAnswer : r.id = id)
      (failed : r.tag = .fail) :
    Fails e [.stores e, .queues ⟨id, .exec, registration e.tag encoder⟩, .hears r]
      (.remote r.text)

/-- How a call that installs entries stands after what it has done. -/
inductive Standing (entries : List Entry) : List Deed → Call → Prop
  | between {done rest log k} (split : entries = done ++ rest) (registers : RegistersAll done log)
      (live : k.result = none) (goal : k.goal = .installed rest) (stage : k.errand.stage = .held) :
    Standing entries log k
  | within {done e rest log more k} (split : entries = done ++ e :: rest)
      (registers : RegistersAll done log) (live : k.result = none) (goal : k.goal = .installed rest)
      (hangs : Hangs e more k.errand.stage) : Standing entries (log ++ more) k
  | done {log k} (registers : RegistersAll entries log) (result : k.result = some (.ok .done)) :
    Standing entries log k
  | failed {done e rest log more err k} (split : entries = done ++ e :: rest)
      (registers : RegistersAll done log) (fails : Fails e more err)
      (result : k.result = some (.error (.channel err))) : Standing entries (log ++ more) k

/-! One step -/

/-- Nobody else moves a call. -/
theorem calls_of_act_of_ne (h : a ≠ .advance (.call n)) (hn : n < s.begun)
    (hk : (s.act a).calls n = some k) : s.calls n = some k := by
  cases proceeds_act hk with
  | keeps call => exact call
  | begins number => omega
  | _ => exact absurd rfl h

/-- A call that has gone does not come back. -/
theorem Proceeds.call (h : Proceeds s n a k) (hn : n < s.begun) : ∃ k', s.calls n = some k' := by
  cases h with
  | begins number => omega
  | keeps call => exact ⟨_, call⟩
  | waits call => exact ⟨_, call⟩
  | ends call => exact ⟨_, call⟩
  | rewinds call => exact ⟨_, call⟩
  | completes call => exact ⟨_, call⟩
  | stores call => exact ⟨_, call⟩
  | registers call => exact ⟨_, call⟩

/-- A call between two entries that has none left ends well. -/
theorem act_of_none_left (call : s.calls n = some k) (live : k.result = none)
    (goal : k.goal = .installed []) (stage : k.errand.stage = .held) :
    s.act (.advance (.call n)) = s.putCall n (k.finished (.ok .done)) := by
  simp only [act, advance?, advanceCall?, call, live, goal, stage, Option.getD_some]

/-- An errand of a call that installs entries waits on, fails, or gives way to the next entry. -/
theorem Settles.installed {t t' : Session} (h : Settles t n k t')
    (goal : k.goal = .installed rest) :
    (k.errand.stage.result? = none ∧ t' = t) ∨
    (∃ err, k.errand.stage.result? = some (.error err) ∧
      t' = t.putCall n (k.finished (.error err))) ∨
    ∃ text, k.errand.stage.result? = some (.ok text) ∧ t' = t.putCall n (k.atStage .held) := by
  cases h with
  | waits stage => exact Or.inl ⟨stage, rfl⟩
  | fails _ stage => exact Or.inr (Or.inl ⟨_, stage, rfl⟩)
  | goesOn _ stage => exact Or.inr (Or.inr ⟨_, stage, rfl⟩)
  | shows goal' => cases goal.symm.trans goal'
  | concludes _ _ concludes =>
    rw [goal] at concludes
    cases concludes
  | evaluates goal' => cases goal.symm.trans goal'
  | misnamed goal' => cases goal.symm.trans goal'
  | imports goal' => cases goal.symm.trans goal'

/-- The call stands like this after its turn. -/
def TurnsTo (entries : List Entry) (n : Nat) (s : Session) (log : List Deed) : Prop :=
  ∃ k, (s.act (.advance (.call n))).calls n = some k ∧
    Standing entries (log ++ s.deedsAt n (.advance (.call n))) k

variable {done : List Entry} {log more : List Deed}

theorem TurnsTo.ends (call : s.calls n = some k) (hk : k.Recorded)
    (registers : RegistersAll entries log) (live : k.result = none)
    (goal : k.goal = .installed []) (stage : k.errand.stage = .held) :
    TurnsTo entries n s log := by
  have hentered : s.entered? (.advance (.call n)) = none := by
    rw [Option.eq_none_iff_forall_not_mem]
    intro e he
    rcases entered?_eq_some_iff.1 he with h | ⟨call', -, goal', -⟩
    · cases h
    · cases call.symm.trans call'
      cases goal.symm.trans goal'
  have hqueued : s.queuedFor (.call n) (.advance (.call n)) = [] := by
    rcases queuedFor_cases (.call n) s (.advance (.call n)) with h | ⟨c, -, hq⟩
    · exact h
    · obtain ⟨k', call', -, hcommand | ⟨e, rest, goal'⟩⟩ := held_of_queues hq
      · cases call.symm.trans call'
        exact absurd (hk.installs goal).2 hcommand
      · cases call.symm.trans call'
        cases goal.symm.trans goal'
  have hdeeds : s.deedsAt n (.advance (.call n)) = [] := by
    rw [deedsAt_advance, hentered, hqueued, obtained?_of_held call stage]
    rfl
  refine ⟨k.finished (.ok .done), ?_, ?_⟩
  · rw [act_of_none_left call live goal stage, calls_putCall, put_same]
  · rw [hdeeds, List.append_nil]
    exact .done registers rfl

/-- The next entry is stored, and its registration is queued or refused in the same step. -/
theorem TurnsTo.stores (call : s.calls n = some k) (split : entries = done ++ e :: rest)
    (registers : RegistersAll done log) (live : k.result = none)
    (goal : k.goal = .installed (e :: rest)) (stage : k.errand.stage = .held) :
    TurnsTo entries n s log := by
  have hinstalls : Installs e s (.advance (.call n)) := ⟨call, live, goal, stage⟩
  have hact : s.act (.advance (.call n)) = s.store n k e rest := by
    simp only [act, advance?, advanceCall?, call, live, goal, stage, Option.getD_some]
  have hdeeds : s.deedsAt n (.advance (.call n)) =
      .stores e :: (s.queuedFor (.call n) (.advance (.call n))).map .queues := by
    rw [deedsAt_advance, entered?_eq_some_iff.2 (Or.inr hinstalls), obtained?_of_held call stage]
    simp
  have unqueued : (s.act (.advance (.call n))).channel.outbox.commands =
      s.channel.outbox.commands →
        s.deedsAt n (.advance (.call n)) = [.stores e] := by
    intro hsame
    rw [hdeeds, queuedFor, hsame, List.drop_length, ite_self, List.map_nil]
  have hst := stores_store n k e rest s
  rw [← hact] at hst
  generalize heq : s.act (.advance (.call n)) = s' at hst
  cases hst with
  | silently plain =>
    refine ⟨{ k with goal := .installed rest }, by rw [heq, calls_putCall, put_same], ?_⟩
    rw [unqueued (by rw [heq]; rfl)]
    exact .between (by rw [split, List.append_cons]) (.concat registers (.silently plain)) live rfl
      stage
  | @sending encoder encodes =>
    refine ⟨_, by rw [heq, calls_putCall, put_same], ?_⟩
    rcases send_cases .exec (registration e.tag encoder) s.channel with ⟨err, hr, hs⟩ | ⟨-, -, hs⟩
    · rw [unqueued (by rw [heq, hs]; rfl)]
      refine .within split registers live rfl ?_
      rw [hs]
      exact .refused encodes (hr.imp_right (Exists.imp fun _ => And.left))
    · have hqueues : Queues (.call n) ⟨s.channel.commandsSent, .exec, registration e.tag encoder⟩ s
          (.advance (.call n)) := by
        refine queues_advance ?_ ?_
        · rw [heq]; rfl
        · rw [heq, hs]; rfl
      rw [hdeeds, queuedFor_of_queues hqueues]
      refine .within split registers live rfl ?_
      rw [hs]
      exact .sent encodes

theorem Hangs.unheld {stage : Stage} (h : Hangs e more stage) : stage ≠ .held := by
  cases h <;> nofun

theorem Hangs.result? {stage : Stage} (h : Hangs e more stage) : stage.result? = none := by
  cases h <;> rfl

def Stage.response? : Stage → Option Response
  | .answered r => some r
  | _ => none

theorem absent_of_refused {t t' : Pending Party} {id : Nat} {err : ChannelError}
    (h : Pending.Claims t p id t' (.refused err)) : t.arrived id = none := by
  cases h with
  | finds_closed absent => exact absent
  | finds_waiter absent => exact absent

/-- A party hears a response exactly if its errand is answered. -/
theorem obtained?_of_moves {errand : Errand} {ch : Channel Party} {stage : Stage}
    (h : s.errand? p = some errand)
    (moves : Errand.Moves p s.resolution? s.channel errand ch stage) :
    s.obtained? p = stage.response? := by
  cases moves with
  | takes hs arrived => simp [obtained?, Stage.response?, h, hs, arrived]
  | turnedAway hs claims =>
    simp [obtained?, Stage.response?, h, hs, absent_of_refused claims]
  | parks hs absent => simp [obtained?, Stage.response?, h, hs, absent]
  | collects hs answer => simp [obtained?, Stage.response?, h, hs, answer]
  | letDown hs answer => simp [obtained?, Stage.response?, h, hs, answer]
  | _ hs => simp [obtained?, Stage.response?, h, hs]

/-- With the answer the entry is registered, or its registration has failed. -/
theorem Standing.hears {encoder : Text} (split : entries = done ++ e :: rest)
    (registers : RegistersAll done log) (live : k.result = none) (goal : k.goal = .installed rest)
    (encodes : e.encoder = some encoder) {ch : Channel Party}
    (settles : Settles (s.moved (.call n) ch (.answered r)) n (k.atStage (.answered r))
      (s.act (.advance (.call n)))) :
    ∃ k', (s.act (.advance (.call n))).calls n = some k' ∧ Standing entries
      (log ++ [.stores e, .queues ⟨r.id, .exec, registration e.tag encoder⟩, .hears r]) k' := by
  rcases settles.installed goal with ⟨hnone, -⟩ | ⟨err, herr, heq⟩ | ⟨text, htext, heq⟩
  · cases hnone
  · obtain ⟨hfail, rfl⟩ := Stage.fail_of_result? herr
    refine ⟨_, by rw [heq, calls_putCall, put_same], ?_⟩
    exact .failed split registers (.raised encodes rfl hfail) rfl
  · obtain ⟨hpass, -⟩ := Stage.pass_of_result? htext
    refine ⟨_, by rw [heq, calls_putCall, put_same], ?_⟩
    exact .between (by rw [split, List.append_cons])
      (.concat registers (.answered encodes rfl hpass)) live goal rfl

theorem TurnsTo.waits (call : s.calls n = some k) (split : entries = done ++ e :: rest)
    (registers : RegistersAll done log) (live : k.result = none) (goal : k.goal = .installed rest)
    (hangs : Hangs e more k.errand.stage)
    (own : ∀ {id r}, Obtains (.call n) id r s (.advance (.call n)) → r.id = id) :
    TurnsTo entries n s (log ++ more) := by
  have errand : s.errand? (.call n) = some k.errand := by rw [errand?_call, call]; rfl
  rw [TurnsTo, deedsAt_of_waiting call hangs.unheld]
  cases hadv : k.errand.advance? (.call n) s.resolution? s.channel with
  | none =>
    have hobtained : s.obtained? (.call n) = none := by
      rcases Errand.waits_of_advance?_eq_none hadv with ⟨x, hx⟩ | ⟨hheld, -⟩ | ⟨id, hid, hplace⟩
      · rw [hangs.result?] at hx
        cases hx
      · exact absurd hheld hangs.unheld
      · rw [Option.eq_none_iff_forall_not_mem]
        intro r hr
        obtain ⟨j, hj⟩ := obtained?_eq_some_iff.1 hr
        cases hj with
        | atOnce errand' stage =>
          cases errand.symm.trans errand'
          rw [hid] at stage
          cases stage
        | later _ _ answer => exact hplace _ answer
    rw [act_of_waiting call (fun _ _ => hangs.unheld) hadv, hobtained]
    exact ⟨k, call, by simpa using Standing.within split registers live goal hangs⟩
  | some x =>
    obtain ⟨ch, stage⟩ := x
    have moves := Errand.moves_of_advance? hadv
    have settles := settles_advanceCall call live (fun _ _ => hangs.unheld) hadv
    have hobtained := obtained?_of_moves errand moves
    have mine : (s.moved (.call n) ch stage).calls n = some (k.atStage stage) := by
      rw [calls_moved, if_pos rfl, call]
      rfl
    -- the errand has failed without an answer
    have unheard : ∀ {err}, stage = .failed (.channel err) → Fails e more err →
        ∃ k', (s.act (.advance (.call n))).calls n = some k' ∧ Standing entries
          (log ++ more ++ (s.obtained? (.call n)).toList.map .hears) k' := by
      rintro err rfl hfails
      rcases settles.installed goal with ⟨hnone, -⟩ | ⟨err', herr, heq⟩ | ⟨text, htext, -⟩
      · cases hnone
      · cases herr
        refine ⟨_, by rw [heq, calls_putCall, put_same], ?_⟩
        simp only [hobtained, Stage.response?, Option.toList_none, List.map_nil, List.append_nil]
        exact .failed split registers hfails rfl
      · cases htext
    generalize hstage : k.errand.stage = before at hangs
    cases hangs with
    | refused encodes why =>
      cases moves with
      | refused hs =>
        cases hstage.symm.trans hs
        exact unheard rfl (.refused encodes why)
      | _ hs => exact absurd (hstage.symm.trans hs) nofun
    | @sent encoder id encodes =>
      cases moves with
      | @takes j r hs arrived =>
        cases hstage.symm.trans hs
        obtain rfl := own (.atOnce errand hstage arrived)
        rw [hobtained]
        simpa [Stage.response?] using Standing.hears split registers live goal encodes settles
      | turnedAway hs claims =>
        cases hstage.symm.trans hs
        exact unheard rfl (.unanswered encodes claims.refused)
      | parks hs =>
        cases hstage.symm.trans hs
        rcases settles.installed goal with ⟨-, heq⟩ | ⟨err, herr, -⟩ | ⟨text, htext, -⟩
        · refine ⟨_, by rw [heq, mine], ?_⟩
          simp only [hobtained, Stage.response?, Option.toList_none, List.map_nil, List.append_nil]
          exact .within split registers live goal (.parked encodes)
        · cases herr
        · cases htext
      | _ hs => exact absurd (hstage.symm.trans hs) nofun
    | @parked encoder id encodes =>
      cases moves with
      | @collects j r hs answer =>
        cases hstage.symm.trans hs
        obtain rfl := own (.later errand hstage answer)
        rw [hobtained]
        simpa [Stage.response?] using Standing.hears split registers live goal encodes settles
      | letDown hs answer =>
        cases hstage.symm.trans hs
        exact unheard rfl (.unanswered encodes (Or.inr ⟨_, rfl⟩))
      | _ hs => exact absurd (hstage.symm.trans hs) nofun

theorem Standing.advance (hrec : ∀ {n k}, s.calls n = some k → k.Recorded)
    (own : ∀ {id r}, Obtains (.call n) id r s (.advance (.call n)) → r.id = id)
    (call : s.calls n = some k) (h : Standing entries log k) : TurnsTo entries n s log := by
  have ended : ∀ {x}, k.result = some x → TurnsTo entries n s log := by
    intro x hx
    refine ⟨k, by rw [act_of_ended call hx]; exact call, ?_⟩
    rw [deedsAt_eq_nil hrec, List.append_nil]
    · exact h
    · intro k' call'
      cases call.symm.trans call'
      rw [hx]
      nofun
  cases h with
  | @between done rest _ _ split registers live goal stage =>
    cases rest with
    | nil =>
      rw [List.append_nil] at split
      exact .ends call (hrec call) (split ▸ registers) live goal stage
    | cons e rest => exact .stores call split registers live goal stage
  | within split registers live goal hangs => exact .waits call split registers live goal hangs own
  | done _ result => exact ended result
  | failed _ _ _ result => exact ended result

/-! The whole run -/

/-- A call that is not there does nothing. -/
theorem deedsAt_of_no_call (hopen : opened number stem debug = .ok s)
    (h : (s.run as).calls n = none) (a : Action) : (s.run as).deedsAt n a = [] :=
  deedsAt_eq_nil (recorded_opened hopen as) (fun _ hk => absurd (h.symm.trans hk) nofun) a

theorem deeds_of_not_begun (hopen : opened number stem debug = .ok s)
    (h : (s.run as).begun ≤ n) : s.deeds n as = [] := by
  induction as using List.reverseRecOn with
  | nil => rfl
  | append_singleton as a ih =>
    rw [run_concat] at h
    have hbegun := Nat.le_trans (extends_act (s.run as) a).begun h
    have hnone := ((sound_opened hopen).run as).calls n hbegun
    rw [deeds_concat, ih hbegun, deedsAt_of_no_call hopen hnone]
    rfl

theorem standing_run (hopen : opened number stem debug = .ok s)
    (hb : Happens (Begins n (.install entries)) s as) :
    ∃ k, Standing entries (s.deeds n as) k ∧ ∀ k', (s.run as).calls n = some k' → k' = k := by
  induction as using List.reverseRecOn with
  | nil => exact absurd hb not_happens_nil
  | append_singleton as a ih =>
    rw [run_concat, deeds_concat]
    rcases happens_concat.1 hb with hb | ⟨rfl, rfl⟩
    · obtain ⟨k, hstanding, hcall⟩ := ih hb
      have hn := lt_begun_of_begins hb
      cases hk : (s.run as).calls n with
      | none =>
        rw [deedsAt_of_no_call hopen hk, List.append_nil]
        refine ⟨k, hstanding, fun k' hk' => ?_⟩
        obtain ⟨k₀, hk₀⟩ := (proceeds_act hk').call hn
        cases hk.symm.trans hk₀
      | some k₀ =>
        obtain rfl := hcall k₀ hk
        by_cases ha : a = .advance (.call n)
        · subst ha
          obtain ⟨k', hk', hstanding'⟩ :=
            hstanding.advance (recorded_opened hopen as) (id_of_obtains hopen) hk
          exact ⟨k', hstanding', fun k'' hk'' => Option.some.inj (hk''.symm.trans hk')⟩
        · rw [deedsAt_of_ne ha, List.append_nil]
          refine ⟨k₀, hstanding, fun k' hk' => ?_⟩
          exact Option.some.inj ((calls_of_act_of_ne ha hn hk').symm.trans hk)
    · have hnone := ((sound_opened hopen).run as).calls _ (Nat.le_refl _)
      rw [deeds_of_not_begun hopen (Nat.le_refl _), deedsAt_of_no_call hopen hnone]
      refine ⟨Call.started (.installed entries) [] none, .between rfl .nil rfl rfl rfl, ?_⟩
      intro k' hk'
      have hnew : ((s.run as).act (.begin (.install entries))).calls (s.run as).begun =
          some (Call.started (.installed entries) [] none) := put_same _ _ _
      exact Option.some.inj (hk'.symm.trans hnew)

/-! What has been done at any point -/

/-- The first entries are registered, and for the next one at most a part has been done. -/
inductive Progress (entries : List Entry) : List Deed → Prop
  | between {done rest : List Entry} {log : List Deed} (split : entries = done ++ rest)
      (registers : RegistersAll done log) : Progress entries log
  | within {done rest : List Entry} {e : Entry} {log more : List Deed}
      (split : entries = done ++ e :: rest) (registers : RegistersAll done log)
      (part : (∃ stage, Hangs e more stage) ∨ ∃ err, Fails e more err) :
    Progress entries (log ++ more)

theorem Standing.progress (h : Standing entries log k) : Progress entries log := by
  cases h with
  | between split registers => exact .between split registers
  | within split registers _ _ hangs => exact .within split registers (Or.inl ⟨_, hangs⟩)
  | done registers => exact .between (List.append_nil _).symm registers
  | failed split registers fails => exact .within split registers (Or.inr ⟨_, fails⟩)

/-- What is registered was stored, and every encoder among it was answered well. -/
theorem RegistersAll.counts (h : RegistersAll done log) :
    log.filterMap Deed.entry? = done ∧
      log.countP Deed.isPass = done.countP fun e => e.encoder.isSome := by
  induction h with
  | nil => exact ⟨rfl, rfl⟩
  | concat before last ih =>
    obtain ⟨hstored, hpassed⟩ := ih
    cases last with
    | silently plain => simp [hstored, hpassed, Deed.entry?, Deed.isPass, plain]
    | answered encodes _ passed =>
      simp [hstored, hpassed, Deed.entry?, Deed.isPass, encodes, Response.isPass, passed]

/-- A part stores its entry, which has an encoder that was not answered well. -/
theorem counts_of_part (h : (∃ stage, Hangs e more stage) ∨ ∃ err, Fails e more err) :
    more.filterMap Deed.entry? = [e] ∧ more.countP Deed.isPass = 0 ∧ e.encoder.isSome = true := by
  rcases h with ⟨stage, h⟩ | ⟨err, h⟩
  · cases h with
    | refused encodes => exact ⟨rfl, rfl, by rw [encodes]; rfl⟩
    | sent encodes => exact ⟨rfl, rfl, by rw [encodes]; rfl⟩
    | parked encodes => exact ⟨rfl, rfl, by rw [encodes]; rfl⟩
  · cases h with
    | refused encodes => exact ⟨rfl, rfl, by rw [encodes]; rfl⟩
    | unanswered encodes => exact ⟨rfl, rfl, by rw [encodes]; rfl⟩
    | raised encodes _ failed =>
      simp [Deed.entry?, Deed.isPass, Response.isPass, failed, encodes]

/-- As long as there is a part, the entries are not all registered. -/
theorem not_registersAll_of_part (split : entries = done ++ e :: rest)
    (registers : RegistersAll done log)
    (part : (∃ stage, Hangs e more stage) ∨ ∃ err, Fails e more err) :
    ¬ RegistersAll entries (log ++ more) := by
  intro hall
  obtain ⟨-, hpassed, hencodes⟩ := counts_of_part part
  have hcount := hall.counts.2
  rw [List.countP_append, hpassed, registers.counts.2, split, List.countP_append,
    List.countP_cons, if_pos hencodes] at hcount
  omega

theorem Progress.stored (h : Progress entries log) : log.filterMap Deed.entry? <+: entries := by
  cases h with
  | @between done rest log split registers =>
    rw [registers.counts.1]
    exact ⟨rest, split.symm⟩
  | @within done rest e log more split registers part =>
    rw [List.filterMap_append, registers.counts.1, (counts_of_part part).1]
    exact ⟨rest, by rw [split, ← List.append_cons]⟩

/-- In a step nothing is done before an entry is stored. -/
theorem stores_first {tail : List Deed} (h : s.deedsAt n a = log ++ .stores e :: tail) :
    log = [] := by
  have hmem : .stores e ∈ s.deedsAt n a := by rw [h]; simp
  obtain ⟨rfl, hinstalls⟩ := stores_mem_deedsAt.1 hmem
  rw [deedsAt_advance, entered?_eq_some_iff.2 (Or.inr hinstalls)] at h
  cases log with
  | nil => rfl
  | cons d log =>
    simp only [Option.toList_some, List.map_cons, List.map_nil, List.cons_append,
      List.nil_append, List.cons.injEq] at h
    have hlater : Deed.stores e ∈ log ++ .stores e :: tail := by simp
    rw [← h.2] at hlater
    simp at hlater

/-- The moment at which an entry is stored begins what is done for it. -/
theorem moment_of_stores {tail : List Deed} (h : s.deeds n as = log ++ .stores e :: tail) :
    ∃ before a after, as = before ++ a :: after ∧ s.deeds n before = log ∧
      .stores e ∈ (s.run before).deedsAt n a := by
  induction as using List.reverseRecOn generalizing tail with
  | nil => simp [deeds] at h
  | append_singleton as a ih =>
    rw [deeds_concat] at h
    rcases List.append_eq_append_iff.1 h with ⟨x, hlog, hstep⟩ | ⟨y, hbefore, htail⟩
    · obtain rfl := stores_first hstep
      exact ⟨as, a, [], rfl, by rw [hlog, List.append_nil], by rw [hstep]; exact List.mem_cons_self⟩
    · cases y with
      | nil =>
        rw [List.append_nil] at hbefore
        refine ⟨as, a, [], rfl, hbefore, ?_⟩
        rw [← List.nil_append ((s.run as).deedsAt n a), ← htail]
        exact List.mem_cons_self
      | cons d y =>
        obtain ⟨rfl, -⟩ := List.cons.inj htail
        obtain ⟨before, b, after, rfl, hdeeds, hmem⟩ := ih hbefore
        exact ⟨before, b, after ++ [a], by simp, hdeeds, hmem⟩

/-- Whose call is there has begun it by then. -/
theorem happens_of_calls (hopen : opened number stem debug = .ok s) {request : Request}
    (call : (s.run as).calls n = some k) (h : Happens (Begins n request) s (as ++ bs)) :
    Happens (Begins n request) s as := by
  induction bs using List.reverseRecOn with
  | nil => rwa [List.append_nil] at h
  | append_singleton bs a ih =>
    rw [← List.append_assoc] at h
    rcases happens_concat.1 h with h | ⟨-, hbegun⟩
    · exact ih h
    · have hlt := ((sound_opened hopen).run as).lt_begun call
      have hle := (extends_run (s.run as) bs).begun
      rw [run_append] at hbegun
      omega

/-- A call that has begun has ended, or nobody awaits it any more. -/
structure Over (n : Nat) (s : Session) : Prop where
  begun : n < s.begun
  ended : ∀ k, s.calls n = some k → k.result ≠ none

theorem Over.act (h : Over n s) (a : Action) : Over n (s.act a) := by
  refine ⟨Nat.lt_of_lt_of_le h.begun (extends_act s a).begun, fun k hk => ?_⟩
  cases proceeds_act hk with
  | keeps call => exact h.ended k call
  | begins number => exact absurd h.begun (by omega)
  | waits call live => exact absurd live (h.ended _ call)
  | ends call live => exact absurd live (h.ended _ call)
  | rewinds call live => exact absurd live (h.ended _ call)
  | completes call live => exact absurd live (h.ended _ call)
  | stores call live => exact absurd live (h.ended _ call)
  | registers call live => exact absurd live (h.ended _ call)

/-- Then nothing more is done. -/
theorem Over.deeds (hopen : opened number stem debug = .ok s) (h : Over n (s.run as))
    (bs : List Action) : s.deeds n (as ++ bs) = s.deeds n as := by
  induction bs using List.reverseRecOn with
  | nil => rw [List.append_nil]
  | append_singleton bs a ih =>
    have hover : Over n (s.run (as ++ bs)) := by
      rw [run_append]
      exact run_preserves (fun _ a ht => ht.act a) h bs
    rw [← List.append_assoc, deeds_concat, ih,
      deedsAt_eq_nil (recorded_opened hopen (as ++ bs)) hover.ended, List.append_nil]

/-- An entry that was stored stays stored until another one is stored for its tag. -/
theorem find?_of_stores (hopen : opened number stem debug = .ok s) {before after : List Action}
    (h : .stores e ∈ (s.run before).deedsAt n a)
    (never : Always (fun t b => ¬ EntersFor e.tag t b) ((s.run before).act a) after) :
    (s.run (before ++ a :: after)).registry.find? e.tag = some e := by
  have henters : Enters e (s.run before) a := Or.inr (stores_mem_deedsAt.1 h).2
  exact (find?_run_iff (registry_opened hopen) _).2
    ⟨before, a, .intro after ⟨e, henters, rfl⟩ never, henters⟩

/-- A call that is held is between two entries. -/
theorem Standing.of_held (h : Standing entries log k) (live : k.result = none)
    (held : k.errand.stage = .held) :
    ∃ done rest, entries = done ++ rest ∧ RegistersAll done log ∧ k.goal = .installed rest := by
  cases h with
  | between split registers _ goal => exact ⟨_, _, split, registers, goal⟩
  | within _ _ _ _ hangs => exact absurd held hangs.unheld
  | done _ result => exact absurd (live.symm.trans result) nofun
  | failed _ _ _ result => exact absurd (live.symm.trans result) nofun

/-- A call whose entries are all registered is over well, or only has to be told so. -/
theorem Standing.of_registersAll (h : Standing entries log k) (hall : RegistersAll entries log) :
    k.result = some (.ok .done) ∨
      (k.result = none ∧ k.goal = .installed [] ∧ k.errand.stage = .held) := by
  cases h with
  | @between done rest _ _ split registers live goal stage =>
    have hdone : done = entries := registers.counts.1.symm.trans hall.counts.1
    obtain rfl : rest = [] := List.append_right_eq_self.1 (split.symm.trans hdone.symm)
    exact Or.inr ⟨live, goal, stage⟩
  | within split registers _ _ hangs =>
    exact absurd hall (not_registersAll_of_part split registers (Or.inl ⟨_, hangs⟩))
  | done _ result => exact Or.inl result
  | failed split registers fails =>
    exact absurd hall (not_registersAll_of_part split registers (Or.inr ⟨_, fails⟩))

/-- A result is that all entries are registered, or the error of the entry that failed. -/
theorem Standing.of_result {x : Except Error Answer} (h : Standing entries log k)
    (hx : k.result = some x) : (x = .ok .done ∧ RegistersAll entries log) ∨
      ∃ done e rest registered more err, entries = done ++ e :: rest ∧
        log = registered ++ more ∧ RegistersAll done registered ∧ Fails e more err ∧
          x = .error (.channel err) := by
  cases h with
  | between _ _ live => exact absurd (live.symm.trans hx) nofun
  | within _ _ live => exact absurd (live.symm.trans hx) nofun
  | done registers result =>
    cases result.symm.trans hx
    exact Or.inl ⟨rfl, registers⟩
  | failed split registers fails result =>
    cases result.symm.trans hx
    exact Or.inr ⟨_, _, _, _, _, _, split, rfl, registers, fails, rfl⟩

theorem Fails.head {err : ChannelError} (h : Fails e more err) :
    ∃ tail, more = .stores e :: tail := by
  cases h <;> exact ⟨_, rfl⟩

/-- Whatever else happens in a session, and wherever a call that installs entries is suspended,
fails or is dropped: it has stored a first part of its entries. All before the last of these are
registered, each before the next one is stored, and an entry without an encoder sends nothing. The
call ends well exactly if all entries are registered, and then only has to have its turn. With an
error the entry that was stored last has failed; it stays stored until another one is stored for its
tag, and no later one is stored or sent. -/
theorem installing_registers_prefix (hopen : opened number stem debug = .ok s)
    (hb : Happens (Begins n (.install entries)) s as) :
    s.storedBy n as <+: entries ∧
    Progress entries (s.deeds n as) ∧
    (∀ before a after e, as = before ++ a :: after → .stores e ∈ (s.run before).deedsAt n a →
      ∃ done rest, entries = done ++ e :: rest ∧ RegistersAll done (s.deeds n before)) ∧
    (∀ x, (s.run as).result? n = some x →
      ((∃ v, x = .ok v) ↔ RegistersAll entries (s.deeds n as))) ∧
    ((s.run as).calls n ≠ none → RegistersAll entries (s.deeds n as) →
      (s.run (as ++ [.advance (.call n)])).result? n = some (.ok .done)) ∧
    (∀ x, (s.run as).result? n = some (.error x) →
      ∃ done e rest log more err, entries = done ++ e :: rest ∧ s.deeds n as = log ++ more ∧
        RegistersAll done log ∧ Fails e more err ∧ x = .channel err ∧
        s.storedBy n as = done ++ [e] ∧ ∃ before a after, as = before ++ a :: after ∧
          s.deeds n before = log ∧ .stores e ∈ (s.run before).deedsAt n a ∧
          ∀ bs, Always (fun t b => ¬ EntersFor e.tag t b) ((s.run before).act a) (after ++ bs) →
            (s.run (as ++ bs)).registry.find? e.tag = some e) ∧
    ((s.run as).calls n = none ∨ (∃ x, (s.run as).result? n = some x) →
      ∀ bs, s.deeds n (as ++ bs) = s.deeds n as) := by
  obtain ⟨k, hstanding, hcall⟩ := standing_run hopen hb
  have result : ∀ {x}, (s.run as).result? n = some x → k.result = some x := by
    intro x hx
    obtain ⟨k', hk', hx⟩ := Option.bind_eq_some_iff.1 hx
    rwa [← hcall k' hk']
  refine ⟨hstanding.progress.stored, hstanding.progress, ?_, ?_, ?_, ?_, ?_⟩
  · rintro before a after e rfl hstores
    obtain ⟨rfl, hinstalls⟩ := stores_mem_deedsAt.1 hstores
    obtain ⟨k', rest, call, live, goal, stage⟩ := call_of_installs hinstalls
    obtain ⟨k₀, hbefore, hcall⟩ := standing_run hopen (happens_of_calls hopen call hb)
    obtain rfl := hcall k' call
    obtain ⟨done, rest', split, registers, goal'⟩ := hbefore.of_held live stage
    cases goal.symm.trans goal'
    exact ⟨done, rest, split, registers⟩
  · intro x hx
    rcases hstanding.of_result (result hx) with
      ⟨rfl, hall⟩ | ⟨done, e, rest, log, more, err, hfails⟩
    · exact ⟨fun _ => hall, fun _ => ⟨_, rfl⟩⟩
    · obtain ⟨split, hlog, registers, fails, rfl⟩ := hfails
      rw [hlog]
      refine ⟨nofun, fun hall => ?_⟩
      exact absurd hall (not_registersAll_of_part split registers (Or.inr ⟨_, fails⟩))
  · intro there hall
    obtain ⟨k', hk'⟩ := Option.ne_none_iff_exists'.1 there
    obtain rfl := hcall k' hk'
    rw [run_concat]
    rcases hstanding.of_registersAll hall with hdone | ⟨live, goal, stage⟩
    · rw [act_of_ended hk' hdone, result?, hk']
      exact hdone
    · rw [act_of_none_left hk' live goal stage, result?_putCall]
      rfl
  · intro x hx
    rcases hstanding.of_result (result hx) with ⟨hok, -⟩ | ⟨done, e, rest, log, more, err, hfails⟩
    · cases hok
    · obtain ⟨split, hlog, registers, fails, herr⟩ := hfails
      cases herr
      obtain ⟨tail, rfl⟩ := fails.head
      obtain ⟨before, a, after, rfl, hbefore, hstores⟩ := moment_of_stores hlog
      have hstored : s.storedBy n (before ++ a :: after) = done ++ [e] := by
        rw [storedBy, hlog, List.filterMap_append, registers.counts.1,
          (counts_of_part (Or.inr ⟨_, fails⟩)).1]
      refine ⟨done, e, rest, log, _, err, split, hlog, registers, fails, rfl, hstored, before, a,
        after, rfl, hbefore, hstores, fun bs never => ?_⟩
      rw [List.append_assoc, List.cons_append]
      exact find?_of_stores hopen hstores never
  · intro hover
    refine Over.deeds hopen ⟨lt_begun_of_begins hb, fun k' hk' => ?_⟩
    rcases hover with hnone | ⟨x, hx⟩
    · cases hnone.symm.trans hk'
    · rw [hcall k' hk', result hx]
      exact Option.some_ne_none x

def fourEntries : List Entry :=
  [⟨['t'], .delegate, some ['f']⟩, ⟨['u'], .items, none⟩, ⟨['w'], .constant ['x'], some ['h']⟩,
    ⟨['z'], .items, none⟩]

/-- The first encoder is answered well, and the second one raises an exception, while another call
installs an entry of its own. -/
def failingInstall : List Action :=
  [.begin (.install fourEntries), .begin (.install [⟨['t'], .items, none⟩]), .advance (.call 0),
    .advance (.call 1), .feed [48, 61, 80, 65, 83, 83, 61, 79, 75, 10], .read, .advance (.call 0),
    .advance (.call 0), .registerLocal ⟨['y'], .wrapMap, some ['g']⟩, .advance (.call 0),
    .advance (.call 0), .feed [49, 61, 70, 65, 73, 76, 61, 69, 10], .read, .advance (.call 0)]

theorem installing_registers_prefix_failing :
    opened 0 ['v'] false = .ok newSession ∧
    Happens (Begins 0 (.install fourEntries)) newSession failingInstall ∧
    (newSession.run failingInstall).result? 0 = some (.error (.channel (.remote ['E']))) ∧
    newSession.storedBy 0 failingInstall = fourEntries.take 3 ∧
    ¬ RegistersAll fourEntries (newSession.deeds 0 failingInstall) ∧
    (∃ done e rest, fourEntries = done ++ e :: rest ∧ e.tag = ['w'] ∧
      newSession.storedBy 0 failingInstall = done ++ [e] ∧
      (newSession.run failingInstall).registry.find? e.tag = some e) ∧
    ∀ bs, newSession.storedBy 0 (failingInstall ++ bs) = fourEntries.take 3 := by
  have hb : Happens (Begins 0 (.install fourEntries)) newSession failingInstall :=
    ⟨[], _, _, rfl, rfl, rfl⟩
  have hresult : (newSession.run failingInstall).result? 0 =
      some (.error (.channel (.remote ['E']))) := rfl
  have hstored : newSession.storedBy 0 failingInstall = fourEntries.take 3 := by decide +kernel
  have hfound : (newSession.run failingInstall).registry.find? ['w'] =
      some ⟨['w'], .constant ['x'], some ['h']⟩ := by decide +kernel
  obtain ⟨-, -, -, hok, -, herror, hover⟩ := installing_registers_prefix opened_newSession hb
  obtain ⟨done, e, rest, log, more, err, split, -, -, -, -, hlast, -⟩ := herror _ hresult
  have htake : done ++ [e] = fourEntries.take 2 ++ [⟨['w'], .constant ['x'], some ['h']⟩] :=
    hlast.symm.trans hstored
  obtain rfl := List.singleton_inj.1 (List.append_inj' htake rfl).2
  refine ⟨opened_newSession, hb, hresult, hstored, ?_, ⟨done, _, rest, split, rfl, hlast, hfound⟩,
    fun bs => ?_⟩
  · intro hall
    obtain ⟨v, hv⟩ := (hok _ hresult).2 hall
    cases hv
  · rw [storedBy, hover (Or.inr ⟨_, hresult⟩) bs]
    exact hstored

end RemoteInterpreter.Session
