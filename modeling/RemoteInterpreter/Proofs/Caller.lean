import RemoteInterpreter.Proofs.Event

/-!
# What callers get

A call keeps its errand's handles and command while it runs, and its result is made of
the stage to which the errand has come. A call without a result has an errand that has
not ended.
-/

namespace RemoteInterpreter.Session

/-- The result that a goal makes of the stage to which an errand has come. -/
inductive Goal.Gives : Goal → Stage → Except Error Answer → Prop
  | shows {r} : Goal.Gives .response (.answered r) (.ok (.response r))
  | fails {goal stage e} (unshown : goal ≠ .response ∨ ∀ r, stage ≠ .answered r)
      (failed : stage.result? = some (.error e)) : Goal.Gives goal stage (.error e)
  | concludes {goal stage text registry result}
      (unshown : goal ≠ .response ∨ ∀ r, stage ≠ .answered r)
      (passed : stage.result? = some (.ok text)) (concludes : goal.Concludes registry text result) :
    Goal.Gives goal stage result
  | evaluates {h stage text registry v} (passed : stage.result? = some (.ok text))
      (decoded : Decode.payload registry text = .ok v) :
    Goal.Gives (.forced h) stage (.ok (.value v))
  | misnamed {name stage text e} (passed : stage.result? = some (.ok text)) :
    Goal.Gives (.boundModule name) stage (.error (.usage e))
  | imports {name stage text h} (passed : stage.result? = some (.ok text)) :
    Goal.Gives (.boundModule name) stage (.ok (.handle h))
  | completes : Goal.Gives (.installed []) .held (.ok .done)

/-- Who only waits gets to know that it is done, or the error. -/
theorem Goal.Gives.of_done {stage : Stage} {result : Except Error Answer}
    (h : Goal.done.Gives stage result) :
    ∃ x, stage.result? = some x ∧ result = x.map fun _ => .done := by
  cases h with
  | fails _ failed => exact ⟨_, failed, rfl⟩
  | concludes _ passed concludes =>
    cases concludes
    exact ⟨_, passed, rfl⟩

/-- Who asks for the payload gets the text of the answer, or the error. -/
theorem Goal.Gives.of_payload {stage : Stage} {result : Except Error Answer}
    (h : Goal.payload.Gives stage result) :
    ∃ x, stage.result? = some x ∧ result = x.map .payload := by
  cases h with
  | fails _ failed => exact ⟨_, failed, rfl⟩
  | concludes _ passed concludes =>
    cases concludes
    exact ⟨_, passed, rfl⟩

theorem Goal.Gives.of_failed {goal : Goal} {e : Error} {result : Except Error Answer}
    (h : goal.Gives (.failed e) result) : result = .error e := by
  cases h with
  | fails _ failed => cases failed; rfl
  | concludes _ passed => cases passed
  | evaluates passed => cases passed
  | misnamed passed => cases passed
  | imports passed => cases passed

theorem Goal.Gives.of_held {goal : Goal} {result : Except Error Answer}
    (h : goal.Gives .held result) : goal = .installed [] := by
  cases h with
  | completes => rfl
  | fails _ failed => cases failed
  | concludes _ passed => cases passed
  | evaluates passed => cases passed
  | misnamed passed => cases passed
  | imports passed => cases passed

/-- A result is made of an errand that has come to its end, or between two entries. -/
theorem Goal.Gives.ended {goal : Goal} {stage : Stage} {result : Except Error Answer}
    (h : goal.Gives stage result) : (∃ x, stage.result? = some x) ∨ stage = .held := by
  cases h with
  | shows => exact Or.inl ⟨_, rfl⟩
  | fails _ failed => exact Or.inl ⟨_, failed⟩
  | concludes _ passed => exact Or.inl ⟨_, passed⟩
  | evaluates passed => exact Or.inl ⟨_, passed⟩
  | misnamed passed => exact Or.inl ⟨_, passed⟩
  | imports passed => exact Or.inl ⟨_, passed⟩
  | completes => exact Or.inr rfl

/-- How a call comes to stand as it does after an action. -/
inductive Proceeds (s : Session) (n : Nat) : Action → Call → Prop
  | keeps {a k} (call : s.calls n = some k) : Proceeds s n a k
  | begins {r} (number : n = s.begun) : Proceeds s n (.begin r) (Call.ofRequest s.number r)
  | waits {k c stage} (call : s.calls n = some k) (live : k.result = none)
      (moves : Errand.Moves (.call n) s.resolution? s.channel k.errand c stage)
      (waiting : stage.result? = none) : Proceeds s n (.advance (.call n)) (k.atStage stage)
  | ends {k c stage result} (call : s.calls n = some k) (live : k.result = none)
      (moves : Errand.Moves (.call n) s.resolution? s.channel k.errand c stage)
      (gives : k.goal.Gives stage result) :
    Proceeds s n (.advance (.call n)) ((k.atStage stage).finished result)
  | rewinds {k c stage text rest} (call : s.calls n = some k) (live : k.result = none)
      (moves : Errand.Moves (.call n) s.resolution? s.channel k.errand c stage)
      (goal : k.goal = .installed rest) (result : stage.result? = some (.ok text)) :
    Proceeds s n (.advance (.call n)) (k.atStage .held)
  | completes {k} (call : s.calls n = some k) (live : k.result = none)
      (goal : k.goal = .installed []) (stage : k.errand.stage = .held) :
    Proceeds s n (.advance (.call n)) (k.finished (.ok .done))
  | stores {k e rest} (call : s.calls n = some k) (live : k.result = none)
      (goal : k.goal = .installed (e :: rest)) (stage : k.errand.stage = .held) :
    Proceeds s n (.advance (.call n)) { k with goal := .installed rest }
  | registers {k e rest encoder} (call : s.calls n = some k) (live : k.result = none)
      (goal : k.goal = .installed (e :: rest)) (stage : k.errand.stage = .held)
      (encodes : e.encoder = some encoder) :
    Proceeds s n (.advance (.call n))
      (Call.atStage (.sent (s.channel.send .exec (registration e.tag encoder)).2)
        { k with goal := .installed rest })

variable {s : Session} {n : Nat} {a : Action} {k : Call}

theorem proceeds_of_settles {m : Nat} {k k' : Call} {c : Channel Party} {stage : Stage}
    {s' : Session} (call : s.calls m = some k) (live : k.result = none)
    (moves : Errand.Moves (.call m) s.resolution? s.channel k.errand c stage)
    (hs : Settles (s.moved (.call m) c stage) m (k.atStage stage) s')
    (h : s'.calls n = some k') : Proceeds s n (.advance (.call m)) k' := by
  have own : (s.moved (.call m) c stage).calls m = some (k.atStage stage) := by
    rw [calls_moved, if_pos rfl, call]
    rfl
  have others : n ≠ m → (s.moved (.call m) c stage).calls n = s.calls n := by
    intro hn
    rw [calls_moved, if_neg (by simpa using Ne.symm hn)]
  have put : ∀ {k₁}, RemoteInterpreter.put (s.moved (.call m) c stage).calls m (some k₁) n =
      some k' → Proceeds s m (.advance (.call m)) k₁ → Proceeds s n (.advance (.call m)) k' := by
    intro k₁ hk hp
    by_cases hn : n = m
    · subst hn
      rw [put_same] at hk
      cases hk
      exact hp
    · rw [put_other _ _ hn, others hn] at hk
      exact .keeps hk
  cases hs with
  | waits hr =>
    by_cases hn : n = m
    · subst hn
      rw [own] at h
      cases h
      exact .waits call live moves hr
    · rw [others hn] at h
      exact .keeps h
  | shows goal hstage =>
    refine put h (.ends call live moves ?_)
    rw [show k.goal = .response from goal, show stage = _ from hstage]
    exact .shows
  | fails goal hr => exact put h (.ends call live moves (.fails goal hr))
  | concludes goal hr concludes =>
    exact put h (.ends call live moves (.concludes goal hr concludes))
  | evaluates goal hr decoded =>
    rw [calls_putCall, calls_markEvaluated] at h
    refine put h (.ends call live moves ?_)
    rw [show k.goal = _ from goal]
    exact .evaluates hr decoded
  | misnamed goal hr =>
    refine put h (.ends call live moves ?_)
    rw [show k.goal = _ from goal]
    exact .misnamed hr
  | imports goal hr =>
    rw [calls_putCall, calls_bind] at h
    refine put h (.ends call live moves ?_)
    rw [show k.goal = _ from goal]
    exact .imports hr
  | goesOn goal hr =>
    have hp : Proceeds s m (.advance (.call m)) (k.atStage .held) :=
      .rewinds call live moves goal hr
    exact put h hp

theorem proceeds_of_stores {m : Nat} {k k' : Call} {e : Entry} {rest : List Entry} {s' : Session}
    (call : s.calls m = some k) (live : k.result = none) (goal : k.goal = .installed (e :: rest))
    (stage : k.errand.stage = .held) (hst : Stores s m k e rest s') (h : s'.calls n = some k') :
    Proceeds s n (.advance (.call m)) k' := by
  by_cases hn : n = m
  · subst hn
    cases hst with
    | silently =>
      rw [calls_putCall, put_same] at h
      cases h
      exact .stores call live goal stage
    | sending encodes =>
      rw [calls_putCall, put_same] at h
      cases h
      exact .registers call live goal stage encodes
  · cases hst with
    | silently =>
      rw [calls_putCall, put_other _ _ hn] at h
      exact .keeps h
    | sending =>
      rw [calls_putCall, put_other _ _ hn] at h
      exact .keeps h

theorem proceeds_act (h : (s.act a).calls n = some k) : Proceeds s n a k := by
  have ha := acts_act s a
  generalize s.act a = s' at ha h
  cases ha with
  | idles => exact .keeps h
  | builds => exact .keeps (by simpa using h)
  | begins r =>
    by_cases hn : n = s.begun
    · subst hn
      have hk : Call.ofRequest s.number r = k := by simpa [begin] using h
      subst hk
      exact .begins rfl
    · exact .keeps (by simpa [begin, hn] using h)
  | drops m =>
    by_cases hn : n = m
    · simp [drop, hn] at h
    · exact .keeps (by simpa [drop, hn] using h)
  | sends => exact .keeps h
  | registers => exact .keeps h
  | drives => exact .keeps h
  | binds => exact .keeps (by simpa [calls_moved] using h)
  | @completes m k' call live goal stage =>
    by_cases hn : n = m
    · subst hn
      rw [calls_putCall, put_same] at h
      cases h
      exact .completes call live goal stage
    · exact .keeps (by simpa [hn] using h)
  | stores call live goal stage =>
    exact proceeds_of_stores call live goal stage (stores_store _ _ _ _ s) h
  | settles call live moves hs => exact proceeds_of_settles call live moves hs h

/-! What holds of every call -/

/-- The goals of what was asked for. -/
inductive Request.Aims (r : Request) : Goal → Prop
  | done : Request.Aims r .done
  | value : Request.Aims r .value
  | response : Request.Aims r .response
  | payload : Request.Aims r .payload
  | forces {h} (isForce : r = .force h) : Request.Aims r (.forced h.number)
  | imports {name} (isImport : r = .importModule name)
      (named : Identifier.isModuleName name = true) : Request.Aims r (.boundModule name)
  | installs {entries} (isInstall : r = .install entries) : Request.Aims r (.installed entries)

theorem aims_ofRequest (session : Nat) (r : Request) : r.Aims (Call.ofRequest session r).goal := by
  have templated : ∀ {goal kind text args}, r.Aims goal →
      r.Aims (Call.templated session goal kind text args).goal := by
    intro goal kind text args haims
    unfold Call.templated
    split
    · exact .done
    · exact haims
  cases r with
  | resolved => exact .done
  | force => exact .forces rfl
  | exec => exact .done
  | eval => exact .value
  | execWith => exact templated .done
  | evalWith => exact templated .value
  | importModule name =>
    unfold Call.ofRequest
    dsimp only
    split
    · next named => exact .imports rfl named
    · exact .done
  | install => exact .installs rfl
  | receive => exact .response
  | receivePayload => exact .payload
  | sendAndReceive => exact .payload

/-- A call without a result is under way, and a result was made of the errand's stage. Entries
are installed without waiting for handles. -/
structure Call.Recorded (k : Call) : Prop where
  live : k.result = none → k.errand.stage.result? = none
  ended : ∀ {result}, k.result = some result → k.goal.Gives k.errand.stage result
  installs : ∀ {entries}, k.goal = .installed entries → k.errand.uses = [] ∧ k.errand.command = none

/-- A call whose errand waits for an answer has no result. -/
theorem Call.Recorded.live_of_waiting (h : k.Recorded)
    (waiting : k.errand.stage.result? = none) (sent : k.errand.stage ≠ .held) :
    k.result = none := by
  cases hx : k.result with
  | none => rfl
  | some x =>
    rcases (h.ended hx).ended with ⟨y, hy⟩ | hheld
    · rw [waiting] at hy
      cases hy
    · exact absurd hheld sent

/-- A call whose errand waits for handles has no result, unless its entries are all installed. -/
theorem Call.Recorded.live_of_held (h : k.Recorded) (held : k.errand.stage = .held)
    (goal : k.goal ≠ .installed []) : k.result = none := by
  cases hx : k.result with
  | none => rfl
  | some x =>
    have hgives := h.ended hx
    rw [held] at hgives
    exact absurd hgives.of_held goal

theorem Call.Recorded.result_of_failed {e : Error} (h : k.Recorded)
    (failed : k.errand.stage = .failed e) : k.result = some (.error e) := by
  cases hx : k.result with
  | none =>
    have hlive := h.live hx
    rw [failed] at hlive
    cases hlive
  | some x =>
    have hgives := h.ended hx
    rw [failed] at hgives
    rw [hgives.of_failed]

theorem Call.Recorded.templated (session : Nat) (goal : Goal) (kind : Kind) (text : Text)
    (args : List Arg) (hg : ∀ entries, goal ≠ .installed entries) :
    (Call.templated session goal kind text args).Recorded := by
  unfold Call.templated
  split
  · refine ⟨nofun, ?_, nofun⟩
    intro result h
    cases h
    exact .fails (Or.inr nofun) rfl
  · exact ⟨fun _ => rfl, nofun, fun h => absurd h (hg _)⟩

theorem Call.Recorded.ofRequest (session : Nat) (r : Request) :
    (Call.ofRequest session r).Recorded := by
  have started : ∀ goal uses command, (∀ entries, goal ≠ .installed entries) →
      (Call.started goal uses command).Recorded := by
    intro goal uses command hg
    exact ⟨fun _ => rfl, nofun, fun h => absurd h (hg _)⟩
  cases r with
  | execWith text args => exact .templated _ _ _ _ _ nofun
  | evalWith text args => exact .templated _ _ _ _ _ nofun
  | importModule name =>
    unfold Call.ofRequest
    dsimp only
    split
    · exact started _ _ _ nofun
    · refine ⟨nofun, ?_, nofun⟩
      intro result h
      cases h
      exact .fails (Or.inr nofun) rfl
  | install entries => exact ⟨fun _ => rfl, nofun, fun _ => ⟨rfl, rfl⟩⟩
  | receive id => exact ⟨fun _ => rfl, nofun, nofun⟩
  | receivePayload id => exact ⟨fun _ => rfl, nofun, nofun⟩
  | _ => exact started _ _ _ nofun

theorem Call.Recorded.proceeds (hs : ∀ {k}, s.calls n = some k → k.Recorded)
    (h : Proceeds s n a k) : k.Recorded := by
  cases h with
  | keeps call => exact hs call
  | begins => exact .ofRequest _ _
  | waits call live _ waiting =>
    have hk := hs call
    exact ⟨fun _ => waiting, fun h => absurd (live.symm.trans h) nofun, hk.installs⟩
  | ends call _ _ gives =>
    have hk := hs call
    refine ⟨nofun, ?_, hk.installs⟩
    intro result h
    cases h
    exact gives
  | rewinds call live _ goal =>
    have hk := hs call
    exact ⟨fun _ => rfl, fun h => absurd (live.symm.trans h) nofun, hk.installs⟩
  | completes call _ goal stage =>
    have hk := hs call
    refine ⟨nofun, ?_, hk.installs⟩
    intro result h
    cases h
    show Goal.Gives _ _ _
    rw [show (Call.finished _ _).goal = _ from goal,
      show (Call.finished _ _).errand.stage = _ from stage]
    exact .completes
  | stores call live goal stage =>
    have hk := hs call
    exact ⟨hk.live, fun h => absurd (live.symm.trans h) nofun, fun _ => hk.installs goal⟩
  | registers call live goal =>
    have hk := hs call
    exact ⟨fun _ => rfl, fun h => absurd (live.symm.trans h) nofun, fun _ => hk.installs goal⟩

/-- Every call of a session that a run leads to is as recorded. -/
theorem recorded_run (h : ∀ {n k}, s.calls n = some k → k.Recorded) (as : List Action) :
    ∀ {n k}, (s.run as).calls n = some k → k.Recorded :=
  run_preserves (I := fun t => ∀ {n k}, t.calls n = some k → k.Recorded)
    (fun _ _ ht => fun hk => .proceeds ht (proceeds_act hk)) h as

theorem calls_opened {number : Nat} {stem : Text} {debug : Bool}
    (h : opened number stem debug = .ok s) (n : Nat) : s.calls n = none := by
  unfold opened at h
  split at h
  · cases h; rfl
  · cases h

theorem recorded_opened {number : Nat} {stem : Text} {debug : Bool}
    (h : opened number stem debug = .ok s) (as : List Action) :
    ∀ {n k}, (s.run as).calls n = some k → k.Recorded :=
  recorded_run (fun hk => by rw [calls_opened h] at hk; cases hk) as

end RemoteInterpreter.Session
