import RemoteInterpreter.Proofs.History

/-!
# What becomes of an answer

The step with which a party obtains a response leaves nothing of it behind, and decides what
the party makes of it. A result that a call could only have from an answer was made of one.
-/

namespace RemoteInterpreter.Session

variable {s : Session} {p : Party} {n : Nat} {a : Action} {as : List Action} {r : Response}

/-- The step with which a party takes what has arrived, or leaves with its answer. -/
inductive Errand.Receives (p : Party) (id : Nat) (r : Response) (c : Channel Party) (e : Errand) :
    Channel Party → Prop
  | takes (stage : e.stage = .sent (.ok id)) (arrived : c.pending.arrived id = some r) :
    Errand.Receives p id r c e
      { c with pending := { c.pending with arrived := put c.pending.arrived id none } }
  | collects (stage : e.stage = .parked id) (answer : c.pending.place p = .answered (.ok r)) :
    Errand.Receives p id r c e (c.leave p)

theorem Obtains.receives {id : Nat} (h : Obtains p id r s a) : ∃ e c, a = .advance p ∧
    s.errand? p = some e ∧ Errand.Receives p id r s.channel e c ∧
    e.advance? p s.resolution? s.channel = some (c, .answered r) := by
  cases h with
  | @atOnce e errand stage arrived =>
    refine ⟨e, _, rfl, errand, .takes stage arrived, ?_⟩
    unfold Errand.advance? Channel.claim
    rw [stage]
    simp [Pending.claim_of_arrived arrived]
  | @later e errand stage answer =>
    refine ⟨e, _, rfl, errand, .collects stage answer, ?_⟩
    unfold Errand.advance?
    rw [stage]
    simp [Errand.answer?_eq_some_iff.2 answer]

/-- A binding that obtains a response is answered with it. -/
theorem Obtains.act_binding {id : Nat} (h : Obtains (.binding n) id r s a) :
    ∃ e c, Errand.Receives (.binding n) id r s.channel e c ∧
      s.errand? (.binding n) = some e ∧ s.act a = s.moved (.binding n) c (.answered r) := by
  obtain ⟨e, c, rfl, he, hc, hadvance⟩ := h.receives
  refine ⟨e, c, hc, he, ?_⟩
  obtain ⟨b, hb, rfl⟩ := Option.map_eq_some_iff.1 he
  exact act_advanceBinding hb hadvance

/-- A call that obtains a response settles with it. -/
theorem Obtains.act_call {id : Nat} (hrec : ∀ {n k}, s.calls n = some k → k.Recorded)
    (h : Obtains (.call n) id r s a) :
    ∃ k c, Errand.Receives (.call n) id r s.channel k.errand c ∧ s.calls n = some k ∧
      k.result = none ∧
      Settles (s.moved (.call n) c (.answered r)) n (k.atStage (.answered r)) (s.act a) := by
  obtain ⟨e, c, rfl, he, hc, hadvance⟩ := h.receives
  obtain ⟨k, hk, rfl⟩ := Option.map_eq_some_iff.1 he
  have hstage : k.errand.stage.result? = none ∧ k.errand.stage ≠ .held := by
    cases hc with
    | takes stage => simp [stage, Stage.result?]
    | collects stage => simp [stage, Stage.result?]
  have hlive : k.result = none := (hrec hk).live_of_waiting hstage.1 hstage.2
  exact ⟨k, c, hc, hk, hlive, settles_advanceCall hk hlive (fun _ _ => hstage.2) hadvance⟩

theorem Obtains.pending {id : Nat} (hrec : ∀ {n k}, s.calls n = some k → k.Recorded)
    (h : Obtains p id r s a) :
    ∃ e c, Errand.Receives p id r s.channel e c ∧ s.errand? p = some e ∧
      (s.act a).channel.pending = c.pending := by
  cases p with
  | binding n =>
    obtain ⟨e, c, hc, he, hact⟩ := h.act_binding
    exact ⟨e, c, hc, he, by rw [hact, channel_moved]⟩
  | call n =>
    obtain ⟨k, c, hc, hk, -, hs⟩ := h.act_call hrec
    exact ⟨k.errand, c, hc, by rw [errand?_call, hk]; rfl, by rw [hs.pending, channel_moved]⟩

/-! What a party makes of a response -/

/-- An exception is passed on as it is, whatever the call was for. -/
theorem Goal.Gives.of_fail {goal : Goal} {x : Except Error Answer}
    (h : goal.Gives (.answered r) x) (hg : goal ≠ .response) (hr : r.tag = .fail) :
    x = .error (.channel (.remote r.text)) := by
  have raised := Stage.result?_of_fail hr
  cases h with
  | shows => exact absurd rfl hg
  | fails _ failed => rw [raised] at failed; cases failed; rfl
  | concludes _ passed => rw [raised] at passed; cases passed
  | evaluates passed => rw [raised] at passed; cases passed
  | misnamed passed => rw [raised] at passed; cases passed
  | imports passed => rw [raised] at passed; cases passed

/-- What a call with this goal has made of a response: it shows it, or gives its payload, or the
exception as it was raised, or what else its goal makes of it. A pack of entries goes on. -/
structure Goal.Hears (goal : Goal) (r : Response) (result : Option (Except Error Answer)) :
    Prop where
  response : goal = .response → result = some (.ok (.response r))
  payload : goal = .payload → r.tag = .pass → result = some (.ok (.payload r.text))
  raised : goal ≠ .response → r.tag = .fail → result = some (.error (.channel (.remote r.text)))
  gives : (∃ x, result = some x ∧ goal.Gives (.answered r) x) ∨
    ((∃ rest, goal = .installed rest) ∧ r.tag = .pass ∧ result = none)

theorem Goal.hears_of_gives {goal : Goal} {x : Except Error Answer}
    (h : goal.Gives (.answered r) x) : goal.Hears r (some x) := by
  refine ⟨?_, ?_, ?_, Or.inl ⟨x, rfl, h⟩⟩
  · rintro rfl
    cases h with
    | shows => rfl
    | fails unshown => exact absurd rfl (unshown.resolve_left (fun h => h rfl) r)
    | concludes unshown => exact absurd rfl (unshown.resolve_left (fun h => h rfl) r)
  · rintro rfl htag
    obtain ⟨y, hy, rfl⟩ := h.of_payload
    rw [Stage.result?_of_pass htag] at hy
    cases hy
    rfl
  · intro hg htag
    rw [h.of_fail hg htag]

/-- What becomes of a response that a party obtains: a handle is bound by it or fails, and a call
makes of it what its goal says. -/
structure Hears (p : Party) (r : Response) (t t' : Session) : Prop where
  binding : ∀ n, p = .binding n → t'.resolution? n = some (r.outcome.mapError .channel)
  call : ∀ n, p = .call n → ∃ k, t.calls n = some k ∧ k.goal.Hears r (t'.result? n)

theorem result?_putCall (n : Nat) (k : Call) (s : Session) :
    (s.putCall n k).result? n = k.result := by
  simp [result?]

/-- A call that comes to fail ends with the error. -/
theorem Settles.result?_of_failed {k : Call} {t t' : Session} {e : Error} (h : Settles t n k t')
    (hs : k.errand.stage = .failed e) : t'.result? n = some (.error e) := by
  cases h with
  | waits stage => rw [hs] at stage; cases stage
  | shows _ stage => rw [hs] at stage; cases stage
  | fails _ stage =>
    rw [hs] at stage
    cases stage
    exact result?_putCall _ _ _
  | concludes _ stage => rw [hs] at stage; cases stage
  | evaluates _ stage => rw [hs] at stage; cases stage
  | misnamed _ stage => rw [hs] at stage; cases stage
  | imports _ stage => rw [hs] at stage; cases stage
  | goesOn _ stage => rw [hs] at stage; cases stage

theorem Settles.hears {k : Call} {c : Channel Party} {t : Session}
    (live : k.result = none)
    (h : Settles (s.moved (.call n) c (.answered r)) n (k.atStage (.answered r)) t) :
    k.goal.Hears r (t.result? n) := by
  have finished : ∀ {u : Session} {x}, k.goal.Gives (.answered r) x →
      k.goal.Hears r ((u.putCall n ((k.atStage (.answered r)).finished x)).result? n) := by
    intro u x hx
    rw [result?_putCall]
    exact Goal.hears_of_gives hx
  cases h with
  | waits stage => cases stage
  | shows goal stage =>
    cases stage
    refine finished ?_
    rw [show k.goal = .response from goal]
    exact .shows
  | fails goal stage => exact finished (.fails goal stage)
  | concludes goal stage concludes => exact finished (.concludes goal stage concludes)
  | evaluates goal stage decoded =>
    refine finished ?_
    rw [show k.goal = _ from goal]
    exact .evaluates stage decoded
  | misnamed goal stage =>
    refine finished ?_
    rw [show k.goal = _ from goal]
    exact .misnamed stage
  | imports goal stage =>
    refine finished ?_
    rw [show k.goal = _ from goal]
    exact .imports stage
  | @goesOn text rest goal stage =>
    have goal : k.goal = .installed rest := goal
    have tag := (Stage.pass_of_result? stage).1
    have result : Session.result? n ((s.moved (.call n) c (.answered r)).putCall n
        ((k.atStage (.answered r)).atStage .held)) = none := (result?_putCall _ _ _).trans live
    rw [goal, result]
    exact ⟨nofun, nofun, fun _ hfail => absurd (tag.symm.trans hfail) nofun,
      Or.inr ⟨⟨rest, rfl⟩, tag, rfl⟩⟩

theorem Obtains.hears {id : Nat} (hrec : ∀ {n k}, s.calls n = some k → k.Recorded)
    (h : Obtains p id r s a) : Hears p r s (s.act a) := by
  constructor
  · rintro n rfl
    obtain ⟨e, c, -, he, hact⟩ := h.act_binding
    obtain ⟨b, hb, -⟩ := Option.map_eq_some_iff.1 he
    rw [hact, resolution?, bindings_moved, if_pos rfl, hb]
    rfl
  · rintro n rfl
    obtain ⟨k, c, -, hk, hlive, hs⟩ := h.act_call hrec
    exact ⟨k, hk, hs.hears hlive⟩

/-! Where a result comes from -/

/-- Without an answer an errand ends well only if it has nothing to send, and with a raised
exception only if it uses a handle that failed with it. -/
structure Errand.Plain (e : Errand) : Prop where
  cleared : e.stage = .cleared → e.command = none
  raised : ∀ text, e.stage = .failed (.channel (.remote text)) → e.uses ≠ []

theorem Refuses.ne_remote {c : Channel Party} {err : ChannelError} (h : Refuses c err)
    (text : Text) : err ≠ .remote text := by
  rcases h with rfl | ⟨reason, rfl, -⟩ <;> nofun

theorem Errand.Plain.moves {e : Errand} {resolution : Nat → Option (Except Error Text)}
    {c c' : Channel Party} {stage : Stage}
    (refused : ∀ {err}, e.stage = .sent (.error err) → Refuses c err)
    (hm : Errand.Moves p resolution c e c' stage) : Errand.Plain { e with stage := stage } := by
  cases hm with
  | inherits _ joined =>
    refine ⟨nofun, fun text _ huses => ?_⟩
    have hmem := Joined.mem_of_all_failed joined
    rw [show e.uses = [] from huses] at hmem
    cases hmem
  | clears _ _ command => exact ⟨fun _ => command, nofun⟩
  | refused stage =>
    refine ⟨nofun, fun text h => ?_⟩
    cases h
    exact absurd rfl ((refused stage).ne_remote text)
  | turnedAway _ claims =>
    refine ⟨nofun, fun text h => ?_⟩
    cases h
    rcases claims.refused with h | ⟨reason, h⟩ <;> cases h
  | _ => exact ⟨nofun, nofun⟩

theorem plain_ofRequest (session : Nat) (q : Request) :
    (Call.ofRequest session q).errand.Plain := by
  rcases stage_ofRequest_cases session q with h | ⟨e, h⟩ | ⟨id, -, h⟩ <;>
    exact ⟨by simp [h], by simp [h]⟩

theorem plain_run {number : Nat} {stem : Text} {debug : Bool}
    (hopen : opened number stem debug = .ok s) (as : List Action) {e : Errand}
    (he : (s.run as).errand? p = some e) : e.Plain := by
  induction as using List.reverseRecOn generalizing p e with
  | nil =>
    rw [run_nil, errand?_opened hopen] at he
    cases he
  | append_singleton as a ih =>
    rw [run_concat] at he
    cases turns_act he with
    | keeps errand => exact ih errand
    | builds _ _ binds => cases binds <;> exact ⟨nofun, nofun⟩
    | imports => exact ⟨nofun, nofun⟩
    | begins => exact plain_ofRequest _ _
    | moves errand moves => exact .moves (past_run hopen as errand).refused moves
    | rewinds => exact ⟨nofun, nofun⟩
    | stores => exact ⟨nofun, nofun⟩

/-- A call that sends a command and ends well, or ends with an exception that no handle could have
passed on, was answered. -/
theorem answered_of_result {number : Nat} {stem : Text} {debug : Bool}
    (hopen : opened number stem debug = .ok s) {k : Call} {x : Except Error Answer}
    (hk : (s.run as).calls n = some k) (hx : k.result = some x) (sends : k.errand.command ≠ none)
    (own : (∃ v, x = .ok v) ∨ k.errand.uses = [] ∧ ∃ text, x = .error (.channel (.remote text))) :
    ∃ r, k.errand.stage = .answered r ∧ k.goal.Gives (.answered r) x := by
  have hrec := recorded_opened hopen as hk
  have hplain := plain_run hopen as (p := .call n) (by rw [errand?_call, hk]; rfl)
  have hgives := hrec.ended hx
  cases hstage : k.errand.stage with
  | answered r => exact ⟨r, rfl, hstage ▸ hgives⟩
  | cleared => exact absurd (hplain.cleared hstage) sends
  | failed e =>
    rw [hstage] at hgives
    cases hgives.of_failed
    rcases own with ⟨v, hv⟩ | ⟨huses, text, htext⟩
    · cases hv
    · cases htext
      exact absurd huses (hplain.raised text hstage)
  | held =>
    rw [hstage] at hgives
    exact absurd (hrec.installs hgives.of_held).2 sends
  | _ =>
    rcases hgives.ended with ⟨y, hy⟩ | hheld
    · rw [hstage] at hy
      cases hy
    · rw [hstage] at hheld
      cases hheld

end RemoteInterpreter.Session
