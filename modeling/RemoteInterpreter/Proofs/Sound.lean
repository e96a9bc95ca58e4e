import RemoteInterpreter.Proofs.Moment
import RemoteInterpreter.Proofs.View

/-!
# Sound sessions

Every session that a run leads to is sound: a party stands in the table of responses
exactly as the stage of its errand says, and the recorded state of a handle is that of
its binding.
-/

namespace RemoteInterpreter.Session

variable {s : Session} {p : Party} {n : Nat}

/-! Where parties stand -/

/-- Where a party at a stage stands in the table. Only a parked party stands there at all. -/
def Seated (t : Pending Party) (p : Party) : Option Stage → Prop
  | some (.parked id) =>
    t.place p = .parked id ∨ (∃ r, r.id = id ∧ t.place p = .answered (.ok r)) ∨
      ∃ reason, t.closed = some reason ∧ t.place p = .answered (.error reason)
  | _ => t.place p = .away

section

variable {t t' : Pending Party} {stage : Option Stage}

theorem seated_of_away (h : t.place p = .away) (hs : ∀ id, stage ≠ some (.parked id)) :
    Seated t p stage := by
  unfold Seated
  split
  · next id => exact absurd rfl (hs id)
  · exact h

theorem Seated.away (h : Seated t p stage) (hs : ∀ id, stage ≠ some (.parked id)) :
    t.place p = .away := by
  unfold Seated at h
  split at h
  · next id => exact absurd rfl (hs id)
  · exact h

/-- Nothing but its own place and the close of the table matters to a party. -/
theorem Seated.congr (h : Seated t p stage) (place : t'.place p = t.place p)
    (closed : t'.closed = t.closed) : Seated t' p stage := by
  unfold Seated at *
  rw [place, closed]
  exact h

theorem Seated.insert (h : Seated t p stage) (r : Response) : Seated (t.insert r) p stage := by
  by_cases hl : t.live? r.id = some p
  · have hp : t.place p = .parked r.id := (Pending.live?_eq_some_iff.1 hl).2
    unfold Seated at *
    split at h
    · next id =>
      rw [hp] at h
      simp only [Place.parked.injEq, reduceCtorEq, and_false, exists_false, or_false] at h
      exact Or.inr (Or.inl ⟨r, h, by rw [Pending.place_insert, if_pos hl]⟩)
    · rw [hp] at h
      cases h
  · exact h.congr (by rw [Pending.place_insert, if_neg hl]) (Pending.closed_insert r t)

theorem Seated.close (h : Seated t p stage) (reason : CloseReason) :
    Seated (t.close reason) p stage := by
  unfold Seated at *
  split at h
  · next id =>
    rw [Pending.place_close, Pending.closed_close]
    rcases h with hp | ⟨r, hr, hp⟩ | ⟨first, hc, hp⟩
    · exact Or.inr (Or.inr ⟨_, rfl, by rw [hp]; rfl⟩)
    · exact Or.inr (Or.inl ⟨r, hr, by rw [hp]; rfl⟩)
    · exact Or.inr (Or.inr ⟨first, by rw [hc]; rfl, by rw [hp]; rfl⟩)
  · rw [Pending.place_close, h]
    rfl

end

/-! What is recorded of a binding -/

/-- The recorded state of a binding tells how its errand stands. -/
structure Binding.Recorded (h : Handle) (b : Binding) : Prop where
  uses : b.errand.uses = Binding.uses b.expression
  command : b.errand.command = some (.exec, Binding.source h b.expression)
  uncleared : b.errand.stage ≠ .cleared
  bound : b.state.isBound = true ↔ ∃ text, b.resolution? = some (.ok text)
  failed : b.state = .failed ↔ ∃ e, b.resolution? = some (.error e)

section

variable {h : Handle} {b : Binding}

theorem Binding.Recorded.atStage (hb : b.Recorded h) {stage : Stage} (hs : stage ≠ .cleared) :
    (b.atStage stage).Recorded h := by
  refine ⟨hb.uses, hb.command, hs, ?_, ?_⟩
  · show State.isBound _ = true ↔ ∃ text, stage.result? = some (.ok text)
    unfold Binding.atStage
    split
    · next h => simp [h, State.isBound]
    · next h => simp [h, State.isBound]
    · next h => simp [h, State.isBound]
  · show _ = State.failed ↔ ∃ e, stage.result? = some (.error e)
    unfold Binding.atStage
    split
    · next h => simp [h]
    · next h => simp [h]
    · next h => simp [h]

theorem Binding.Recorded.marked (hb : b.Recorded h) :
    { b with state := b.state.marked }.Recorded h := by
  have hr : Binding.resolution? { b with state := b.state.marked } = b.resolution? := rfl
  refine ⟨hb.uses, hb.command, hb.uncleared, ?_, ?_⟩
  · rw [hr, ← hb.bound]
    cases b.state <;> simp [State.marked, State.isBound]
  · rw [hr, ← hb.failed]
    cases b.state <;> simp [State.marked, State.isBound]

/-- A binding that was bound has been answered, and the answer was that it went well. -/
theorem Binding.Recorded.passed (hb : b.Recorded h) (hs : b.state.isBound = true) :
    ∃ r, b.errand.stage = .answered r ∧ r.tag = .pass := by
  obtain ⟨text, ht⟩ := hb.bound.1 hs
  unfold Binding.resolution? at ht
  cases hstage : b.errand.stage with
  | answered r =>
    rw [hstage] at ht
    exact ⟨r, rfl, (Stage.pass_of_result? ht).1⟩
  | cleared => exact absurd hstage hb.uncleared
  | _ => rw [hstage] at ht; cases ht

end

theorem Binds.recorded {x : Expression} {running : Bool} {c : Channel Party} {b : Binding}
    (h : Binds s x running c b) : b.Recorded (s.handleAt s.built) := by
  cases h with
  | outside =>
    refine ⟨rfl, rfl, by simp [Binding.errandAt], ?_, ?_⟩ <;>
      simp [State.isBound, Binding.resolution?, Binding.errandAt, Stage.result?]
  | atOnce =>
    refine ⟨rfl, rfl, by simp [Binding.errandAt], ?_, ?_⟩ <;>
      simp [State.isBound, Binding.resolution?, Binding.errandAt, Stage.result?]
  | deferred =>
    refine ⟨rfl, rfl, by simp [Binding.errandAt], ?_, ?_⟩ <;>
      simp [State.isBound, Binding.resolution?, Binding.errandAt, Stage.result?]

/-! Soundness -/

structure Sound (s : Session) : Prop where
  table : s.channel.pending.Sound
  seated : ∀ p, Seated s.channel.pending p ((s.errand? p).map Errand.stage)
  bindings : ∀ n, s.bindings n = none ↔ s.built ≤ n
  calls : ∀ n, s.begun ≤ n → s.calls n = none
  recorded : ∀ {n b}, s.bindings n = some b → b.Recorded (s.handleAt n)

/-- A party that is not there yet stands nowhere. -/
theorem Sound.away (h : s.Sound) (hp : s.errand? p = none) : s.channel.pending.place p = .away := by
  have hseat := h.seated p
  rw [hp] at hseat
  exact hseat

/-- Whoever is waited for is parked. -/
theorem Sound.parked_of_live (h : s.Sound) {id : Nat}
    (hl : s.channel.pending.live? id = some p) :
    ∃ en, s.errand? p = some en ∧ en.stage = .parked id := by
  have hplace := (Pending.live?_eq_some_iff.1 hl).2
  have hseat := h.seated p
  cases he : s.errand? p with
  | none =>
    rw [h.away he] at hplace
    cases hplace
  | some en =>
    refine ⟨en, rfl, ?_⟩
    rw [he] at hseat
    unfold Seated at hseat
    split at hseat
    · next j hj =>
      rw [hplace] at hseat
      have hid : id = j := by simpa using hseat
      rw [hid]
      exact Option.some.inj hj
    · rw [hplace] at hseat
      cases hseat

/-- The answer of a parked party has the id for which the party waits. -/
theorem Sound.id_of_answer (h : s.Sound) {e : Errand} {id : Nat} {r : Response}
    (he : s.errand? p = some e) (hs : e.stage = .parked id)
    (ha : s.channel.pending.place p = .answered (.ok r)) : r.id = id := by
  have hseat := h.seated p
  rw [he] at hseat
  simpa [Seated, hs, ha] using hseat

theorem Sound.onChannel (h : s.Sound) {c : Channel Party} (table : c.pending.Sound)
    (seated : ∀ {p stage}, Seated s.channel.pending p stage → Seated c.pending p stage) :
    Sound { s with channel := c } :=
  ⟨table, fun p => by rw [errand?_channel]; exact seated (h.seated p), h.bindings, h.calls,
    h.recorded⟩

theorem Sound.drives (h : s.Sound) {a : Action} {c : Channel Party} (hd : Drives s.channel a c) :
    Sound { s with channel := c } := by
  cases hd with
  | attaches => exact h.onChannel h.table id
  | signals => exact h.onChannel h.table id
  | kills => exact h.onChannel (h.table.close _) fun hs => hs.close _
  | heeds => exact h.onChannel (h.table.close _) fun hs => hs.close _
  | exits => exact h.onChannel h.table id
  | resumes => exact h.onChannel (h.table.close _) fun hs => hs.close _
  | breaks => exact h.onChannel (h.table.close _) fun hs => hs.close _
  | ends => exact h.onChannel (h.table.close _) fun hs => hs.close _
  | delivers => exact h.onChannel (h.table.insert _) fun hs => hs.insert _
  | writes => exact h.onChannel h.table id
  | reads => exact h.onChannel h.table id
  | skips => exact h.onChannel h.table id
  | carries => exact h.onChannel h.table id
  | feeds => exact h.onChannel h.table id
  | finishes => exact h.onChannel h.table id
  | stopsReceiving => exact h.onChannel h.table id

/-- A step of an errand moves no party but its own. -/
theorem Sound.moved (h : s.Sound) {e : Errand} {c : Channel Party} {stage : Stage}
    (he : s.errand? p = some e) (hm : Errand.Moves p s.resolution? s.channel e c stage) :
    (s.moved p c stage).Sound := by
  have table : c.pending.Sound := by
    cases hm with
    | takes _ arrived => exact h.table.claims (k := p) (.takes arrived)
    | parks _ absent isOpen free => exact h.table.claims (.parks absent isOpen free)
    | collects => exact h.table.leave p
    | letDown => exact h.table.leave p
    | sends => rw [pending_send]; exact h.table
    | _ => exact h.table
  have others : ∀ q, q ≠ p → c.pending.place q = s.channel.pending.place q := by
    intro q hq
    cases hm with
    | parks => exact put_other _ _ hq
    | collects => exact put_other _ _ hq
    | letDown => exact put_other _ _ hq
    | sends => rw [pending_send]
    | _ => rfl
  have own : Seated c.pending p (some stage) := by
    have hseat := h.seated p
    rw [he] at hseat
    cases hm with
    | parks => exact Or.inl (put_same _ _ _)
    | collects => exact put_same _ _ _
    | letDown => exact put_same _ _ _
    | starts hs => exact hseat.away (by simp [hs])
    | inherits hs => exact hseat.away (by simp [hs])
    | clears hs => exact hseat.away (by simp [hs])
    | sends hs => rw [pending_send]; exact hseat.away (by simp [hs])
    | refused hs => exact hseat.away (by simp [hs])
    | takes hs => exact hseat.away (by simp [hs])
    | turnedAway hs => exact hseat.away (by simp [hs])
  refine ⟨by rw [channel_moved]; exact table, ?_, ?_, ?_, ?_⟩
  · intro q
    rw [channel_moved, errand?_moved]
    by_cases hq : q = p
    · subst hq
      rw [if_pos rfl, he]
      exact own
    · rw [if_neg hq]
      exact (h.seated q).congr (others q hq) hm.closed
  · intro n
    rw [bindings_moved, built_moved, ← h.bindings n]
    split
    · simp
    · rfl
  · intro n hn
    rw [begun_moved] at hn
    rw [calls_moved, h.calls n hn]
    split <;> rfl
  · intro n b hb
    rw [bindings_moved] at hb
    rw [handleAt_moved]
    split at hb
    · next hp =>
      subst hp
      obtain ⟨b', hb', rfl⟩ := Option.map_eq_some_iff.1 hb
      have hrec := h.recorded hb'
      refine hrec.atStage ?_
      rintro rfl
      rw [errand?_binding, hb'] at he
      cases he
      cases hm with
      | clears _ _ command => rw [hrec.command] at command; cases command
    · exact h.recorded hb

theorem Sound.bind (h : s.Sound) (running : Bool) (x : Expression) : (s.bind running x).Sound := by
  obtain ⟨c, b, hb, heq⟩ := bind_eq running x s
  have free : s.bindings s.built = none := (h.bindings s.built).2 (Nat.le_refl _)
  rw [heq]
  refine ⟨?_, ?_, ?_, h.calls, ?_⟩
  · show c.pending.Sound
    rw [hb.pending]
    exact h.table
  · intro q
    rw [errand?_addBinding]
    show Seated c.pending q _
    rw [hb.pending]
    split
    · next hq =>
      subst hq
      refine seated_of_away (h.away (by simp [free])) ?_
      cases hb <;> simp [Binding.errandAt]
    · rw [errand?_channel]
      exact h.seated q
  · intro n
    show put s.bindings s.built (some b) n = none ↔ s.built + 1 ≤ n
    by_cases hn : n = s.built
    · simp [hn]
    · rw [put_other _ _ hn, h.bindings n]
      omega
  · intro n b' hb'
    by_cases hn : n = s.built
    · subst hn
      have : b = b' := by simpa [addBinding, putBinding] using hb'
      subst this
      exact hb.recorded
    · exact h.recorded (by simpa [addBinding, putBinding, hn] using hb')

theorem Sound.markEvaluated (h : s.Sound) (n : Nat) : (s.markEvaluated n).Sound := by
  refine ⟨by rw [channel_markEvaluated]; exact h.table, ?_, ?_, ?_, ?_⟩
  · intro q
    rw [channel_markEvaluated, errand?_markEvaluated]
    exact h.seated q
  · intro m
    rw [bindings_markEvaluated, built_markEvaluated, ← h.bindings m]
    split
    · simp
    · rfl
  · intro m hm
    rw [begun_markEvaluated] at hm
    rw [calls_markEvaluated, h.calls m hm]
  · intro m b hb
    rw [bindings_markEvaluated] at hb
    rw [handleAt_markEvaluated]
    split at hb
    · obtain ⟨b', hb', rfl⟩ := Option.map_eq_some_iff.1 hb
      exact (h.recorded hb').marked
    · exact h.recorded hb

/-- A call may be put down if it exists and stands nowhere, before and after. -/
theorem Sound.putCall (h : s.Sound) {k : Call} (hn : n < s.begun)
    (away : s.channel.pending.place (.call n) = .away)
    (hs : ∀ id, k.errand.stage ≠ .parked id) : (s.putCall n k).Sound := by
  refine ⟨h.table, ?_, h.bindings, ?_, h.recorded⟩
  · intro q
    rw [channel_putCall, errand?_putCall]
    split
    · next hq =>
      subst hq
      exact seated_of_away away (by simpa using hs)
    · exact h.seated q
  · intro m hm
    rw [begun_putCall] at hm
    have hne : m ≠ n := by omega
    rw [calls_putCall, put_other _ _ hne]
    exact h.calls m hm

theorem Sound.drop (h : s.Sound) (n : Nat) : (s.drop n).Sound := by
  refine ⟨h.table.leave _, ?_, h.bindings, ?_, h.recorded⟩
  · intro q
    rw [errand?_drop]
    split
    · next hq =>
      subst hq
      exact put_same _ _ _
    · next hq => exact (h.seated q).congr (put_other _ _ hq) rfl
  · intro m hm
    by_cases hn : m = n
    · simp [Session.drop, hn]
    · simpa [Session.drop, hn] using h.calls m hm

/-- A new call is held, or has been refused, or has been given its id. -/
theorem stage_ofRequest_cases (session : Nat) (r : Request) :
    (Call.ofRequest session r).errand.stage = .held ∨
    (∃ e, (Call.ofRequest session r).errand.stage = .failed (.usage e)) ∨
    ∃ id, (r = .receive id ∨ r = .receivePayload id) ∧
      (Call.ofRequest session r).errand.stage = .sent (.ok id) := by
  have templated : ∀ goal kind text args,
      (Call.templated session goal kind text args).errand.stage = .held ∨
      ∃ e, (Call.templated session goal kind text args).errand.stage = .failed (.usage e) := by
    intro goal kind text args
    unfold Call.templated
    split
    · exact Or.inr ⟨_, rfl⟩
    · exact Or.inl rfl
  cases r with
  | execWith text args => exact (templated _ _ _ _).imp_right Or.inl
  | evalWith text args => exact (templated _ _ _ _).imp_right Or.inl
  | importModule name =>
    unfold Call.ofRequest
    dsimp only
    split
    · exact Or.inl rfl
    · exact Or.inr (Or.inl ⟨_, rfl⟩)
  | receive id => exact Or.inr (Or.inr ⟨id, Or.inl rfl, rfl⟩)
  | receivePayload id => exact Or.inr (Or.inr ⟨id, Or.inr rfl, rfl⟩)
  | _ => exact Or.inl rfl

theorem stage_ofRequest (session : Nat) (r : Request) (id : Nat) :
    (Call.ofRequest session r).errand.stage ≠ .parked id := by
  rcases stage_ofRequest_cases session r with h | ⟨e, h⟩ | ⟨j, -, h⟩ <;> simp [h]

theorem Sound.begin (h : s.Sound) (r : Request) : (s.begin r).1.Sound := by
  have free : s.calls s.begun = none := h.calls _ (Nat.le_refl _)
  refine ⟨h.table, ?_, h.bindings, ?_, h.recorded⟩
  · intro q
    rw [errand?_begin]
    show Seated s.channel.pending q _
    split
    · next hq =>
      subst hq
      exact seated_of_away (h.away (by simp [free])) (by simpa using stage_ofRequest s.number r)
    · exact h.seated q
  · intro m hm
    have hne : m ≠ s.begun := by
      have : s.begun + 1 ≤ m := hm
      omega
    show put s.calls s.begun _ m = none
    rw [put_other _ _ hne]
    have : s.begun + 1 ≤ m := hm
    exact h.calls m (by omega)

theorem Sound.lt_begun (h : s.Sound) {k : Call} (hk : s.calls n = some k) : n < s.begun := by
  rcases Nat.lt_or_ge n s.begun with hn | hn
  · exact hn
  · rw [h.calls n hn] at hk
    cases hk

/-- A call that is not parked stands nowhere. -/
theorem Sound.callAway (h : s.Sound) {k : Call} (hk : s.calls n = some k)
    (hs : ∀ id, k.errand.stage ≠ .parked id) : s.channel.pending.place (.call n) = .away := by
  have hseat := h.seated (.call n)
  rw [errand?_call, hk] at hseat
  exact hseat.away (by simpa using hs)

theorem ne_parked_of_result? {stage : Stage} {x : Except Error Text}
    (h : stage.result? = some x) (id : Nat) : stage ≠ .parked id := by
  rintro rfl
  cases h

theorem Sound.store (h : s.Sound) {k : Call} {e : Entry} {rest : List Entry}
    (hk : s.calls n = some k) (hs : k.errand.stage = .held) : (s.store n k e rest).Sound := by
  have away := h.callAway hk (by simp [hs])
  have registered : (s.registerLocal e).Sound :=
    ⟨h.table, fun q => by rw [errand?_registerLocal]; exact h.seated q, h.bindings, h.calls,
      h.recorded⟩
  have hst := stores_store n k e rest s
  generalize s.store n k e rest = s' at hst
  cases hst with
  | silently => exact registered.putCall (h.lt_begun hk) away (by simp [hs])
  | sending =>
    refine (registered.onChannel ?_ ?_).putCall (h.lt_begun hk) ?_ (by simp [Call.atStage])
    · rw [pending_send]; exact h.table
    · intro p stage hseat; rw [pending_send]; exact hseat
    · show (Channel.send _ _ _).1.pending.place _ = _
      rw [pending_send]
      exact away

/-- What a call makes of its errand's new stage changes nobody's standing. -/
theorem Sound.settles (h : s.Sound) {k : Call} {s' : Session} (hk : s.calls n = some k)
    (hs : Settles s n k s') : s'.Sound := by
  have hn := h.lt_begun hk
  have away : ∀ {x}, k.errand.stage.result? = some x →
      s.channel.pending.place (.call n) = .away := fun hx => h.callAway hk (ne_parked_of_result? hx)
  cases hs with
  | waits => exact h
  | shows _ stage =>
    exact h.putCall hn (h.callAway hk (by simp [stage])) (by simp [Call.finished, stage])
  | fails _ stage => exact h.putCall hn (away stage) (ne_parked_of_result? stage)
  | concludes _ stage => exact h.putCall hn (away stage) (ne_parked_of_result? stage)
  | evaluates _ stage =>
    refine (h.markEvaluated _).putCall (by simpa using hn) ?_ (ne_parked_of_result? stage)
    rw [channel_markEvaluated]
    exact away stage
  | misnamed _ stage => exact h.putCall hn (away stage) (ne_parked_of_result? stage)
  | @imports _ _ x _ stage =>
    have hb := h.bind true x
    exact hb.putCall (by simpa using hn)
      (hb.callAway (by simpa using hk) (ne_parked_of_result? stage)) (ne_parked_of_result? stage)
  | goesOn _ stage => exact h.putCall hn (away stage) (by simp [Call.atStage])

theorem Sound.act (h : s.Sound) (a : Action) : (s.act a).Sound := by
  have ha := acts_act s a
  generalize s.act a = s' at ha
  cases ha with
  | idles => exact h
  | builds => exact h.bind _ _
  | begins r => exact h.begin r
  | drops n => exact h.drop n
  | sends kind source =>
    refine h.onChannel ?_ ?_
    · rw [pending_send]; exact h.table
    · intro p stage hseat; rw [pending_send]; exact hseat
  | registers e =>
    exact ⟨h.table, fun q => by rw [errand?_registerLocal]; exact h.seated q, h.bindings, h.calls,
      h.recorded⟩
  | drives hd => exact h.drives hd
  | binds errand moves => exact h.moved errand moves
  | completes call _ _ stage =>
    exact h.putCall (h.lt_begun call) (h.callAway call (by simp [stage]))
      (by simp [Call.finished, stage])
  | stores call _ _ stage => exact h.store call stage
  | settles call _ moves hs =>
    refine (h.moved (by simp [call]) moves).settles ?_ hs
    rw [calls_moved, if_pos rfl, call]
    rfl

theorem sound_opened {number : Nat} {stem : Text} {debug : Bool}
    (h : opened number stem debug = .ok s) : s.Sound := by
  unfold opened at h
  split at h
  · cases h
    refine ⟨Pending.sound_empty, ?_, by simp, by simp, by simp⟩
    intro p
    cases p <;> exact rfl
  · cases h

/-- Every session that a run leads to is sound. -/
theorem Sound.run (h : s.Sound) (as : List Action) : (s.run as).Sound :=
  run_preserves (fun _ a ht => ht.act a) h as

end RemoteInterpreter.Session
