import RemoteInterpreter.Proofs.Errand
import RemoteInterpreter.Session.Run

/-!
# Steps of a session

Everything that one action can make of a session. Bindings and calls run errands in the
same way, so a step of either is one change: the errand of the party is at a new stage,
and the channel is what the step left. What a call makes of an answer is a second change
on top of it.
-/

namespace RemoteInterpreter.Session

/-- The errand of a party that exists. -/
def errand? : Party → Session → Option Errand
  | .binding n, s => (s.bindings n).map Binding.errand
  | .call n, s => (s.calls n).map Call.errand

/-- The session after a step of a party's errand. -/
def moved (p : Party) (c : Channel Party) (stage : Stage) (s : Session) : Session :=
  match p with
  | .binding n =>
    { s with
      channel := c
      bindings := put s.bindings n ((s.bindings n).map (Binding.atStage stage)) }
  | .call n =>
    { s with channel := c, calls := put s.calls n ((s.calls n).map (Call.atStage stage)) }

/-- What is made of the text of an answer that went well. -/
inductive Goal.Concludes (registry : Registry) (text : Text) : Goal → Except Error Answer → Prop
  | done : Goal.Concludes registry text .done (.ok .done)
  | response : Goal.Concludes registry text .response (.ok .done)
  | payload : Goal.Concludes registry text .payload (.ok (.payload text))
  | value {v} (decoded : Decode.payload registry text = .ok v) :
    Goal.Concludes registry text .value (.ok (.value v))
  | noValue {e} (undecodable : Decode.payload registry text = .error e) :
    Goal.Concludes registry text .value (.error (.decode e))
  | notForced {h e} (undecodable : Decode.payload registry text = .error e) :
    Goal.Concludes registry text (.forced h) (.error (.decode e))

/-- A call whose errand is at a new stage goes on waiting, or ends, or goes on to its next
entry. -/
inductive Settles (s : Session) (n : Nat) (k : Call) : Session → Prop
  | waits (stage : k.errand.stage.result? = none) : Settles s n k s
  | shows {r} (goal : k.goal = .response) (stage : k.errand.stage = .answered r) :
    Settles s n k (s.putCall n (k.finished (.ok (.response r))))
  | fails {e} (goal : k.goal ≠ .response ∨ ∀ r, k.errand.stage ≠ .answered r)
      (stage : k.errand.stage.result? = some (.error e)) :
    Settles s n k (s.putCall n (k.finished (.error e)))
  | concludes {text result} (goal : k.goal ≠ .response ∨ ∀ r, k.errand.stage ≠ .answered r)
      (stage : k.errand.stage.result? = some (.ok text))
      (concludes : k.goal.Concludes s.registry text result) :
    Settles s n k (s.putCall n (k.finished result))
  | evaluates {text h v} (goal : k.goal = .forced h)
      (stage : k.errand.stage.result? = some (.ok text))
      (decoded : Decode.payload s.registry text = .ok v) :
    Settles s n k ((s.markEvaluated h).putCall n (k.finished (.ok (.value v))))
  | misnamed {text name e} (goal : k.goal = .boundModule name)
      (stage : k.errand.stage.result? = some (.ok text))
      (compose : Expression.compose s.number ⟨[name], []⟩ = .error e) :
    Settles s n k (s.putCall n (k.finished (.error (.usage e))))
  | imports {text name x} (goal : k.goal = .boundModule name)
      (stage : k.errand.stage.result? = some (.ok text))
      (compose : Expression.compose s.number ⟨[name], []⟩ = .ok x) :
    Settles s n k ((s.bind true x).putCall n (k.finished (.ok (.handle (s.handleAt s.built)))))
  | goesOn {text rest} (goal : k.goal = .installed rest)
      (stage : k.errand.stage.result? = some (.ok text)) :
    Settles s n k (s.putCall n (k.atStage .held))

/-- What reader, writer, monitor, kills and far end make of a channel. -/
inductive Drives (c : Channel Party) : Action → Channel Party → Prop
  | attaches (absent : c.monitor = .absent) : Drives c .attach { c with monitor := .watching }
  | signals {m} (taken : c.monitor.taken? = some m) : Drives c .kill { c with monitor := m }
  | kills (untaken : c.monitor.taken? = none) : Drives c .kill c.shut
  | heeds (signalled : c.monitor = .signalled) :
    Drives c .heed { c.close .killed with monitor := .killing }
  | exits : Drives c .exit c.exit
  | resumes (reaped : c.monitor = .over) : Drives c .resume { c.shut with monitor := .absent }
  | writes {o} (write : c.outbox.write = .moved o) :
    Drives c .write { c with outbox := o }
  | breaks {fault o} (write : c.outbox.write = .failed fault o) :
    Drives c .write { c.close (.writeFailed fault) with outbox := o }
  | reads {i} (read : c.inbox.read = .moved i) : Drives c .read { c with inbox := i }
  | skips {octets i} (read : c.inbox.read = .piece octets i)
      (piece : Response.ofPiece? octets = none) :
    Drives c .read { c with inbox := i }
  | delivers {octets i r} (read : c.inbox.read = .piece octets i)
      (piece : Response.ofPiece? octets = some r) :
    Drives c .read { c with inbox := i, pending := c.pending.insert r }
  | ends {reason i} (read : c.inbox.read = .finished reason i) :
    Drives c .read { c.close reason with inbox := i }
  | carries (n) : Drives c (.carry n) (c.carry n)
  | feeds (octets) : Drives c (.feed octets) (c.feed octets)
  | finishes (ending) : Drives c (.finish ending) (c.finish ending)
  | stopsReceiving (fault) : Drives c (.stopReceiving fault) (c.stopReceiving fault)

/-- An action leads to this session. -/
inductive Acts (s : Session) : Action → Session → Prop
  | idles {a} : Acts s a s
  | builds {running d x} (compose : Expression.compose s.number d = .ok x) :
    Acts s (.build running d) (s.bind running x)
  | begins (r) : Acts s (.begin r) (s.begin r).1
  | drops (n) : Acts s (.drop n) (s.drop n)
  | sends (kind source) :
    Acts s (.send kind source) { s with channel := (s.channel.send kind source).1 }
  | registers (e) : Acts s (.registerLocal e) (s.registerLocal e)
  | drives {a c} (drives : Drives s.channel a c) : Acts s a { s with channel := c }
  | binds {n e c stage} (errand : s.errand? (.binding n) = some e)
      (moves : Errand.Moves (.binding n) s.resolution? s.channel e c stage) :
    Acts s (.advance (.binding n)) (s.moved (.binding n) c stage)
  | completes {n k} (call : s.calls n = some k) (live : k.result = none)
      (goal : k.goal = .installed []) (stage : k.errand.stage = .held) :
    Acts s (.advance (.call n)) (s.putCall n (k.finished (.ok .done)))
  | stores {n k e rest} (call : s.calls n = some k) (live : k.result = none)
      (goal : k.goal = .installed (e :: rest)) (stage : k.errand.stage = .held) :
    Acts s (.advance (.call n)) (s.store n k e rest)
  | settles {n k c stage s'} (call : s.calls n = some k) (live : k.result = none)
      (moves : Errand.Moves (.call n) s.resolution? s.channel k.errand c stage)
      (settles : Settles (s.moved (.call n) c stage) n (k.atStage stage) s') :
    Acts s (.advance (.call n)) s'

variable {s : Session} {n : Nat} {k : Call}

/-! Every action is one of these -/

theorem putCall_putCall (k k' : Call) (s : Session) :
    (s.putCall n k).putCall n k' = s.putCall n k' := by
  simp [putCall]

theorem bind_putCall (running : Bool) (x : Expression) (k : Call) (s : Session) :
    (s.putCall n k).bind running x = (s.bind running x).putCall n k := by
  cases running with
  | false => rfl
  | true =>
    simp only [bind, Bool.not_true, Bool.false_eq_true, ↓reduceIte]
    have hb : (s.putCall n k).isBound = s.isBound := rfl
    rw [hb]
    split <;> rfl

theorem markEvaluated_putCall (h : Nat) (k : Call) (s : Session) :
    (s.putCall n k).markEvaluated h = (s.markEvaluated h).putCall n k := by
  have hb : (s.putCall n k).bindings = s.bindings := rfl
  unfold markEvaluated
  rw [hb]
  split <;> rfl

theorem settles_conclude {text : Text} (k : Call) (s : Session)
    (goal : k.goal ≠ .response ∨ ∀ r, k.errand.stage ≠ .answered r)
    (stage : k.errand.stage.result? = some (.ok text)) :
    Settles (s.putCall n k) n k (s.conclude n k text) := by
  have finished : ∀ {result}, k.goal.Concludes s.registry text result →
      Settles (s.putCall n k) n k (s.putCall n (k.finished result)) := by
    intro result hc
    have h : Settles (s.putCall n k) n k _ := .concludes goal stage hc
    rwa [putCall_putCall] at h
  unfold conclude
  split
  · next hg => exact finished (by rw [hg]; exact .done)
  · next hg => exact finished (by rw [hg]; exact .response)
  · next hg => exact finished (by rw [hg]; exact .payload)
  · next hg =>
    split
    · next hd => exact finished (by rw [hg]; exact .noValue hd)
    · next hd => exact finished (by rw [hg]; exact .value hd)
  · next h hg =>
    split
    · next hd => exact finished (by rw [hg]; exact .notForced hd)
    · next v hd =>
      have h : Settles (s.putCall n k) n k _ := .evaluates hg stage hd
      rwa [markEvaluated_putCall, putCall_putCall] at h
  · next name hg =>
    unfold build
    cases hx : Expression.compose s.number ⟨[name], []⟩ with
    | error e =>
      have h : Settles (s.putCall n k) n k _ := .misnamed hg stage hx
      rwa [putCall_putCall] at h
    | ok x =>
      have h : Settles (s.putCall n k) n k _ := .imports hg stage hx
      rwa [bind_putCall, putCall_putCall] at h
  · next hg =>
    have h : Settles (s.putCall n k) n k _ := .goesOn hg stage
    rwa [putCall_putCall] at h

theorem settles_settle (k : Call) (s : Session) : Settles (s.putCall n k) n k (s.settle n k) := by
  unfold settle
  split
  · next r hg hs =>
    have h : Settles (s.putCall n k) n k _ := .shows hg hs
    rwa [putCall_putCall] at h
  · next hne =>
    have goal : k.goal ≠ .response ∨ ∀ r, k.errand.stage ≠ .answered r := by
      by_cases hg : k.goal = .response
      · exact Or.inr fun r hs => hne r hg hs
      · exact Or.inl hg
    split
    · next hr => exact .waits hr
    · next hr =>
      have h : Settles (s.putCall n k) n k _ := .fails goal hr
      rwa [putCall_putCall] at h
    · next hr => exact settles_conclude k s goal hr

theorem drives_write (c : Channel Party) : c.write? = none ∨
    ∃ c', c.write? = some c' ∧ Drives c .write c' := by
  unfold Channel.write?
  split
  · exact Or.inl rfl
  · next h => exact Or.inr ⟨_, rfl, .writes h⟩
  · next h => exact Or.inr ⟨_, rfl, .breaks h⟩

theorem drives_read (c : Channel Party) : c.read? = none ∨
    ∃ c', c.read? = some c' ∧ Drives c .read c' := by
  unfold Channel.read?
  split
  · exact Or.inl rfl
  · next h => exact Or.inr ⟨_, rfl, .reads h⟩
  · next h =>
    refine Or.inr ⟨_, rfl, ?_⟩
    unfold Channel.deliver
    split
    · next hp => exact .skips h hp
    · next hp => exact .delivers h hp
  · next h => exact Or.inr ⟨_, rfl, .ends h⟩

theorem drives_kill (c : Channel Party) : Drives c .kill c.kill := by
  unfold Channel.kill
  cases h : c.monitor.taken? with
  | some m => exact .signals h
  | none => exact .kills h

theorem drives_attach (c : Channel Party) : c.attach = c ∨ Drives c .attach c.attach := by
  unfold Channel.attach
  split
  · next h => exact Or.inr (.attaches h)
  · exact Or.inl rfl

theorem drives_heed (c : Channel Party) : c.heed = c ∨ Drives c .heed c.heed := by
  unfold Channel.heed
  split
  · next h => exact Or.inr (.heeds h)
  · exact Or.inl rfl

theorem drives_resume (c : Channel Party) : c.resume = c ∨ Drives c .resume c.resume := by
  unfold Channel.resume
  split
  · next h => exact Or.inr (.resumes h)
  · exact Or.inl rfl

/-- A binding whose errand has a step takes it. -/
theorem act_advanceBinding {b : Binding} {c : Channel Party} {stage : Stage}
    (binding : s.bindings n = some b)
    (h : b.errand.advance? (.binding n) s.resolution? s.channel = some (c, stage)) :
    s.act (.advance (.binding n)) = s.moved (.binding n) c stage := by
  simp [act, advance?, advanceBinding?, binding, h, moved, putBinding]

theorem advance?_of_advanceBinding? {b : Binding} (binding : s.bindings n = some b)
    (h : s.advanceBinding? n = none) :
    b.errand.advance? (.binding n) s.resolution? s.channel = none := by
  unfold advanceBinding? at h
  rw [binding] at h
  dsimp only at h
  split at h
  · assumption
  · cases h

theorem acts_advanceBinding (n : Nat) (s : Session) :
    Acts s (.advance (.binding n)) (s.act (.advance (.binding n))) := by
  cases hb : s.bindings n with
  | none =>
    simp only [act, advance?, advanceBinding?, hb, Option.getD_none]
    exact .idles
  | some b =>
    cases hm : b.errand.advance? (.binding n) s.resolution? s.channel with
    | none =>
      simp only [act, advance?, advanceBinding?, hb, hm, Option.getD_none]
      exact .idles
    | some x =>
      rw [act_advanceBinding hb hm]
      exact .binds (by simp [errand?, hb]) (Errand.moves_of_advance? hm)

/-- A call whose errand has a step takes it, unless it is held between two entries. -/
theorem settles_advanceCall {c : Channel Party} {stage : Stage} (call : s.calls n = some k)
    (live : k.result = none)
    (entries : ∀ entries, k.goal = .installed entries → k.errand.stage ≠ .held)
    (h : k.errand.advance? (.call n) s.resolution? s.channel = some (c, stage)) :
    Settles (s.moved (.call n) c stage) n (k.atStage stage) (s.act (.advance (.call n))) := by
  have hs : ({ s with channel := c }.putCall n (k.atStage stage) : Session) =
      s.moved (.call n) c stage := by
    simp [moved, putCall, call]
  have hact : s.act (.advance (.call n)) = { s with channel := c }.settle n (k.atStage stage) := by
    simp only [act, advance?, advanceCall?, call]
    split
    · next hr => rw [live] at hr; cases hr
    · next hg hst => exact absurd hst (entries _ hg)
    · next hg hst => exact absurd hst (entries _ hg)
    · rw [h]
      rfl
  rw [hact, ← hs]
  exact settles_settle _ _

/-- A call that has ended has no step. -/
theorem act_of_ended {x : Except Error Answer} (call : s.calls n = some k)
    (ended : k.result = some x) : s.act (.advance (.call n)) = s := by
  simp only [act, advance?, advanceCall?, call, ended, Option.getD_none]

/-- Nor has one whose errand has none, unless it is held between two entries. -/
theorem act_of_waiting (call : s.calls n = some k)
    (entries : ∀ entries, k.goal = .installed entries → k.errand.stage ≠ .held)
    (h : k.errand.advance? (.call n) s.resolution? s.channel = none) :
    s.act (.advance (.call n)) = s := by
  simp only [act, advance?, advanceCall?, call, h]
  split
  · rfl
  · next hg hs => exact absurd hs (entries _ hg)
  · next hg hs => exact absurd hs (entries _ hg)
  · rfl

theorem acts_advanceCall (n : Nat) (s : Session) :
    Acts s (.advance (.call n)) (s.act (.advance (.call n))) := by
  cases hk : s.calls n with
  | none =>
    simp only [act, advance?, advanceCall?, hk, Option.getD_none]
    exact .idles
  | some k =>
    cases hl : k.result with
    | some result =>
      rw [act_of_ended hk hl]
      exact .idles
    | none =>
      by_cases hheld : ∃ entries, k.goal = .installed entries ∧ k.errand.stage = .held
      · obtain ⟨entries, hg, hs⟩ := hheld
        cases entries with
        | nil =>
          simp only [act, advance?, advanceCall?, hk, hl, hg, hs, Option.getD_some]
          exact .completes hk hl hg hs
        | cons e rest =>
          simp only [act, advance?, advanceCall?, hk, hl, hg, hs, Option.getD_some]
          exact .stores hk hl hg hs
      · have entries : ∀ entries, k.goal = .installed entries → k.errand.stage ≠ .held :=
          fun entries hg hs => hheld ⟨entries, hg, hs⟩
        cases hm : k.errand.advance? (.call n) s.resolution? s.channel with
        | some x =>
          exact .settles hk hl (Errand.moves_of_advance? hm) (settles_advanceCall hk hl entries hm)
        | none =>
          rw [act_of_waiting hk entries hm]
          exact .idles

theorem Acts.onChannel {a : Action} {c : Channel Party}
    (h : c = s.channel ∨ Drives s.channel a c) : Acts s a { s with channel := c } := by
  rcases h with rfl | hd
  · exact .idles
  · exact .drives hd

theorem acts_act (s : Session) (a : Action) : Acts s a (s.act a) := by
  cases a with
  | build running d =>
    cases hx : Expression.compose s.number d with
    | error e =>
      simp only [act, build, hx]
      exact .idles
    | ok x =>
      simp only [act, build, hx]
      exact .builds hx
  | begin r => exact .begins r
  | drop n => exact .drops n
  | send kind source => exact .sends kind source
  | registerLocal e => exact .registers e
  | attach => exact .onChannel (drives_attach s.channel)
  | kill => exact .drives (drives_kill s.channel)
  | heed => exact .onChannel (drives_heed s.channel)
  | exit => exact .drives .exits
  | resume => exact .onChannel (drives_resume s.channel)
  | advance p =>
    cases p with
    | binding n => exact acts_advanceBinding n s
    | call n => exact acts_advanceCall n s
  | write =>
    unfold act
    rcases drives_write s.channel with h | ⟨c, h, hd⟩
    · simp only [h, Option.getD_none]; exact .idles
    · simp only [h, Option.getD_some]; exact .drives hd
  | read =>
    unfold act
    rcases drives_read s.channel with h | ⟨c, h, hd⟩
    · simp only [h, Option.getD_none]; exact .idles
    · simp only [h, Option.getD_some]; exact .drives hd
  | carry n => exact .drives (.carries n)
  | feed octets => exact .drives (.feeds octets)
  | finish ending => exact .drives (.finishes ending)
  | stopReceiving fault => exact .drives (.stopsReceiving fault)

end RemoteInterpreter.Session
