import RemoteInterpreter.Proofs.Delivery

/-!
# Teardown

The first close of the table gives the reason, once and for all: whoever is parked is told it,
nobody is parked any more, a claim takes what is there or is told the reason as well, and
nothing is sent. No later close makes a difference that a caller could observe.
-/

namespace RemoteInterpreter

/-! The closed table -/

namespace Pending

variable {κ : Type} {t : Pending κ} {reason : CloseReason}

/-- The table is closed, and nobody waits in it. -/
structure Shut (reason : CloseReason) (t : Pending κ) : Prop where
  closed : t.closed = some reason
  waiter : ∀ id, t.waiter id = none
  place : ∀ k id, t.place k ≠ .parked id

theorem shut_close (h : t.closed = none) (reason : CloseReason) : Shut reason (t.close reason) :=
  ⟨by rw [closed_close, h]; rfl, fun _ => rfl, fun _ _ => closePlace_ne_parked _ _ _⟩

theorem Shut.live? (h : Shut reason t) (id : Nat) : t.live? id = none := by
  simp [Pending.live?, h.waiter id]

/-- A closed table is as it would be after one more close. -/
theorem Shut.close (h : Shut reason t) (again : CloseReason) : t.close again = t := by
  have hplace : (fun k => closePlace reason (t.place k)) = t.place := by
    funext k
    cases hp : t.place k with
    | parked id => exact absurd hp (h.place k id)
    | away => rfl
    | answered => rfl
  have hwaiter : (fun _ => none) = t.waiter := funext fun id => (h.waiter id).symm
  unfold Pending.close
  dsimp only
  rw [h.closed, Option.getD_some, hplace, hwaiter, ← h.closed]

theorem Shut.taken (h : Shut reason t) (id : Nat) :
    Shut reason { t with arrived := put t.arrived id none } :=
  ⟨h.closed, h.waiter, h.place⟩

variable [DecidableEq κ]

theorem Shut.insert (h : Shut reason t) (r : Response) : Shut reason (t.insert r) := by
  refine ⟨by rw [closed_insert, h.closed], fun id => ?_, fun k id => ?_⟩
  · rw [waiter_insert]
    by_cases hid : id = r.id <;> simp [put, hid, h.waiter id]
  · rw [place_insert, h.live?]
    exact h.place k id

theorem Shut.leave (h : Shut reason t) (k : κ) : Shut reason (t.leave k) :=
  ⟨h.closed, h.waiter, fun j id hp => h.place j id (place_of_place_leave hp nofun)⟩

end Pending

namespace Session

variable {s t : Session} {p : Party} {a : Action} {as : List Action} {reason : CloseReason}
variable {number : Nat} {stem : Text} {debug : Bool}

/-! What closes the table -/

/-- The reason for which an action closes the table: a kill that has no monitor to wait for, a
monitor that was signalled, a kill that has waited for it, a write that fails, or the end or the
fault of the stream. -/
def closing? (s : Session) : Action → Option CloseReason
  | .kill => if s.channel.monitor.taken? = none then some .killed else none
  | .heed => if s.channel.monitor = .signalled then some .killed else none
  | .resume => if s.channel.monitor = .over then some .killed else none
  | .write =>
    match s.channel.outbox.write with
    | .failed fault _ => some (.writeFailed fault)
    | _ => none
  | .read =>
    match s.channel.inbox.read with
    | .finished reason _ => some reason
    | _ => none
  | _ => none

/-- The reasons of all closes of a run, in their order. -/
def closings (s : Session) : List Action → List CloseReason
  | [] => []
  | a :: as => (s.closing? a).toList ++ (s.act a).closings as

/-- What an action does to the streams and the table, if it closes the table. -/
inductive Closes (c : Channel Party) : Action → CloseReason → Channel Party → Prop
  | kills (untaken : c.monitor.taken? = none) : Closes c .kill .killed c.shut
  | heeds (signalled : c.monitor = .signalled) :
    Closes c .heed .killed { c.close .killed with monitor := .killing }
  | resumes (reaped : c.monitor = .over) :
    Closes c .resume .killed { c.shut with monitor := .absent }
  | breaks {fault o} (write : c.outbox.write = .failed fault o) :
    Closes c .write (.writeFailed fault) { c.close (.writeFailed fault) with outbox := o }
  | ends {reason i} (read : c.inbox.read = .finished reason i) :
    Closes c .read reason { c.close reason with inbox := i }

theorem closes_of_closing? (h : s.closing? a = some reason) :
    ∃ c, Closes s.channel a reason c ∧ s.act a = { s with channel := c } := by
  cases a with
  | kill =>
    simp only [closing?] at h
    split at h
    · next huntaken =>
      cases h
      exact ⟨_, .kills huntaken, by simp [act, Channel.kill, huntaken]⟩
    · cases h
  | heed =>
    simp only [closing?] at h
    split at h
    · next hsignalled =>
      cases h
      exact ⟨_, .heeds hsignalled, by simp [act, Channel.heed, hsignalled]⟩
    · cases h
  | resume =>
    simp only [closing?] at h
    split at h
    · next hover =>
      cases h
      exact ⟨_, .resumes hover, by simp [act, Channel.resume, hover]⟩
    · cases h
  | write =>
    simp only [closing?] at h
    split at h
    · next fault o hwrite =>
      cases h
      exact ⟨_, .breaks hwrite, by simp [act, Channel.write?, hwrite]⟩
    · cases h
  | read =>
    simp only [closing?] at h
    split at h
    · next reason i hread =>
      cases h
      exact ⟨_, .ends hread, by simp [act, Channel.read?, hread]⟩
    · cases h
  | _ => cases h

/-- Apart from the table a close changes the streams and the monitor only, and sends nothing. -/
theorem Closes.eq {c c' : Channel Party} (h : Closes c a reason c') :
    ∃ o i m, c' = ⟨o, i, c.pending.close reason, m, c.debug⟩ ∧ o.commands = c.outbox.commands := by
  cases h with
  | breaks write =>
    refine ⟨_, _, _, rfl, ?_⟩
    have hw := c.outbox.writes_write
    rw [write] at hw
    cases hw
    rfl
  | _ => exact ⟨_, _, _, rfl, rfl⟩

theorem Closes.pending {c c' : Channel Party} (h : Closes c a reason c') :
    c'.pending = c.pending.close reason := by
  cases h <;> rfl

/-- An action that does not close the table leaves it open or closed as it is. -/
theorem closed_act_of_closing?_eq_none (h : s.closing? a = none) :
    (s.act a).channel.pending.closed = s.channel.pending.closed := by
  have ha := acts_act s a
  generalize s.act a = t at ha
  cases ha with
  | builds => rw [pending_bind]
  | sends => rw [pending_send]
  | drives hd =>
    cases hd with
    | kills untaken => simp [closing?, untaken] at h
    | heeds signalled => simp [closing?, signalled] at h
    | resumes reaped => simp [closing?, reaped] at h
    | breaks write => simp [closing?, write] at h
    | ends read => simp [closing?, read] at h
    | delivers => exact Pending.closed_insert _ _
    | _ => rfl
  | binds _ moves => rw [channel_moved, moves.closed]
  | @stores n k e rest =>
    have hst := stores_store n k e rest s
    generalize s.store n k e rest = t at hst
    cases hst with
    | silently => rfl
    | sending => rw [channel_putCall, pending_send]
  | settles _ _ moves hs => rw [hs.pending, channel_moved, moves.closed]
  | _ => rfl

theorem closed_act_eq (s : Session) (a : Action) :
    (s.act a).channel.pending.closed = s.channel.pending.closed.or (s.closing? a) := by
  cases hc : s.closing? a with
  | none => rw [closed_act_of_closing?_eq_none hc, Option.or_none]
  | some reason =>
    obtain ⟨c, hcloses, hact⟩ := closes_of_closing? hc
    rw [hact, hcloses.pending, Pending.closed_close]
    cases s.channel.pending.closed <;> rfl

/-- The reason of a closed table is that of the first close. -/
theorem closed_run_eq (s : Session) (as : List Action) :
    (s.run as).channel.pending.closed = s.channel.pending.closed.or (s.closings as).head? := by
  induction as generalizing s with
  | nil => simp [closings]
  | cons a as ih =>
    rw [run_cons, ih, closed_act_eq, Option.or_assoc, closings]
    cases s.closing? a <;> simp

/-! Kills that wait -/

/-- A kill was called: the channel is closed, or the monitor or the kill has yet to close it. -/
def Doomed (c : Channel Party) : Prop :=
  c.isClosed = true ∨ c.monitor = .signalled ∨ c.monitor = .over

theorem doomed_kill (s : Session) : Doomed (s.act .kill).channel := by
  have hkill : (s.act .kill).channel = s.channel.kill := rfl
  rw [hkill, Channel.kill]
  cases s.channel.monitor with
  | watching => exact Or.inr (Or.inl rfl)
  | ended => exact Or.inr (Or.inr rfl)
  | _ => exact Or.inl rfl

theorem doomed_act (h : Doomed s.channel) (a : Action) : Doomed (s.act a).channel := by
  rcases h with hclosed | hmonitor
  · exact Or.inl (isClosed_act hclosed a)
  rcases streams_act s a with hd | hp
  · generalize (s.act a).channel = c at hd
    cases hd with
    | attaches absent => rw [absent] at hmonitor; rcases hmonitor with h | h <;> cases h
    | signals taken =>
      rcases hmonitor with h | h <;> rw [h] at taken <;> cases taken
    | kills => exact Or.inl rfl
    | heeds => exact Or.inl rfl
    | resumes => exact Or.inl rfl
    | exits =>
      right
      right
      rcases hmonitor with h | h <;> simp [Channel.exit, Monitor.exited, h]
    | breaks => exact Or.inl rfl
    | ends => exact Or.inl rfl
    | _ => exact Or.inr hmonitor
  · rw [Doomed, hp.monitor]
    exact Or.inr hmonitor

/-- A kill is not forgotten. Whatever happens after it, the channel is closed, or the next step of
the monitor closes it, or that of the kill which waits for the monitor. -/
theorem closes_after_kill (s : Session) (as : List Action) :
    (s.run (.kill :: as)).channel.isClosed = true ∨
      ((s.run (.kill :: as)).act .heed).channel.isClosed = true ∨
      ((s.run (.kill :: as)).act .resume).channel.isClosed = true := by
  have hdoomed : Doomed (s.run (.kill :: as)).channel :=
    run_preserves (I := fun t => Doomed t.channel) (fun _ a ht => doomed_act ht a)
      (doomed_kill s) as
  generalize s.run (.kill :: as) = t at hdoomed
  rcases hdoomed with hclosed | hsignalled | hover
  · exact Or.inl hclosed
  · right
    left
    simp [act, Channel.heed, hsignalled, Channel.close, Channel.isClosed, Pending.isClosed,
      Pending.closed_close]
  · right
    right
    simp [act, Channel.resume, hover, Channel.shut, Channel.close, Channel.isClosed,
      Pending.isClosed, Pending.closed_close]

/-! What callers find -/

theorem shut_act (h : s.channel.pending.Shut reason) (a : Action) :
    (s.act a).channel.pending.Shut reason := by
  have ht := tables_act s a
  generalize (s.act a).channel.pending = t at ht
  cases ht with
  | keeps => exact h
  | delivers => exact h.insert _
  | closes => rw [h.close]; exact h
  | leaves => exact h.leave _
  | moves _ moves =>
    cases moves with
    | takes => exact h.taken _
    | parks _ _ isOpen => rw [h.closed] at isOpen; cases isOpen
    | collects => exact h.leave _
    | letDown => exact h.leave _
    | sends => rw [pending_send]; exact h
    | _ => exact h

theorem shut_run (h : s.channel.pending.Shut reason) (as : List Action) :
    (s.run as).channel.pending.Shut reason :=
  run_preserves (I := fun t => t.channel.pending.Shut reason) (fun _ a ht => shut_act ht a) h as

/-- The sessions differ in their streams and in their monitors only, and both have sent the same
commands. -/
def SameForCallers (s t : Session) : Prop :=
  ∃ o i m, t = { s with channel := { s.channel with outbox := o, inbox := i, monitor := m } } ∧
    o.commands = s.channel.outbox.commands

/-- A later close changes nothing for callers. -/
theorem sameForCallers_of_closing? {again : CloseReason} (h : s.channel.pending.Shut reason)
    (ha : s.closing? a = some again) : SameForCallers s (s.act a) := by
  obtain ⟨c, hcloses, hact⟩ := closes_of_closing? ha
  obtain ⟨o, i, m, rfl, hcommands⟩ := hcloses.eq
  exact ⟨o, i, m, by rw [hact, h.close], hcommands⟩

/-- Who has its answer keeps it until it leaves. -/
theorem place_act_of_shut (h : s.channel.pending.Shut reason) (p : Party) (a : Action) :
    (s.act a).channel.pending.place p = s.channel.pending.place p ∨
      (s.act a).channel.pending.place p = .away := by
  have left : ∀ q, (s.channel.pending.leave q).place p = s.channel.pending.place p ∨
      (s.channel.pending.leave q).place p = .away := by
    intro q
    rw [Pending.place_leave]
    split
    · exact Or.inr rfl
    · exact Or.inl rfl
  have ht := tables_act s a
  generalize (s.act a).channel.pending = t at ht
  cases ht with
  | keeps => exact Or.inl rfl
  | delivers => rw [Pending.place_insert, h.live?]; exact Or.inl rfl
  | closes => rw [h.close]; exact Or.inl rfl
  | leaves => exact left _
  | moves _ moves =>
    cases moves with
    | parks _ _ isOpen => rw [h.closed] at isOpen; cases isOpen
    | collects => exact left _
    | letDown => exact left _
    | sends => rw [pending_send]; exact Or.inl rfl
    | _ => exact Or.inl rfl

theorem place_run_of_shut (h : s.channel.pending.Shut reason) (p : Party) (as : List Action) :
    (s.run as).channel.pending.place p = s.channel.pending.place p ∨
      (s.run as).channel.pending.place p = .away := by
  induction as generalizing s with
  | nil => exact Or.inl rfl
  | cons a as ih =>
    rcases ih (shut_act h a) with hlater | hlater
    · rw [run_cons, hlater]
      exact place_act_of_shut h p a
    · exact Or.inr hlater

/-! Steps of those who wait -/

/-- What the step of a party that asks for a response brings in a closed table. -/
def whenClosed (reason : CloseReason) : Option Response → Stage
  | some r => .answered r
  | none => .failed (.channel (.closed reason))

theorem advance?_of_sent {e : Errand} {id : Nat} {c : Channel Party}
    {resolution : Nat → Option (Except Error Text)} (h : c.pending.Shut reason)
    (hs : e.stage = .sent (.ok id)) :
    ∃ c', e.advance? p resolution c = some (c', whenClosed reason (c.pending.arrived id)) := by
  refine ⟨(c.claim p id).1, ?_⟩
  unfold Errand.advance? Channel.claim
  rw [hs]
  cases ha : c.pending.arrived id with
  | some r => simp [Pending.claim_of_arrived ha, whenClosed]
  | none => simp [Pending.claim_of_closed ha h.closed, whenClosed]

theorem advance?_of_parked {e : Errand} {id : Nat} {answer : Except CloseReason Response}
    {c : Channel Party} {resolution : Nat → Option (Except Error Text)}
    (hs : e.stage = .parked id) (hp : c.pending.place p = .answered answer) :
    e.advance? p resolution c = some (c.leave p,
      match answer with
      | .ok r => .answered r
      | .error reason => .failed (.channel (.closed reason))) := by
  unfold Errand.advance?
  rw [hs]
  cases answer <;> simp [Errand.answer?_eq_some_iff.2 hp]

/-- Somebody who asks for a response in a closed table has it, or the reason, at once. -/
theorem result?_receive (h : s.channel.pending.Shut reason) (id : Nat) :
    (s.run [.begin (.receive id), .advance (.call s.begun)]).result? s.begun =
      some (match s.channel.pending.arrived id with
        | some r => .ok (.response r)
        | none => .error (.channel (.closed reason))) := by
  rw [run_cons, run_cons, run_nil]
  have hcall : (s.act (.begin (.receive id))).calls s.begun =
      some (Call.awaiting .response id) := by simp [act, begin, Call.ofRequest]
  have hshut : (s.act (.begin (.receive id))).channel.pending.Shut reason := h
  have harrived : (s.act (.begin (.receive id))).channel.pending.arrived id =
      s.channel.pending.arrived id := rfl
  generalize s.act (.begin (.receive id)) = t at hcall hshut harrived
  obtain ⟨c, hadvance⟩ : ∃ c, (Call.awaiting .response id).errand.advance? (.call s.begun)
      t.resolution? t.channel = some (c, whenClosed reason (t.channel.pending.arrived id)) :=
    advance?_of_sent hshut rfl
  have hstep : t.act (.advance (.call s.begun)) = { t with channel := c }.settle s.begun
      ((Call.awaiting .response id).atStage
        (whenClosed reason (t.channel.pending.arrived id))) := by
    simp only [act, advance?, advanceCall?, hcall, hadvance]
    rfl
  rw [hstep, harrived]
  cases s.channel.pending.arrived id <;>
    simp [whenClosed, settle, Call.awaiting, Call.atStage, result?_putCall, Call.finished,
      Stage.result?]

/-- What callers find in a channel that was closed for this reason. -/
structure TornDown (reason : CloseReason) (t : Session) : Prop where
  shut : t.channel.pending.Shut reason
  claims : ∀ p id, (t.channel.claim p id).2 =
    match t.channel.pending.arrived id with
    | some r => .ready r
    | none => .refused (.closed reason)
  receives : ∀ id,
    (t.run [.begin (.receive id), .advance (.call t.begun)]).result? t.begun =
      some (match t.channel.pending.arrived id with
        | some r => .ok (.response r)
        | none => .error (.channel (.closed reason)))
  asks : ∀ p e id, t.errand? p = some e → e.stage = .sent (.ok id) →
    ∃ c, e.advance? p t.resolution? t.channel =
      some (c, whenClosed reason (t.channel.pending.arrived id))
  parked : ∀ p e id, t.errand? p = some e → e.stage = .parked id →
    (t.channel.pending.place p = .answered (.error reason) ∧
      e.advance? p t.resolution? t.channel =
        some (t.channel.leave p, .failed (.channel (.closed reason)))) ∨
    ∃ r, r.id = id ∧ t.channel.pending.place p = .answered (.ok r) ∧
      e.advance? p t.resolution? t.channel = some (t.channel.leave p, .answered r)
  sends : ∀ kind source, source.breaksLine = false →
    t.channel.send kind source = (t.channel, .error (.closed reason))
  queue : ∀ a, (t.act a).channel.outbox.commands = t.channel.outbox.commands
  again : ∀ a later, t.closing? a = some later → SameForCallers t (t.act a)

theorem Sound.tornDown (hs : t.Sound) (h : t.channel.pending.Shut reason) :
    TornDown reason t := by
  refine ⟨h, ?_, result?_receive h, fun p e id _ hstage => advance?_of_sent h hstage, ?_, ?_, ?_,
    fun a later ha => sameForCallers_of_closing? h ha⟩
  · intro p id
    unfold Channel.claim
    cases ha : t.channel.pending.arrived id with
    | some r => simp [Pending.claim_of_arrived ha]
    | none => simp [Pending.claim_of_closed ha h.closed]
  · intro p e id he hstage
    have hseat := hs.seated p
    rw [he] at hseat
    simp only [Option.map_some, hstage, Seated] at hseat
    rcases hseat with hp | ⟨r, hid, hp⟩ | ⟨first, hclosed, hp⟩
    · exact absurd hp (h.place p id)
    · exact Or.inr ⟨r, hid, hp, advance?_of_parked hstage hp⟩
    · cases h.closed.symm.trans hclosed
      exact Or.inl ⟨hp, advance?_of_parked hstage hp⟩
  · exact fun kind source hline => Channel.send_of_closed hline h.closed kind
  · exact commands_act_of_isClosed (Option.isSome_iff_exists.2 ⟨reason, h.closed⟩)

/-- The reason of a closed table is that of the first close. Everybody who is parked then is told
it, and from then on nobody is parked: whoever asks gets what is there, or the reason. Nothing is
sent any more, and no later close makes a difference to callers. -/
theorem first_close_is_final (hopen : opened number stem debug = .ok s) (as : List Action) :
    (s.run as).channel.pending.closed = (s.closings as).head? ∧
    ∀ a reason, (s.run as).channel.pending.closed = none → (s.run as).closing? a = some reason →
      (∀ p id, (s.run as).channel.pending.place p = .parked id →
        (s.run (as ++ [a])).channel.pending.place p = .answered (.error reason) ∧
        ∀ bs, (s.run (as ++ a :: bs)).channel.pending.place p = .answered (.error reason) ∨
          (s.run (as ++ a :: bs)).channel.pending.place p = .away) ∧
      ∀ bs, TornDown reason (s.run (as ++ a :: bs)) := by
  refine ⟨?_, ?_⟩
  · rw [closed_run_eq, channel_opened hopen]
    rfl
  · intro a reason hclosed ha
    obtain ⟨c, hcloses, hact⟩ := closes_of_closing? ha
    have hpending : (s.run (as ++ [a])).channel.pending =
        (s.run as).channel.pending.close reason := by
      rw [run_concat, hact, hcloses.pending]
    have hshut : (s.run (as ++ [a])).channel.pending.Shut reason := by
      rw [hpending]
      exact Pending.shut_close hclosed reason
    have hrun : ∀ bs, s.run (as ++ a :: bs) = (s.run (as ++ [a])).run bs := by simp
    refine ⟨?_, ?_⟩
    · intro p id hp
      have hplace : (s.run (as ++ [a])).channel.pending.place p = .answered (.error reason) := by
        rw [hpending, Pending.place_close, hclosed, hp]
        rfl
      refine ⟨hplace, fun bs => ?_⟩
      rw [hrun, ← hplace]
      exact place_run_of_shut hshut p bs
    · intro bs
      have hs := (sound_opened hopen).run (as ++ a :: bs)
      rw [hrun] at hs ⊢
      exact hs.tornDown (shut_run hshut bs)

/-- A call waits for a response, and another response has arrived. -/
def waitingActions : List Action :=
  [.begin (.receive 5), .advance (.call 0), .feed [55, 61, 80, 65, 83, 83, 61, 49, 10], .read]

/-- The channel is killed, its stream ends, and it is killed again. -/
def killedTwiceActions : List Action :=
  waitingActions ++ .kill :: [.finish .closed, .read, .kill]

theorem first_close_is_final_killed_twice :
    opened 0 ['v'] false = .ok newSession ∧
    newSession.closings killedTwiceActions = [.killed, .outputClosed, .killed] ∧
    (newSession.run killedTwiceActions).channel.pending.closed = some .killed ∧
    (newSession.run (waitingActions ++ [.kill])).channel.pending.place (.call 0) =
      .answered (.error .killed) ∧
    TornDown .killed (newSession.run killedTwiceActions) ∧
    ((newSession.run killedTwiceActions).channel.claim (.call 1) 7).2 =
      .ready ⟨7, .pass, ['1']⟩ := by
  have hclosings : newSession.closings killedTwiceActions = [.killed, .outputClosed, .killed] := by
    decide +kernel
  have hparked : (newSession.run waitingActions).channel.pending.place (.call 0) = .parked 5 := rfl
  obtain ⟨hreason, -⟩ := first_close_is_final opened_newSession killedTwiceActions
  obtain ⟨-, hfirst⟩ := first_close_is_final opened_newSession waitingActions
  obtain ⟨hplace, htorn⟩ := hfirst .kill .killed rfl rfl
  have hdown : TornDown .killed (newSession.run killedTwiceActions) := htorn _
  refine ⟨opened_newSession, hclosings, by rw [hreason, hclosings]; rfl,
    (hplace (.call 0) 5 hparked).1, hdown, ?_⟩
  have harrived : (newSession.run killedTwiceActions).channel.pending.arrived 7 =
      some ⟨7, .pass, ['1']⟩ := by decide +kernel
  rw [hdown.claims, harrived]

end Session

end RemoteInterpreter
