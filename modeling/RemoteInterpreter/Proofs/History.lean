import RemoteInterpreter.Proofs.Growth
import RemoteInterpreter.Proofs.Caller

/-!
# Where a session comes from

A session has a past: a party that waits for an answer was given the id of its command
when the command was queued, and a party that has an answer once obtained it. A call is
what its request made of it.
-/

namespace RemoteInterpreter.Session

variable {s : Session} {p : Party} {n : Nat} {a : Action} {as : List Action}

/-- The action begins a call with this request. -/
def Begins (n : Nat) (r : Request) (s : Session) (a : Action) : Prop := a = .begin r ∧ s.begun = n

/-- A party has an id because a command was queued in its name, or because its caller had the id
from elsewhere and only asks for the answer. -/
inductive Given (p : Party) (id : Nat) (command : Option (Kind × Text)) (s : Session)
    (as : List Action) : Prop
  | queued {c} (isId : c.id = id) (queues : Happens (Queues p c) s as)
      (isCommand : ∀ n, p = .binding n → command = some (c.tag, c.text))
  | asked {n r} (party : p = .call n) (request : r = .receive id ∨ r = .receivePayload id)
      (begins : Happens (Begins n r) s as)

/-- What has happened to a party before its errand was at its stage. -/
structure Past (p : Party) (e : Errand) (s : Session) (as : List Action) : Prop where
  waiting : ∀ {id}, e.stage = .sent (.ok id) ∨ e.stage = .parked id → Given p id e.command s as
  answered : ∀ {r}, e.stage = .answered r →
    Given p r.id e.command s as ∧ Happens (Obtains p r.id r) s as
  refused : ∀ {err}, e.stage = .sent (.error err) → Refuses (s.run as).channel err

theorem Refuses.act {t : Session} {err : ChannelError} (h : Refuses t.channel err) (a : Action) :
    Refuses (t.act a).channel err := by
  rcases h with h | ⟨reason, h, hc⟩
  · exact Or.inl h
  · exact Or.inr ⟨reason, h, closed_act hc a⟩

theorem Given.concat {id : Nat} {command : Option (Kind × Text)} (h : Given p id command s as)
    (a : Action) : Given p id command s (as ++ [a]) := by
  cases h with
  | queued isId queues isCommand => exact .queued isId (queues.concat a) isCommand
  | asked party request begins => exact .asked party request (begins.concat a)

theorem Past.concat {e : Errand} (h : Past p e s as) (a : Action) : Past p e s (as ++ [a]) :=
  ⟨fun hs => (h.waiting hs).concat a,
    fun hs => ⟨(h.answered hs).1.concat a, (h.answered hs).2.concat a⟩,
    fun hs => by rw [run_concat]; exact (h.refused hs).act a⟩

/-- An errand that waits for nothing and was not answered needs no past. -/
theorem past_of_idle {e : Errand} (sent : ∀ ticket, e.stage ≠ .sent ticket)
    (parked : ∀ id, e.stage ≠ .parked id) (answered : ∀ r, e.stage ≠ .answered r) :
    Past p e s as :=
  ⟨fun h => (h.elim (sent _) (parked _)).elim, fun h => absurd h (answered _),
    fun h => absurd h (sent _)⟩

theorem Ticketed.past {e : Errand} (h : Ticketed p e (s.run as) a)
    (parked : ∀ id, e.stage ≠ .parked id) (answered : ∀ r, e.stage ≠ .answered r) :
    Past p e s (as ++ [a]) := by
  refine ⟨?_, fun hs => absurd hs (answered _), ?_⟩
  · rintro id (hs | hs)
    · obtain ⟨c, hid, hq, hc⟩ := h.accepted hs
      exact .queued hid (.last hq) hc
    · exact absurd hs (parked id)
  · intro err hs
    rw [run_concat]
    exact (h.refused hs).act a

/-- A new call has its id from its caller. -/
theorem past_of_begins {r : Request} (hp : p = .call (s.run as).begun) :
    Past p (Call.ofRequest (s.run as).number r).errand s (as ++ [.begin r]) := by
  rcases stage_ofRequest_cases (s.run as).number r with h | ⟨e, h⟩ | ⟨id, hr, h⟩
  · exact past_of_idle (by simp [h]) (by simp [h]) (by simp [h])
  · exact past_of_idle (by simp [h]) (by simp [h]) (by simp [h])
  · refine ⟨?_, by simp [h], by simp [h]⟩
    intro j hj
    have hid : id = j := by simpa [h] using hj
    subst hid
    exact .asked hp hr (.last ⟨rfl, rfl⟩)

theorem Past.moves {e : Errand} {c : Channel Party} {stage : Stage} (hs : (s.run as).Sound)
    (h : Past p e s as) (he : (s.run as).errand? p = some e)
    (hm : Errand.Moves p (s.run as).resolution? (s.run as).channel e c stage)
    (ht : Ticketed p { e with stage := stage } (s.run as) (.advance p)) :
    Past p { e with stage := stage } s (as ++ [.advance p]) := by
  cases hm with
  | sends => exact ht.past nofun nofun
  | @takes id r hstage arrived =>
    refine ⟨by simp, ?_, nofun⟩
    intro r' hr
    cases hr
    have hid : r.id = id := hs.table.keyed arrived
    subst hid
    exact ⟨(h.waiting (Or.inl hstage)).concat _, .last (.atOnce he hstage arrived)⟩
  | @parks id hstage =>
    refine ⟨?_, nofun, nofun⟩
    rintro j (hj | hj)
    · cases hj
    · cases hj
      exact (h.waiting (Or.inl hstage)).concat _
  | @collects id r hstage answer =>
    refine ⟨by simp, ?_, nofun⟩
    intro r' hr
    cases hr
    have hid := hs.id_of_answer he hstage answer
    subst hid
    exact ⟨(h.waiting (Or.inr hstage)).concat _, .last (.later he hstage answer)⟩
  | _ => exact past_of_idle nofun nofun nofun

theorem past_concat (hs : (s.run as).Sound)
    (ih : ∀ {e}, (s.run as).errand? p = some e → Past p e s as) {e : Errand}
    (he : (s.run (as ++ [a])).errand? p = some e) : Past p e s (as ++ [a]) := by
  rw [run_concat] at he
  cases turns_act he with
  | keeps errand => exact (ih errand).concat a
  | builds _ _ binds ticketed =>
    refine ticketed.past ?_ ?_ <;> cases binds <;> simp [Binding.errandAt]
  | imports _ _ ticketed =>
    exact ticketed.past (by simp [Binding.errandAt]) (by simp [Binding.errandAt])
  | begins party => exact past_of_begins party
  | moves errand moves ticketed => exact (ih errand).moves hs errand moves ticketed
  | rewinds => exact past_of_idle (by simp) (by simp) (by simp)
  | stores _ _ _ ticketed => exact ticketed.past (by simp) (by simp)

/-! A handle sends once -/

/-- The errand of a binding has left the stages before the command. -/
def Dispatched (n : Nat) (s : Session) : Prop :=
  ∃ e, s.errand? (.binding n) = some e ∧ e.stage ≠ .fresh ∧ e.stage ≠ .held

theorem Dispatched.act (hs : s.Sound) (h : s.Dispatched n) (a : Action) :
    (s.act a).Dispatched n := by
  obtain ⟨e, he, hfresh, hheld⟩ := h
  obtain ⟨b, hb, rfl⟩ := Option.map_eq_some_iff.1 he
  obtain ⟨b', hb'⟩ := hs.binding_act hb a
  refine ⟨b'.errand, by simp [hb'], ?_⟩
  have ht : Turns s (.binding n) a b'.errand := turns_act (by simp [hb'])
  generalize b'.errand = e' at ht
  cases ht with
  | keeps errand => cases he.symm.trans errand; exact ⟨hfresh, hheld⟩
  | builds party => rw [party, hs.no_errand_built] at he; cases he
  | imports party => rw [party, hs.no_errand_built] at he; cases he
  | begins party => cases party
  | moves errand moves =>
    cases he.symm.trans errand
    cases moves with
    | starts h => exact absurd h hfresh
    | inherits h => exact absurd h hheld
    | clears h => exact absurd h hheld
    | sends h => exact absurd h hheld
    | _ => exact ⟨nofun, nofun⟩
  | rewinds party => cases party
  | stores party => cases party

theorem dispatched_of_queues (hs : s.Sound) {c : Command}
    (h : Happens (Queues (.binding n) c) s as) : (s.run as).Dispatched n := by
  induction as using List.reverseRecOn with
  | nil => exact absurd h not_happens_nil
  | append_singleton as a ih =>
    rw [run_concat]
    rcases happens_concat.1 h with h | h
    · exact (ih h).act (hs.run as) a
    · obtain ⟨uses, hq⟩ := h.enqueues
      obtain ⟨e, he, hstage, -⟩ := hq.awaited _ h.1
      exact ⟨e, he, by simp [hstage], by simp [hstage]⟩

/-- The command of a dispatched binding is not queued again. -/
theorem Dispatched.not_queues (hs : s.Sound) (h : s.Dispatched n) (c : Command) :
    ¬ Queues (.binding n) c s a := by
  rintro hq
  obtain ⟨uses, hc⟩ := hq.enqueues
  have hsend := hc.sending
  rw [hq.1] at hsend
  generalize c.tag = kind, c.text = source at hsend
  obtain ⟨e, he, -, hheld⟩ := h
  cases hsend with
  | builds => rw [hs.no_errand_built] at he; cases he
  | imports => rw [hs.no_errand_built] at he; cases he
  | goes errand stage =>
    cases he.symm.trans errand
    exact hheld stage

theorem eq_of_queues (hs : s.Sound) {c d : Command} (hc : Happens (Queues (.binding n) c) s as)
    (hd : Happens (Queues (.binding n) d) s as) : c = d := by
  induction as using List.reverseRecOn with
  | nil => exact absurd hc not_happens_nil
  | append_singleton as a ih =>
    rcases happens_concat.1 hc with hc | hc
    · rcases happens_concat.1 hd with hd | hd
      · exact ih hc hd
      · exact absurd hd ((dispatched_of_queues hs hc).not_queues (hs.run as) d)
    · rcases happens_concat.1 hd with hd | hd
      · exact absurd hc ((dispatched_of_queues hs hd).not_queues (hs.run as) c)
      · have hcd : [c] = [d] := List.append_cancel_left (hc.2.symm.trans hd.2)
        exact List.singleton_inj.1 hcd

/-! What a request becomes -/

/-- The call has the handles and the command of its request, and its goal but for entries that were
stored. -/
structure Call.From (r : Request) (session : Nat) (k : Call) : Prop where
  uses : k.errand.uses = (ofRequest session r).errand.uses
  command : k.errand.command = (ofRequest session r).errand.command
  goal : k.goal = (ofRequest session r).goal ∨
    ∃ entries rest, (ofRequest session r).goal = .installed entries ∧ k.goal = .installed rest

theorem Call.From.installs {r : Request} {session : Nat} {k : Call} {entries rest : List Entry}
    (h : k.From r session) (hg : k.goal = .installed entries) (k' : Call)
    (errand : k'.errand.uses = k.errand.uses ∧ k'.errand.command = k.errand.command)
    (goal : k'.goal = .installed rest) : k'.From r session := by
  refine ⟨errand.1.trans h.uses, errand.2.trans h.command, Or.inr ?_⟩
  rcases h.goal with hgoal | ⟨es, _, hgoal, -⟩
  · exact ⟨entries, rest, hgoal.symm.trans hg, goal⟩
  · exact ⟨es, rest, hgoal, goal⟩

theorem Call.From.proceeds {r : Request} {session : Nat} {k : Call} (hn : n < s.begun)
    (h : ∀ {k}, s.calls n = some k → k.From r session) (hp : Proceeds s n a k) :
    k.From r session := by
  cases hp with
  | keeps call => exact h call
  | begins number => omega
  | waits call => exact ⟨(h call).uses, (h call).command, (h call).goal⟩
  | ends call => exact ⟨(h call).uses, (h call).command, (h call).goal⟩
  | rewinds call => exact ⟨(h call).uses, (h call).command, (h call).goal⟩
  | completes call => exact ⟨(h call).uses, (h call).command, (h call).goal⟩
  | stores call _ goal => exact (h call).installs goal _ ⟨rfl, rfl⟩ rfl
  | registers call _ goal => exact (h call).installs goal _ ⟨rfl, rfl⟩ rfl

theorem lt_begun_of_begins {r : Request} (h : Happens (Begins n r) s as) :
    n < (s.run as).begun := by
  induction as using List.reverseRecOn with
  | nil => exact absurd h not_happens_nil
  | append_singleton as a ih =>
    rw [run_concat]
    rcases happens_concat.1 h with h | ⟨rfl, rfl⟩
    · exact Nat.lt_of_lt_of_le (ih h) (extends_act _ a).begun
    · exact Nat.lt_succ_self _

/-- A call is what its request made of it. -/
theorem from_of_begins (hs : s.Sound) {r : Request} {k : Call} (h : Happens (Begins n r) s as)
    (hk : (s.run as).calls n = some k) : k.From r s.number := by
  induction as using List.reverseRecOn generalizing k with
  | nil => exact absurd h not_happens_nil
  | append_singleton as a ih =>
    rw [run_concat] at hk
    rcases happens_concat.1 h with h | ⟨rfl, rfl⟩
    · exact .proceeds (lt_begun_of_begins h) (ih h) (proceeds_act hk)
    · have hnumber := (extends_run s as).number
      cases proceeds_act hk with
      | keeps call =>
        rw [(hs.run as).calls _ (Nat.le_refl _)] at call
        cases call
      | begins => rw [hnumber]; exact ⟨rfl, rfl, Or.inl rfl⟩

/-! From the beginning -/

theorem errand?_opened {number : Nat} {stem : Text} {debug : Bool}
    (h : opened number stem debug = .ok s) (p : Party) : s.errand? p = none := by
  unfold opened at h
  split at h
  · cases h; cases p <;> rfl
  · cases h

theorem numbered_opened {number : Nat} {stem : Text} {debug : Bool}
    (h : opened number stem debug = .ok s) : s.Numbered := by
  unfold opened at h
  split at h
  · cases h; exact ⟨by simp [Channel.opened, Outbox.empty], by simp [Channel.opened, Outbox.empty]⟩
  · cases h

/-- Every errand has its past. -/
theorem past_run {number : Nat} {stem : Text} {debug : Bool}
    (h : opened number stem debug = .ok s) (as : List Action) {e : Errand}
    (he : (s.run as).errand? p = some e) : Past p e s as := by
  induction as using List.reverseRecOn generalizing e with
  | nil =>
    rw [run_nil, errand?_opened h] at he
    cases he
  | append_singleton as a ih => exact past_concat ((sound_opened h).run as) ih he

/-- The id that a binding has was given to its own assignment. -/
theorem sent_of_given (hs : (s.run as).Sound) {b : Binding} {id : Nat}
    (hb : (s.run as).bindings n = some b) (hg : Given (.binding n) id b.errand.command s as) :
    ∃ sent, sent.id = id ∧ Happens (Queues (.binding n) sent) s as ∧ sent.tag = .exec ∧
      sent.text = Binding.source (s.handleAt n) b.expression := by
  cases hg with
  | asked party => cases party
  | @queued sent isId queues isCommand =>
    have hcommand := ((hs.recorded hb).command.symm.trans (isCommand n rfl)).symm
    rw [(extends_run s as).handleAt] at hcommand
    simp only [Option.some.injEq, Prod.mk.injEq] at hcommand
    exact ⟨sent, isId, queues, hcommand⟩

/-- A session that has done nothing yet. -/
def newSession : Session := ⟨0, ['v'], .opened false, fun _ => none, 0, fun _ => none, 0, []⟩

theorem opened_newSession : opened 0 ['v'] false = .ok newSession := rfl

end RemoteInterpreter.Session
