import RemoteInterpreter.Proofs.Usage

/-!
# Nobody contends for an id

Who sends a command is given a fresh id, and asks the table for the answer to it. While nobody
asks for an answer by an id that was not given to it, every id is asked for once and by one
party, so nobody ever finds another one waiting for its answer.
-/

namespace RemoteInterpreter.Session

variable {s t : Session} {p q : Party} {n id : Nat} {a : Action} {as : List Action} {k : Call}
variable {number : Nat} {stem : Text} {debug : Bool}

/-- All callers wait for the answers to their own commands: none asks for one by its id. -/
def KeepsToOwn (as : List Action) : Prop :=
  ∀ id, .begin (.receive id) ∉ as ∧ .begin (.receivePayload id) ∉ as

/-- A party asks the table for the answer to the id that it has in hand. -/
def Asks (p : Party) (id : Nat) (s : Session) (a : Action) : Prop :=
  a = .advance p ∧ ∃ e, s.errand? p = some e ∧ e.stage = .sent (.ok id)

theorem KeepsToOwn.of_append {bs : List Action} (h : KeepsToOwn (as ++ bs)) : KeepsToOwn as :=
  fun id => ⟨fun hm => (h id).1 (by simp [hm]), fun hm => (h id).2 (by simp [hm])⟩

theorem KeepsToOwn.not_begins {r : Request} (h : KeepsToOwn as)
    (asks : r = .receive id ∨ r = .receivePayload id) : ¬ Happens (Begins n r) s as := by
  rintro ⟨before, a, after, rfl, rfl, -⟩
  rcases asks with rfl | rfl
  · exact (h id).1 (by simp)
  · exact (h id).2 (by simp)

/-! An id has one party -/

theorem queued_of_given {command : Option (Kind × Text)} (h : KeepsToOwn as)
    (hg : Given p id command s as) : ∃ c, c.id = id ∧ Happens (Queues p c) s as := by
  cases hg with
  | queued isId queues => exact ⟨_, isId, queues⟩
  | asked _ asks begins => exact absurd begins (h.not_begins asks)

/-- The id that a party waits for was given to it with its own command. -/
theorem queued_of_waiting (hopen : opened number stem debug = .ok s) (h : KeepsToOwn as)
    {e : Errand} (he : (s.run as).errand? p = some e)
    (hs : e.stage = .sent (.ok id) ∨ e.stage = .parked id) :
    ∃ c, c.id = id ∧ Happens (Queues p c) s as := by
  have hpast : Past p e s as := past_run hopen as he
  exact queued_of_given h (hpast.waiting hs)

theorem queued_of_asks (hopen : opened number stem debug = .ok s) (h : KeepsToOwn as)
    (ha : Happens (Asks p id) s as) : ∃ c, c.id = id ∧ Happens (Queues p c) s as := by
  obtain ⟨before, a, after, rfl, -, e, he, hs⟩ := ha
  obtain ⟨c, hc, hqueues⟩ := queued_of_waiting hopen h.of_append he (Or.inl hs)
  exact ⟨c, hc, hqueues.append _⟩

/-- Commands with one id were queued in the name of one party. -/
theorem eq_of_queues_id (hn : s.Numbered) {c d : Command} (hc : Happens (Queues p c) s as)
    (hd : Happens (Queues q d) s as) (hid : c.id = d.id) : p = q := by
  have heq : c = d := (hn.run as).eq_of_id (mem_of_queues hc) (mem_of_queues hd) hid
  subst heq
  exact Owns.eq_of_queues hn (.queued hc) hd

/-- Whoever asks for an answer finds nobody waiting for it. -/
theorem live?_eq_none_of_asking (hopen : opened number stem debug = .ok s) (h : KeepsToOwn as)
    {e : Errand} (he : (s.run as).errand? p = some e) (hs : e.stage = .sent (.ok id)) :
    (s.run as).channel.pending.live? id = none := by
  rw [Option.eq_none_iff_forall_ne_some]
  intro q hq
  obtain ⟨en, hen, hparked⟩ := ((sound_opened hopen).run as).parked_of_live hq
  obtain ⟨c, hc, hqueues⟩ := queued_of_waiting hopen h he (Or.inl hs)
  obtain ⟨d, hd, hqueues'⟩ := queued_of_waiting hopen h hen (Or.inr hparked)
  have hpq : p = q :=
    eq_of_queues_id (numbered_opened hopen) hqueues hqueues' (hc.trans hd.symm)
  subst hpq
  cases he.symm.trans hen
  rw [hs] at hparked
  cases hparked

/-! Nobody is told that its answer is awaited already -/

/-- The error of one who finds another party waiting. -/
def Error.IsContention (e : Error) : Prop := ∃ id, e = .channel (.alreadyAwaited id)

theorem not_contention_of_refuses {c : Channel Party} {err : ChannelError} (h : Refuses c err) :
    ¬ Error.IsContention (.channel err) := by
  rintro ⟨id, hid⟩
  rcases h with rfl | ⟨reason, rfl, -⟩ <;> cases hid

/-- No errand has failed because its answer was awaited already. -/
def Uncontended (s : Session) : Prop :=
  ∀ p e err, s.errand? p = some e → e.stage = .failed err → ¬ err.IsContention

theorem Uncontended.resolution? (h : Uncontended s) {err : Error}
    (hr : s.resolution? n = some (.error err)) : ¬ err.IsContention := by
  obtain ⟨e, he, hx⟩ := resolution?_eq_some_iff.1 hr
  cases hs : e.stage with
  | failed err' =>
    rw [hs] at hx
    cases hx
    exact h _ e err he hs
  | answered r =>
    rw [hs] at hx
    obtain ⟨-, rfl⟩ := Stage.fail_of_result? hx
    rintro ⟨id, ⟨⟩⟩
  | cleared => rw [hs] at hx; cases hx
  | fresh => rw [hs] at hx; cases hx
  | held => rw [hs] at hx; cases hx
  | sent => rw [hs] at hx; cases hx
  | parked => rw [hs] at hx; cases hx

theorem Uncontended.moves (hopen : opened number stem debug = .ok s) (ho : KeepsToOwn as)
    (h : Uncontended (s.run as)) {e : Errand} (he : (s.run as).errand? p = some e)
    {c : Channel Party} {stage : Stage} {err : Error}
    (hm : Errand.Moves p (s.run as).resolution? (s.run as).channel e c stage)
    (hs : stage = .failed err) : ¬ err.IsContention := by
  cases hm with
  | inherits _ joined =>
    cases hs
    obtain ⟨m, -, hr⟩ := List.mem_map.1 (Joined.mem_of_all_failed joined)
    exact h.resolution? hr
  | refused stage =>
    cases hs
    have hpast : Past p e s as := past_run hopen as he
    exact not_contention_of_refuses (hpast.refused stage)
  | turnedAway stage claims =>
    cases hs
    rintro ⟨id, ⟨⟩⟩
    obtain ⟨q, live⟩ := claims.live_of_awaited
    rw [live?_eq_none_of_asking hopen ho he stage] at live
    cases live
  | letDown => cases hs; rintro ⟨id, ⟨⟩⟩
  | starts => cases hs
  | clears => cases hs
  | sends => cases hs
  | takes => cases hs
  | parks => cases hs
  | collects => cases hs

theorem Uncontended.turns (hopen : opened number stem debug = .ok s) (ho : KeepsToOwn as)
    (h : Uncontended (s.run as)) {e : Errand} {err : Error} (ht : Turns (s.run as) p a e)
    (hs : e.stage = .failed err) : ¬ err.IsContention := by
  cases ht with
  | keeps he => exact h p e err he hs
  | builds _ _ binds =>
    cases binds with
    | outside => cases hs; rintro ⟨id, ⟨⟩⟩
    | atOnce => cases hs
    | deferred => cases hs
  | imports => cases hs
  | begins =>
    rcases stage_ofRequest_cases (s.run as).number _ with hr | ⟨x, hr⟩ | ⟨i, -, hr⟩
    · rw [hr] at hs; cases hs
    · rw [hr] at hs; cases hs; rintro ⟨id, ⟨⟩⟩
    · rw [hr] at hs; cases hs
  | moves he hm => exact h.moves hopen ho he hm hs
  | rewinds => cases hs
  | stores => cases hs

theorem uncontended_run (hopen : opened number stem debug = .ok s) (ho : KeepsToOwn as) :
    Uncontended (s.run as) := by
  induction as using List.reverseRecOn with
  | nil =>
    intro p e err he
    rw [run_nil, errand?_opened hopen] at he
    cases he
  | append_singleton as a ih =>
    intro p e err he hs
    rw [run_concat] at he
    exact (ih ho.of_append).turns hopen ho.of_append (turns_act he) hs

/-- The result of a call is such an error only if its errand has failed with it. -/
theorem Goal.Gives.failed_of_contention {goal : Goal} {stage : Stage} {err : Error}
    (h : goal.Gives stage (.error err)) (hc : err.IsContention) : stage = .failed err := by
  obtain ⟨id, rfl⟩ := hc
  cases h with
  | fails _ failed =>
    cases stage with
    | failed err => cases failed; rfl
    | answered r => cases (Stage.fail_of_result? failed).2
    | _ => cases failed
  | concludes _ _ concludes => cases concludes

/-! Nobody asks twice -/

/-- A command that is queued has a new id. -/
theorem id_of_queues {c : Command} (h : Queues p c s a) : c.id = s.channel.commandsSent := by
  obtain ⟨uses, hq⟩ := h.enqueues
  exact hq.id

/-- An id is in hand because it was before, or with a command that is queued, or because the caller
brings it. -/
theorem Turns.in_hand {e : Errand} (h : Turns s p a e) (hs : e.stage = .sent (.ok id)) :
    s.errand? p = some e ∨ (∃ c, c.id = id ∧ Queues p c s a) ∨
      ∃ r, a = .begin r ∧ (r = .receive id ∨ r = .receivePayload id) := by
  have queued : Ticketed p e s a → ∃ c, c.id = id ∧ Queues p c s a := by
    intro ht
    obtain ⟨c, hc, hq, -⟩ := ht.accepted hs
    exact ⟨c, hc, hq⟩
  cases h with
  | keeps he => exact Or.inl he
  | builds _ _ _ ticketed => exact Or.inr (Or.inl (queued ticketed))
  | imports _ _ ticketed => exact Or.inr (Or.inl (queued ticketed))
  | @begins r =>
    rcases stage_ofRequest_cases s.number r with hr | ⟨x, hr⟩ | ⟨i, hr, hi⟩
    · rw [hr] at hs; cases hs
    · rw [hr] at hs; cases hs
    · rw [hi] at hs
      cases hs
      exact Or.inr (Or.inr ⟨r, rfl, hr⟩)
  | moves _ _ ticketed => exact Or.inr (Or.inl (queued ticketed))
  | rewinds => cases hs
  | stores _ _ _ ticketed => exact Or.inr (Or.inl (queued ticketed))

/-- An errand with an id in hand asks for the answer in its next step. -/
theorem advance?_of_id {e : Errand} (hs : e.stage = .sent (.ok id))
    (resolution : Nat → Option (Except Error Text)) (c : Channel Party) :
    ∃ c' stage, e.advance? p resolution c = some (c', stage) ∧ ∀ ticket, stage ≠ .sent ticket := by
  unfold Errand.advance?
  rw [hs]
  dsimp only
  split
  · exact ⟨_, _, rfl, nofun⟩
  · exact ⟨_, _, rfl, nofun⟩
  · exact ⟨_, _, rfl, nofun⟩

/-- What a call makes of its errand's stage leaves the stage, or takes the call to the next
entry. -/
theorem Settles.stage {t' : Session} (hk : t.calls n = some k) (h : Settles t n k t') :
    ∃ e, t'.errand? (.call n) = some e ∧ (e.stage = k.errand.stage ∨ e.stage = .held) := by
  cases h with
  | waits => exact ⟨k.errand, by simp [hk], Or.inl rfl⟩
  | goesOn => exact ⟨{ k.errand with stage := .held }, by simp [errand?_putCall, Call.atStage],
      Or.inr rfl⟩
  | _ => exact ⟨k.errand, by simp [errand?_putCall, Call.finished], Or.inl rfl⟩

/-- Who has asked has no id in hand any more. -/
theorem Asks.act (hrec : ∀ {n k}, s.calls n = some k → k.Recorded) (h : Asks p id s a) :
    ∃ e, (s.act a).errand? p = some e ∧ ∀ ticket, e.stage ≠ .sent ticket := by
  obtain ⟨rfl, e, he, hs⟩ := h
  obtain ⟨c, stage, hadvance, hstage⟩ := advance?_of_id (p := p) hs s.resolution? s.channel
  cases p with
  | binding n =>
    obtain ⟨b, hb, rfl⟩ := Option.map_eq_some_iff.1 he
    refine ⟨{ b.errand with stage := stage }, ?_, hstage⟩
    rw [act_advanceBinding hb hadvance, errand?_moved, if_pos rfl, he]
    rfl
  | call n =>
    obtain ⟨k, hk, rfl⟩ := Option.map_eq_some_iff.1 he
    have live : k.result = none := (hrec hk).live_of_waiting (by rw [hs]; rfl) (by simp [hs])
    have settles := settles_advanceCall hk live (fun _ _ => by simp [hs]) hadvance
    obtain ⟨e', he', hstage'⟩ := settles.stage (by rw [calls_moved, if_pos rfl, hk]; rfl)
    refine ⟨e', he', fun ticket => ?_⟩
    rcases hstage' with h | h
    · rw [h]; exact hstage ticket
    · rw [h]; nofun

/-- Who has asked for an id does not get it again. -/
theorem not_in_hand_of_asks (hopen : opened number stem debug = .ok s) (ho : KeepsToOwn as)
    (h : Happens (Asks p id) s as) {e : Errand} (he : (s.run as).errand? p = some e) :
    e.stage ≠ .sent (.ok id) := by
  induction as using List.reverseRecOn generalizing e with
  | nil => exact absurd h not_happens_nil
  | append_singleton as a ih =>
    rw [run_concat] at he
    rcases happens_concat.1 h with h | h
    · intro hs
      obtain ⟨c, hc, hqueues⟩ := queued_of_asks hopen ho.of_append h
      have hlt := ((numbered_opened hopen).run as).lt (mem_of_queues hqueues)
      rcases (turns_act he).in_hand hs with hkept | ⟨d, hd, hq⟩ | ⟨r, rfl, hr⟩
      · exact ih ho.of_append h hkept hs
      · have hnew := id_of_queues hq
        omega
      · have hbegins : Happens (Begins (s.run as).begun r) s (as ++ [.begin r]) := .last ⟨rfl, rfl⟩
        exact ho.not_begins hr hbegins
    · obtain ⟨e', he', hstage⟩ := h.act (recorded_opened hopen as)
      cases he.symm.trans he'
      exact hstage _

/-- While every caller waits for the answers to its own commands, whatever lines come and whoever
is dropped: no call and no binding ever fails because its answer is awaited already. An id is
asked for once, by the party that was given it with its command. -/
theorem fresh_ids_uncontended (hopen : opened number stem debug = .ok s) (ho : KeepsToOwn as) :
    (∀ n id, (s.run as).result? n ≠ some (.error (.channel (.alreadyAwaited id)))) ∧
    (∀ n id, (s.run as).resolution? n ≠ some (.error (.channel (.alreadyAwaited id)))) ∧
    ∀ before a after p id, as = before ++ a :: after → Asks p id (s.run before) a →
      (∃ c, c.id = id ∧ Happens (Queues p c) s before) ∧
      (s.run before).channel.pending.live? id = none ∧
      ∀ q, ¬ Happens (Asks q id) s before := by
  refine ⟨?_, ?_, ?_⟩
  · intro n id hr
    obtain ⟨k, hk, hx⟩ := Option.bind_eq_some_iff.1 hr
    have hgives := (recorded_opened hopen as hk).ended hx
    have hstage := hgives.failed_of_contention ⟨id, rfl⟩
    exact uncontended_run hopen ho (.call n) k.errand _ (by rw [errand?_call, hk]; rfl) hstage
      ⟨id, rfl⟩
  · intro n id hr
    exact (uncontended_run hopen ho).resolution? hr ⟨id, rfl⟩
  · rintro before a after p id rfl ⟨rfl, e, he, hs⟩
    have ho' : KeepsToOwn before := ho.of_append
    obtain ⟨c, hc, hqueues⟩ := queued_of_waiting hopen ho' he (Or.inl hs)
    refine ⟨⟨c, hc, hqueues⟩, live?_eq_none_of_asking hopen ho' he hs, ?_⟩
    intro q hq
    obtain ⟨d, hd, hqueues'⟩ := queued_of_asks hopen ho' hq
    have hqp : p = q :=
      eq_of_queues_id (numbered_opened hopen) hqueues hqueues' (hc.trans hd.symm)
    subst hqp
    exact not_in_hand_of_asks hopen ho' hq he hs

/-- Two calls send. The first one is dropped while it waits, and is answered twice. -/
def abandonedActions : List Action :=
  [.begin (.exec ['a']), .begin (.eval ['b']), .advance (.call 0), .advance (.call 1),
    .advance (.call 0), .drop 0,
    .feed [48, 61, 80, 65, 83, 83, 61, 79, 75, 10, 48, 61, 80, 65, 83, 83, 61, 79, 75, 10],
    .read, .read]

theorem fresh_ids_uncontended_abandoned :
    opened 0 ['v'] false = .ok newSession ∧
    KeepsToOwn (abandonedActions ++ [.advance (.call 1)]) ∧
    Asks (.call 1) 1 (newSession.run abandonedActions) (.advance (.call 1)) ∧
    (∀ q, ¬ Happens (Asks q 1) newSession abandonedActions) ∧
    ∀ id, (newSession.run (abandonedActions ++ [.advance (.call 1)])).result? 1 ≠
      some (.error (.channel (.alreadyAwaited id))) := by
  have hown : KeepsToOwn (abandonedActions ++ [.advance (.call 1)]) := by
    intro id
    simp [abandonedActions]
  have hasks : Asks (.call 1) 1 (newSession.run abandonedActions) (.advance (.call 1)) :=
    ⟨rfl, _, rfl, rfl⟩
  obtain ⟨hresult, -, honce⟩ := fresh_ids_uncontended opened_newSession hown
  exact ⟨opened_newSession, hown, hasks, (honce _ _ _ _ _ rfl hasks).2.2, hresult 1⟩

end RemoteInterpreter.Session
