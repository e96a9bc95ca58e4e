import RemoteInterpreter.Proofs.Insertion
import RemoteInterpreter.Proofs.Teardown

/-!
# What can still be received

A response can be received while it lies in the table, or at the place of a caller that has not
come back for it. It gets there only by being read. A close takes nobody's answer away and lets
nobody wait any more, but it does not stop the reader: what is read afterwards can be received
as well, unless it was the reader that closed the table.
-/

namespace RemoteInterpreter.Session

variable {s : Session} {p : Party} {id : Nat} {a : Action} {as bs : List Action} {r : Response}
variable {reason : CloseReason} {number : Nat} {stem : Text} {debug : Bool}

/-- Some caller can still receive the response. -/
def Receivable (r : Response) (s : Session) : Prop :=
  s.channel.pending.arrived r.id = some r ∨ ∃ p, s.channel.pending.place p = .answered (.ok r)

theorem receivable_iff : Receivable r (s.run as) ↔ ∃ spot, spot ≠ .gone ∧ Lies r s as spot := by
  constructor
  · rintro (h | ⟨p, h⟩)
    · exact ⟨.table, nofun, h⟩
    · exact ⟨.place p, nofun, h⟩
  · rintro ⟨spot, hspot, h⟩
    cases spot with
    | table => exact Or.inl h
    | place p => exact Or.inr ⟨p, h⟩
    | gone => exact absurd rfl hspot

theorem inserted?_eq_some (h : s.inserted? a = some r) : ∃ octets i, a = .read ∧
    s.channel.inbox.read = .piece octets i ∧ Response.ofPiece? octets = some r := by
  by_cases hread : ∃ octets i, a = .read ∧ s.channel.inbox.read = .piece octets i
  · obtain ⟨octets, i, rfl, hread⟩ := hread
    exact ⟨octets, i, rfl, hread, (inserted?_read hread).symm.trans h⟩
  · have hq : Quiet s a := fun ha octets i hi => hread ⟨octets, i, ha, hi⟩
    rw [inserted?_of_quiet hq] at h
    cases h

theorem pending_of_inserted (h : s.inserted? a = some r) :
    (s.act a).channel.pending = s.channel.pending.insert r :=
  (admits s [] a).inserts r h

/-- What is read while nobody waits for it lies in the table. -/
theorem arrived_of_inserted (h : s.inserted? a = some r)
    (hw : s.channel.pending.waiter r.id = none) :
    (s.act a).channel.pending.arrived r.id = some r := by
  rw [pending_of_inserted h, Pending.arrived_insert, if_pos ⟨rfl, hw⟩]

/-- Whoever is waiting for a response obtains it once it is read. -/
theorem obtains_of_inserted (hs : s.Sound) (h : s.inserted? a = some r)
    (hl : s.channel.pending.live? r.id = some p) : Obtains p r.id r (s.act a) (.advance p) := by
  have hplace : (s.act a).channel.pending.place p = .answered (.ok r) := by
    rw [pending_of_inserted h, Pending.place_insert, if_pos hl]
  obtain ⟨e, he, hstage⟩ := hs.parked_of_live hl
  obtain ⟨octets, i, rfl, hread, -⟩ := inserted?_eq_some h
  have herrand : (s.act .read).errand? p = some e := by
    rw [act_read hread, errand?_channel]
    exact he
  exact .later herrand hstage hplace

/-- What can be received after an action could be received before, or was read just now. -/
theorem receivable_act (h : Receivable r (s.act a)) : Receivable r s ∨ s.inserted? a = some r := by
  obtain ⟨spot, hspot, hlies⟩ : ∃ spot, spot ≠ .gone ∧ Lies r s ([] ++ [a]) spot :=
    receivable_iff.1 h
  have before : Lies r s [] spot → Receivable r s := fun hl => receivable_iff.2 ⟨spot, hspot, hl⟩
  cases hi : s.inserted? a with
  | none => exact Or.inl (before ((admits s [] a).nothing hi r spot hspot hlies))
  | some new =>
    obtain ⟨octets, i, rfl, hread, hpiece⟩ := inserted?_eq_some hi
    have hread' : (s.run []).channel.inbox.read = .piece octets i := hread
    rcases lies_read hread' hpiece hlies with hl | ⟨rfl, -⟩
    · exact Or.inl (before hl)
    · exact Or.inr rfl

/-- What can be received after a run could be received before, or was read in between. -/
theorem receivable_run (h : Receivable r (s.run as)) : Receivable r s ∨ r ∈ s.inserted as := by
  induction as generalizing s with
  | nil => exact Or.inl h
  | cons a as ih =>
    rw [inserted, List.mem_append]
    rcases ih h with h | h
    · exact (receivable_act h).imp_right fun hi => Or.inl (by simp [hi])
    · exact Or.inr (Or.inr h)

theorem receivable_of_obtains (hs : s.Sound) (hrec : ∀ {n k}, s.calls n = some k → k.Recorded)
    (h : Obtains p id r s a) : Receivable r s := by
  have hlies : r.id = id ∧ ∃ spot, spot ≠ .gone ∧ Lies r s [] spot ∧
      ∀ r', r'.id = r.id → ¬ Lies r' s ([] ++ [a]) spot := Obtains.lies hs hrec h
  obtain ⟨-, spot, hspot, hlies, -⟩ := hlies
  exact receivable_iff.2 ⟨spot, hspot, hlies⟩

/-- Whatever a party obtains in a run could be received before the run, or was read in it. -/
theorem receivable_or_inserted (hs : s.Sound) (hrec : ∀ {n k}, s.calls n = some k → k.Recorded)
    (h : Happens (Obtains p id r) s as) : Receivable r s ∨ r ∈ s.inserted as := by
  obtain ⟨before, a, after, rfl, h⟩ := h
  rcases receivable_run (receivable_of_obtains (hs.run before) (recorded_run hrec before) h) with
    h | h
  · exact Or.inl h
  · exact Or.inr (by rw [inserted_append]; exact List.mem_append_left _ h)

theorem not_receivable_opened (hopen : opened number stem debug = .ok s) (r : Response) :
    ¬ Receivable r s := by
  rw [Receivable, channel_opened hopen]
  rintro (h | ⟨p, h⟩) <;> cases h

/-- Whatever a party of a session obtains was read. -/
theorem inserted_of_obtains (hopen : opened number stem debug = .ok s)
    (h : Happens (Obtains p id r) s as) : r ∈ s.inserted as :=
  (receivable_or_inserted (sound_opened hopen) (recorded_opened hopen []) h).resolve_left
    (not_receivable_opened hopen r)

/-! After the close -/

theorem shut_of_closed (hopen : opened number stem debug = .ok s)
    (h : (s.run as).channel.pending.closed = some reason) :
    (s.run as).channel.pending.Shut reason := by
  induction as using List.reverseRecOn with
  | nil =>
    rw [run_nil, channel_opened hopen] at h
    cases h
  | append_singleton as a ih =>
    rw [run_concat] at h ⊢
    cases hclosed : (s.run as).channel.pending.closed with
    | some first =>
      cases h.symm.trans (closed_act hclosed a)
      exact shut_act (ih hclosed) a
    | none =>
      rw [closed_act_eq, hclosed, Option.none_or] at h
      obtain ⟨c, hcloses, hact⟩ := closes_of_closing? h
      rw [hact, hcloses.pending]
      exact Pending.shut_close hclosed reason

/-- A reader that has closed the table inserts nothing more. -/
theorem inserted_of_ended (h : s.closing? .read = some reason) (as : List Action) :
    (s.act .read).inserted as = [] := by
  have hr := s.channel.inbox.reads_read
  simp only [closing?] at h
  split at h
  · next reason' i hread =>
    refine inserted_of_stopped ?_ as
    rw [inbox_act, hread]
    rw [hread] at hr
    cases hr <;> rfl
  · cases h

/-- A close keeps what had come before: what can be received afterwards could be received then, or
was read afterwards. The reader does not stop for a kill or a failed write, and each response that
it reads then is given to whoever asks for it next. Only when the reader itself has closed the
table, at the end or a fault of the stream, nothing new can be received. -/
theorem closed_channel_hears_reader (hopen : opened number stem debug = .ok s)
    (hclosed : (s.run as).channel.isClosed = true) (bs : List Action) :
    (∀ r, Receivable r (s.run (as ++ bs)) →
      Receivable r (s.run as) ∨ r ∈ (s.run as).inserted bs) ∧
    (∀ p id r, Happens (Obtains p id r) (s.run as) bs →
      Receivable r (s.run as) ∨ r ∈ (s.run as).inserted bs) ∧
    (∀ a r, (s.run (as ++ bs)).inserted? a = some r → Receivable r (s.run (as ++ bs ++ [a])) ∧
      ((s.run (as ++ bs ++ [a])).run
        [.begin (.receive r.id), .advance (.call (s.run (as ++ bs ++ [a])).begun)]).result?
          (s.run (as ++ bs ++ [a])).begun = some (.ok (.response r))) ∧
    ∀ before after reason, as = before ++ .read :: after →
      (s.run before).closing? .read = some reason → (s.run as).inserted bs = [] := by
  obtain ⟨reason, hreason⟩ := Option.isSome_iff_exists.1 hclosed
  have hs := (sound_opened hopen).run as
  refine ⟨?_, ?_, ?_, ?_⟩
  · intro r h
    rw [run_append] at h
    exact receivable_run h
  · exact fun p id r h => receivable_or_inserted hs (recorded_opened hopen as) h
  · intro a r h
    have hshut : (s.run (as ++ bs)).channel.pending.Shut reason := by
      rw [run_append]
      exact shut_run (shut_of_closed hopen hreason) bs
    have harrived := arrived_of_inserted h (hshut.waiter r.id)
    have hshut' := shut_act hshut a
    rw [← run_concat] at harrived hshut'
    exact ⟨Or.inl harrived, by rw [result?_receive hshut', harrived]⟩
  · rintro before after reason' rfl hclosing
    have hnone := inserted_of_ended hclosing (after ++ bs)
    rw [inserted_append, List.append_eq_nil_iff] at hnone
    rw [run_append, run_cons]
    exact hnone.2

/-- A command is sent, and the channel is killed before its answer has come. -/
def earlyKill : List Action := [.send .eval ['x'], .kill]

/-- The answer comes nevertheless. -/
def lateAnswer : List Action := [.feed [48, 61, 80, 65, 83, 83, 61, 49, 10], .read]

theorem closed_channel_hears_reader_killed :
    opened 0 ['v'] false = .ok newSession ∧
    (newSession.run earlyKill).channel.isClosed = true ∧
    Receivable ⟨0, .pass, ['1']⟩ (newSession.run (earlyKill ++ lateAnswer)) ∧
    (Receivable ⟨0, .pass, ['1']⟩ (newSession.run earlyKill) ∨
      ⟨0, .pass, ['1']⟩ ∈ (newSession.run earlyKill).inserted lateAnswer) := by
  have hclosed : (newSession.run earlyKill).channel.isClosed = true := rfl
  have hreceivable : Receivable ⟨0, .pass, ['1']⟩ (newSession.run (earlyKill ++ lateAnswer)) :=
    Or.inl (by decide +kernel)
  obtain ⟨hnew, -⟩ := closed_channel_hears_reader opened_newSession hclosed lateAnswer
  exact ⟨opened_newSession, hclosed, hreceivable, hnew _ hreceivable⟩

/-- What can be received from a closed channel does not only shrink. -/
theorem receivable_after_close :
    ¬ ∀ (number : Nat) (stem : Text) (debug : Bool) (s : Session) (as bs : List Action)
      (r : Response), opened number stem debug = .ok s → (s.run as).channel.isClosed = true →
      Receivable r (s.run (as ++ bs)) → Receivable r (s.run as) := by
  intro h
  have hlate : Receivable ⟨0, .pass, ['1']⟩ (newSession.run (earlyKill ++ lateAnswer)) :=
    Or.inl (by decide +kernel)
  have hearly := h 0 ['v'] false newSession earlyKill lateAnswer _ opened_newSession rfl hlate
  rcases hearly with harrived | ⟨p, hplace⟩
  · cases harrived
  · cases hplace

end RemoteInterpreter.Session
