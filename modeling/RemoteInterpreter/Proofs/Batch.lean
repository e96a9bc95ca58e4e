import RemoteInterpreter.Proofs.Receiving

/-!
# Runs that read a batch

While no party moves but some receives of different ids, and while no id has two responses, each
receive stands as the response for its id lets it stand, and the rest of the table is as if only
the responses had come. The order of responses and receives does not show in this.
-/

namespace RemoteInterpreter.Session

variable {s t : Session} {a : Action} {as : List Action} {r : Response} {id : Nat} {p : Party}
variable {v w : Receive} {ws vs : List Receive} {ph : Phase} {batch : List Response}

/-! Responses in any order -/

theorem answer?_eq_some_iff (h : (batch.map fun r => r.id).Nodup) :
    answer? id batch = some r ↔ r ∈ batch ∧ r.id = id := by
  constructor
  · intro hr
    exact ⟨List.mem_of_find?_eq_some hr, by simpa using List.find?_some hr⟩
  · rintro ⟨hr, rfl⟩
    obtain ⟨found, hfound⟩ : ∃ found, answer? r.id batch = some found :=
      Option.isSome_iff_exists.1 (List.find?_isSome.2 ⟨r, hr, by simp⟩)
    have hid : found.id = r.id := by simpa using List.find?_some hfound
    rw [hfound, List.inj_on_of_nodup_map h (List.mem_of_find?_eq_some hfound) hr hid]

/-- Each id has the same response in whatever order they come. -/
theorem answer?_of_perm {batch' : List Response} (h : (batch.map fun r => r.id).Nodup)
    (hperm : batch.Perm batch') (id : Nat) : answer? id batch = answer? id batch' := by
  have h' : (batch'.map fun r => r.id).Nodup := (hperm.map _).nodup_iff.1 h
  refine Option.ext fun r => ?_
  rw [answer?_eq_some_iff h, answer?_eq_some_iff h', hperm.mem_iff]

/-! Runs -/

/-- How a receive stands when a run starts. -/
structure Outset where
  due : Option Response
  rest : Option Response
  back : Option Party
  phase : Phase

def Receive.outset (w : Receive) (s : Session) : Outset :=
  match s.channel.pending.place w.party with
  | .parked _ => ⟨none, s.channel.pending.arrived w.id, none, .waiting⟩
  | _ => ⟨s.channel.pending.arrived w.id, none, s.channel.pending.waiter w.id, .ahead⟩

/-- A run in which nobody but these receives moves, and in which each of them gets one response at
most. -/
structure Orderly (ws : List Receive) (s : Session) (as : List Action) : Prop where
  sound : s.Sound
  recorded : ∀ {n k}, s.calls n = some k → k.Recorded
  calls : (ws.map Receive.call).Nodup
  ids : (ws.map Receive.id).Nodup
  starts : ∀ w ∈ ws,
    Stands s w (w.outset s).rest (w.outset s).back (w.outset s).due (w.outset s).phase
  begins : ∀ w ∈ ws, ∀ q, Happens (Begins w.call q) s as → q = .receive w.id
  batch : ((s.inserted as).map fun r => r.id).Nodup
  alone : ∀ w ∈ ws, ∀ r ∈ s.inserted as, r.id = w.id →
    (w.outset s).due = none ∧ (w.outset s).back = none
  mine : ∀ a ∈ as, MovesOnly ws a
  isOpen : (s.run as).channel.pending.closed = none

theorem Orderly.isOpen_act (h : Orderly ws s (as ++ [a])) :
    ((s.run as).act a).channel.pending.closed = none := by
  rw [← run_concat]
  exact h.isOpen

theorem Orderly.of_concat (h : Orderly ws s (as ++ [a])) : Orderly ws s as := by
  have hbatch := h.batch
  rw [inserted_concat, List.map_append] at hbatch
  refine ⟨h.sound, h.recorded, h.calls, h.ids, h.starts,
    fun w hw q hq => h.begins w hw q (hq.concat a), hbatch.of_append_left, ?_,
    fun b hb => h.mine b (List.mem_append_left _ hb), isOpen_of_act h.isOpen_act⟩
  intro w hw r hr
  exact h.alone w hw r (by rw [inserted_concat]; exact List.mem_append_left _ hr)

/-- A response is not for an id for which one was read before. -/
theorem Orderly.answer?_eq_none (h : Orderly ws s (as ++ [a]))
    (hr : (s.run as).inserted? a = some r) : answer? r.id (s.inserted as) = none := by
  have hbatch := h.batch
  rw [inserted_concat, hr, List.map_append] at hbatch
  rw [answer?, List.find?_eq_none]
  intro r' hr' hid
  have hne := (List.nodup_append.1 hbatch).2.2 r'.id (List.mem_map_of_mem hr') r.id (by simp)
  exact hne (by simpa using hid)

/-- How a receive stands after a run, which has read the response that is due to it, or none. -/
def StandsAfter (s : Session) (as : List Action) (w : Receive) (ph : Phase) : Prop :=
  Stands (s.run as) w (w.outset s).rest (w.outset s).back
    ((w.outset s).due.or (answer? w.id (s.inserted as))) ph

/-- One more action. -/
theorem Orderly.act (h : Orderly ws s (as ++ [a])) (all : AllStand ws (s.run as)) (hw : w ∈ ws)
    (hstands : StandsAfter s as w ph) :
    ∃ ph', (ph' = .ahead → ph = .ahead) ∧
      (a ≠ w.await → (s.run as).inserted? a = none → ph' = ph) ∧
      StandsAfter s (as ++ [a]) w ph' := by
  have halone : ∀ r, (s.run as).inserted? a = some r → r.id = w.id →
      (w.outset s).due.or (answer? w.id (s.inserted as)) = none ∧ (w.outset s).back = none := by
    intro r hr hid
    have hmem : r ∈ s.inserted (as ++ [a]) := by rw [inserted_concat, hr]; simp
    obtain ⟨hdue, hback⟩ := h.alone w hw r hmem hid
    rw [hdue, ← hid, h.answer?_eq_none hr]
    exact ⟨rfl, hback⟩
  obtain ⟨ph', hahead, hsame, hstands'⟩ := Stands.act (h.sound.run as)
    (recorded_run h.recorded as) h.isOpen_act (h.mine a (by simp)) h.calls h.ids all hw
    (fun q hq => h.begins w hw q (.last hq)) hstands halone
  refine ⟨ph', hahead, hsame, ?_⟩
  rw [StandsAfter, run_concat, inserted_concat, answer?_append, ← Option.or_assoc]
  exact hstands'

/-- A receive stands as its response lets it stand, wherever the run has led it. -/
theorem stands_run (h : Orderly ws s as) : ∀ w ∈ ws,
    ∃ ph, (ph = .ahead → (w.outset s).phase = .ahead) ∧ StandsAfter s as w ph := by
  induction as using List.reverseRecOn with
  | nil =>
    intro w hw
    exact ⟨_, id, by simpa [StandsAfter, inserted, answer?] using h.starts w hw⟩
  | append_singleton as a ih =>
    intro w hw
    have hbefore := ih h.of_concat
    have all : AllStand ws (s.run as) := fun v hv => by
      obtain ⟨ph, -, hv⟩ := hbefore v hv
      exact ⟨_, _, _, ph, hv⟩
    obtain ⟨ph, hph, hstands⟩ := hbefore w hw
    obtain ⟨ph', hph', -, hstands'⟩ := h.act all hw hstands
    exact ⟨ph', fun hahead => hph (hph' hahead), hstands'⟩

theorem allStand_run (h : Orderly ws s as) : AllStand ws (s.run as) := fun w hw => by
  obtain ⟨ph, -, hstands⟩ := stands_run h w hw
  exact ⟨_, _, _, ph, hstands⟩

/-! Elsewhere in the table -/

/-- A response is read, or a receive has its step, or the table stays as it is. -/
theorem pending_act_cases (ht : t.Sound) (isOpen : (t.act a).channel.pending.closed = none)
    (mine : MovesOnly ws a) (all : AllStand ws t) :
    (∃ r, t.inserted? a = some r ∧ (t.act a).channel.pending = t.channel.pending.insert r) ∨
    t.inserted? a = none ∧ ((t.act a).channel.pending = t.channel.pending ∨
      ∃ v ∈ ws, Touches v t.channel.pending (t.act a).channel.pending) := by
  rcases Option.eq_none_or_eq_some (t.inserted? a) with hr | ⟨r, hr⟩
  · refine Or.inr ⟨hr, ?_⟩
    by_cases hadvance : ∃ p, a = .advance p
    · obtain ⟨p, rfl⟩ := hadvance
      obtain ⟨v, hv, rfl⟩ := mine.2 p rfl
      obtain ⟨rest, back, due, ph, hstands⟩ := all v hv
      exact Or.inr ⟨v, hv, hstands.touches ht⟩
    · exact Or.inl (pending_act_of_idle isOpen hr mine.1 fun p hp => hadvance ⟨p, hp⟩)
  · exact Or.inl ⟨r, hr, pending_of_inserted hr⟩

/-- The table as it is if of all these responses only the one for the id is read. -/
def reading (batch : List Response) (id : Nat) (x : Pending Party) : Pending Party :=
  (answer? id batch).elim x fun r => x.insert r

/-- An id that no receive asks for has what was there before, or what was read for it. -/
theorem cell_run_elsewhere (h : Orderly ws s as) (hid : ∀ w ∈ ws, id ≠ w.id) :
    Cell (s.run as).channel.pending id
      ((reading (s.inserted as) id s.channel.pending).arrived id)
      ((reading (s.inserted as) id s.channel.pending).waiter id) := by
  induction as using List.reverseRecOn with
  | nil => exact ⟨rfl, rfl⟩
  | append_singleton as a ih =>
    have hcell := ih h.of_concat
    have hread := inserted_concat s as a
    rcases pending_act_cases (h.sound.run as) h.isOpen_act (h.mine a (by simp))
      (allStand_run h.of_concat) with ⟨r, hr, hpending⟩ | ⟨hr, hsame | ⟨v, hv, htouches⟩⟩
    · rw [run_concat, hpending]
      by_cases hne : id = r.id
      · subst hne
        have hnone := h.answer?_eq_none hr
        rw [reading, hnone] at hcell
        have hanswer : answer? r.id (s.inserted (as ++ [a])) = some r := by
          rw [hread, answer?_append, hnone, hr]
          simp [answer?]
        rw [reading, hanswer]
        refine ⟨?_, ?_⟩
        · simp [Pending.arrived_insert, hcell.waiter, hcell.arrived]
        · simp [Pending.waiter_insert]
      · have hanswer : answer? id (s.inserted (as ++ [a])) = answer? id (s.inserted as) := by
          rw [hread, answer?_append, hr]
          simp [answer?, Ne.symm hne]
        rw [reading, hanswer]
        refine ⟨?_, ?_⟩
        · rw [Pending.arrived_insert_of_ne hne, hcell.arrived]
          rfl
        · rw [Pending.waiter_insert, put_other _ _ hne, hcell.waiter]
          rfl
    · rw [run_concat, hsame, hread, hr]
      simpa using hcell
    · rw [run_concat, hread, hr]
      refine ⟨(htouches.arrived id (hid v hv)).trans ?_, (htouches.waiter id (hid v hv)).trans ?_⟩
      · simpa using hcell.arrived
      · simpa using hcell.waiter

/-- Where a party comes to stand by itself when these responses are read. -/
def hearing (batch : List Response) : Place → Place
  | .parked id => (answer? id batch).elim (.parked id) fun r => .answered (.ok r)
  | place => place

theorem hearing_concat_of_parked {batch : List Response} {place : Place}
    (h : hearing batch place = .parked r.id) :
    hearing (batch ++ [r]) place = .answered (.ok r) := by
  cases place with
  | parked j =>
    cases hanswer : answer? j batch with
    | some found => simp [hearing, hanswer] at h
    | none =>
      have hj : j = r.id := by simpa [hearing, hanswer] using h
      subst hj
      rw [hearing, answer?_append, hanswer]
      simp [answer?]
  | _ => cases h

theorem hearing_concat_of_ne {batch : List Response} {place : Place}
    (h : hearing batch place ≠ .parked r.id) :
    hearing (batch ++ [r]) place = hearing batch place := by
  cases place with
  | parked j =>
    cases hanswer : answer? j batch with
    | some found => simp [hearing, answer?_append, hanswer]
    | none =>
      have hj : r.id ≠ j := by
        rintro rfl
        exact h (by simp [hearing, hanswer])
      rw [hearing, hearing, answer?_append, hanswer]
      simp [answer?, hj]
  | _ => rfl

/-- Who is none of the receives stands as before, but for the response that was read for it. -/
theorem place_run_elsewhere (h : Orderly ws s as) {p : Party} (hp : ∀ w ∈ ws, p ≠ w.party) :
    (s.run as).channel.pending.place p =
      hearing (s.inserted as) (s.channel.pending.place p) := by
  induction as using List.reverseRecOn with
  | nil => cases hplace : s.channel.pending.place p <;> simp [hearing, inserted, answer?, hplace]
  | append_singleton as a ih =>
    have hbefore := ih h.of_concat
    have hread := inserted_concat s as a
    rcases pending_act_cases (h.sound.run as) h.isOpen_act (h.mine a (by simp))
      (allStand_run h.of_concat) with ⟨r, hr, hpending⟩ | ⟨hr, hsame | ⟨v, hv, htouches⟩⟩
    · rw [run_concat, hpending, Pending.place_insert, hread, hr, Option.toList_some]
      by_cases hparked : (s.run as).channel.pending.place p = .parked r.id
      · rw [if_pos ((h.sound.run as).table.live hparked)]
        exact (hearing_concat_of_parked (hbefore.symm.trans hparked)).symm
      · rw [if_neg fun hl => hparked (Pending.live?_eq_some_iff.1 hl).2, hbefore]
        rw [hbefore] at hparked
        exact (hearing_concat_of_ne hparked).symm
    · rw [run_concat, hsame, hread, hr, hbefore]
      simp
    · rw [run_concat, htouches.place p (hp v hv), hread, hr, hbefore]
      simp

/-! Receives that are awaited once more -/

@[simp] theorem inserted?_await (t : Session) (v : Receive) : t.inserted? v.await = none := rfl

theorem Orderly.await (h : Orderly ws s as) (hv : v ∈ ws) : Orderly ws s (as ++ [v.await]) := by
  have hread : s.inserted (as ++ [v.await]) = s.inserted as := by
    simp [inserted_concat]
  refine ⟨h.sound, h.recorded, h.calls, h.ids, h.starts, ?_, by rw [hread]; exact h.batch,
    by rw [hread]; exact h.alone, ?_, ?_⟩
  · intro w hw q hq
    rcases happens_concat.1 hq with hq | ⟨hbegin, -⟩
    · exact h.begins w hw q hq
    · cases hbegin
  · intro b hb
    rcases List.mem_append.1 hb with hb | hb
    · exact h.mine b hb
    · cases List.mem_singleton.1 hb
      refine ⟨nofun, fun p hp => ⟨v, hv, ?_⟩⟩
      cases hp
      rfl
  · rw [run_concat, closed_act_of_closing?_eq_none rfl]
    exact h.isOpen

theorem Orderly.awaitAll (h : Orderly ws s as) (hvs : ∀ v ∈ vs, v ∈ ws) :
    Orderly ws s (as ++ vs.map Receive.await) := by
  induction vs using List.reverseRecOn with
  | nil => simpa using h
  | append_singleton vs v ih =>
    rw [List.map_append, ← List.append_assoc]
    exact (ih fun w hw => hvs w (by simp [hw])).await (hvs v (by simp))

theorem inserted_awaitAll (s : Session) (as : List Action) (vs : List Receive) :
    s.inserted (as ++ vs.map Receive.await) = s.inserted as := by
  have hnone : ∀ t : Session, t.inserted (vs.map Receive.await) = [] := by
    induction vs with
    | nil => exact fun _ => rfl
    | cons v vs ih => simp [inserted, ih]
  rw [inserted_append, hnone, List.append_nil]

/-- Whoever has been awaited once more waits, or has told its response. -/
theorem settled_run (h : Orderly ws s as) (called : ∀ w ∈ ws, w.call < (s.run as).begun)
    (vs : List Receive) (hvs : ∀ v ∈ vs, v ∈ ws) : ∀ w ∈ vs, ∃ ph, (ph = .waiting ∨ ph = .told) ∧
      StandsAfter s (as ++ vs.map Receive.await) w ph := by
  induction vs using List.reverseRecOn with
  | nil => nofun
  | append_singleton vs v ih =>
    intro w hw
    have hsub : ∀ w ∈ vs, w ∈ ws := fun w hw => hvs w (by simp [hw])
    have hv : v ∈ ws := hvs v (by simp)
    have hbefore := h.awaitAll hsub
    have hafter := hbefore.await hv
    rw [List.map_append, ← List.append_assoc]
    by_cases hwv : w = v
    · subst hwv
      obtain ⟨ph, -, hstands⟩ := stands_run hbefore w hv
      have hcalled : w.call < (s.run (as ++ vs.map Receive.await)).begun := by
        rw [run_append]
        exact Nat.lt_of_lt_of_le (called w hv) (extends_run _ _).begun
      have hsettled := Stands.await (recorded_run h.recorded _) (isOpen_of_act hafter.isOpen_act)
        hcalled hstands
      simpa [StandsAfter, inserted_append, inserted] using hsettled
    · have hmem : w ∈ vs := by simpa [hwv] using hw
      obtain ⟨ph, hph, hstands⟩ := ih hsub w hmem
      have hne : v.await ≠ w.await := fun he => by
        have hcall : v.call = w.call := by simpa [Receive.await, Receive.party] using he
        exact hwv (List.inj_on_of_nodup_map h.calls (hsub w hmem) hv hcall.symm)
      obtain ⟨ph', -, hsame, hstands'⟩ :=
        hafter.act (allStand_run hbefore) (hsub w hmem) hstands
      exact ⟨ph', by rwa [hsame hne rfl], hstands'⟩

end RemoteInterpreter.Session
