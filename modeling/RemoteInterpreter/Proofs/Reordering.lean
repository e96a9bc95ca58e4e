import RemoteInterpreter.Proofs.Batch
import RemoteInterpreter.Proofs.Commuting

/-!
# Answers in any order

It makes no difference in which order responses are read, nor whether they are read before or
after they are asked for: every receive has the same result in the end, and the table is the same.
This takes a table in which nothing was left behind for these ids. A receive that was given up
swallows a response that comes before somebody else asks, and a response that lies there already is
replaced by one that comes before it is asked for.
-/

namespace RemoteInterpreter.Session

variable {s : Session} {as bs pre : List Action} {r : Response} {n id : Nat}
variable {w : Receive} {ws parked future : List Receive} {batch : List Response}
variable {number : Nat} {stem : Text} {debug : Bool}

/-! The receives of a run -/

/-- Parked receives and receives that come, and a run that reads a batch of responses for them
before any close. No id has two receives or two responses in the batch. -/
structure Delivers (parked future : List Receive) (s : Session) (as : List Action) : Prop where
  calls : ((parked ++ future).map Receive.call).Nodup
  ids : ((parked ++ future).map Receive.id).Nodup
  parks : ∀ w ∈ parked, w.Parked s
  comes : ∀ w ∈ future, w.Unasked s ∨ Happens (Begins w.call (.receive w.id)) s as
  free : ∀ w ∈ future, s.channel.pending.live? w.id = none
  batch : ((s.inserted as).map fun r => r.id).Nodup
  mine : ∀ a ∈ as, MovesOnly (parked ++ future) a
  isOpen : (s.run as).channel.pending.closed = none

/-- Besides, for no receive to come and its response has another one arrived before, or was a
receive given up. -/
structure Serves (parked future : List Receive) (s : Session) (as : List Action) : Prop
    extends Delivers parked future s as where
  alone : ∀ w ∈ future, ∀ r ∈ s.inserted as, r.id = w.id →
    s.channel.pending.arrived w.id = none ∧ s.channel.pending.waiter w.id = none

/-- A call is begun by one request. -/
theorem eq_of_begins {q q' : Request} (h : Happens (Begins n q) s as)
    (h' : Happens (Begins n q') s as) : q = q' := by
  induction as using List.reverseRecOn with
  | nil => exact absurd h not_happens_nil
  | append_singleton as a ih =>
    rcases happens_concat.1 h with h | ⟨rfl, hn⟩
    · rcases happens_concat.1 h' with h' | ⟨-, hn⟩
      · exact ih h h'
      · exact absurd hn (Nat.ne_of_gt (lt_begun_of_begins h))
    · rcases happens_concat.1 h' with h' | ⟨hq, -⟩
      · exact absurd hn (Nat.ne_of_gt (lt_begun_of_begins h'))
      · cases hq
        rfl

theorem begun_le_of_begins {q : Request} (h : Happens (Begins n q) s as) : s.begun ≤ n := by
  obtain ⟨before, a, after, -, -, hn⟩ := h
  rw [← hn]
  exact (extends_run s before).begun

theorem outset_of_parked (h : w.Parked s) :
    w.outset s = ⟨none, s.channel.pending.arrived w.id, none, .waiting⟩ := by
  rw [Receive.outset, h.1]

theorem outset_of_away (h : s.channel.pending.place w.party = .away) :
    w.outset s = ⟨s.channel.pending.arrived w.id, none, s.channel.pending.waiter w.id, .ahead⟩ := by
  rw [Receive.outset, h]

theorem Serves.away (hs : s.Sound) (h : Serves parked future s as) (hw : w ∈ future) :
    s.channel.pending.place w.party = .away := by
  rcases h.comes w hw with hcall | hbegins
  · exact hs.callAway hcall nofun
  · exact hs.away (by simp [Receive.party, hs.calls _ (begun_le_of_begins hbegins)])

theorem Serves.orderly (hs : s.Sound) (hrec : ∀ {n k}, s.calls n = some k → k.Recorded)
    (h : Serves parked future s as) : Orderly (parked ++ future) s as := by
  refine ⟨hs, hrec, h.calls, h.ids, ?_, ?_, h.batch, ?_, h.mine, h.isOpen⟩
  · intro w hw
    rcases List.mem_append.1 hw with hw | hw
    · obtain ⟨hplace, k, hk, hgoal⟩ := h.parks w hw
      obtain ⟨e, he, hstage⟩ := hs.parked_of_live (hs.table.live hplace)
      rw [Receive.party, errand?_call, hk] at he
      cases he
      rw [outset_of_parked (h.parks w hw)]
      exact .waiting hk hgoal hstage hplace ⟨rfl, hs.table.waits hplace⟩
    · rw [outset_of_away (h.away hs hw)]
      refine .ahead ?_ (h.free w hw) ⟨rfl, rfl⟩ rfl
      exact (h.comes w hw).symm.imp_left begun_le_of_begins
  · intro w hw q hq
    have uncalled : ∀ {k}, s.calls w.call ≠ some k := fun hk =>
      absurd (hs.lt_begun hk) (Nat.not_lt.2 (begun_le_of_begins hq))
    rcases List.mem_append.1 hw with hw | hw
    · obtain ⟨-, k, hk, -⟩ := h.parks w hw
      exact absurd hk uncalled
    · rcases h.comes w hw with hcall | hbegins
      · exact absurd hcall uncalled
      · exact eq_of_begins hq hbegins
  · intro w hw r hr hid
    rcases List.mem_append.1 hw with hw | hw
    · rw [outset_of_parked (h.parks w hw)]
      exact ⟨rfl, rfl⟩
    · rw [outset_of_away (h.away hs hw)]
      exact h.alone w hw r hr hid

theorem Serves.called (hs : s.Sound) (h : Serves parked future s as) :
    ∀ w ∈ parked ++ future, w.call < (s.run as).begun := by
  have called : ∀ {n k}, s.calls n = some k → n < (s.run as).begun := fun hk =>
    Nat.lt_of_lt_of_le (hs.lt_begun hk) (extends_run s as).begun
  intro w hw
  rcases List.mem_append.1 hw with hw | hw
  · obtain ⟨-, k, hk, -⟩ := h.parks w hw
    exact called hk
  · rcases h.comes w hw with hcall | hbegins
    · exact called hcall
    · exact lt_begun_of_begins hbegins

/-! Two runs -/

variable {w' : Receive} {ws' future' : List Receive}

/-- A receive stands at the start as the one for its id does in the other run. -/
theorem Serves.outset_eq (hs : s.Sound) (ha : Serves parked future s as)
    (hb : Serves parked future' s bs) (hw : w ∈ parked ++ future) (hw' : w' ∈ parked ++ future')
    (hid : w.id = w'.id) : w.outset s = w'.outset s := by
  rcases List.mem_append.1 hw with hpark | hcome
  · rw [List.inj_on_of_nodup_map hb.ids (List.mem_append_left _ hpark) hw' hid]
  · rcases List.mem_append.1 hw' with hpark' | hcome'
    · rw [List.inj_on_of_nodup_map ha.ids hw (List.mem_append_left _ hpark') hid]
    · rw [outset_of_away (ha.away hs hcome), outset_of_away (hb.away hs hcome'), hid]

theorem exists_same_id (hids : (future.map Receive.id).Perm (future'.map Receive.id))
    (hw : w ∈ parked ++ future) : ∃ w' ∈ parked ++ future', w.id = w'.id := by
  rcases List.mem_append.1 hw with hpark | hcome
  · exact ⟨w, List.mem_append_left _ hpark, rfl⟩
  · obtain ⟨w', hw', hid⟩ := List.mem_map.1 (hids.subset (List.mem_map_of_mem hcome))
    exact ⟨w', List.mem_append_right _ hw', hid.symm⟩

/-- The tables agree, but for the numbers of the calls by which these receives wait. -/
structure Alike (ws ws' : List Receive) (x y : Pending Party) : Prop where
  arrived : x.arrived = y.arrived
  waiter : ∀ id, x.waiter id = y.waiter id ∨ ∃ w ∈ ws, ∃ w' ∈ ws', w.id = id ∧ w'.id = id ∧
    x.waiter id = some w.party ∧ y.waiter id = some w'.party
  place : ∀ p, (∀ w ∈ ws, p ≠ w.party) → (∀ w' ∈ ws', p ≠ w'.party) → x.place p = y.place p
  closed : x.closed = y.closed

/-- If the calls have the same numbers and stand at the same places, the tables are the same. -/
theorem Alike.eq {x y : Pending Party} (h : Alike ws ws x y) (ids : (ws.map Receive.id).Nodup)
    (places : ∀ w ∈ ws, x.place w.party = y.place w.party) : x = y := by
  refine Pending.eq_of_parts h.arrived (funext fun id => ?_) (funext fun p => ?_) h.closed
  · rcases h.waiter id with hsame | ⟨w, hw, w', hw', rfl, hid, hx, hy⟩
    · exact hsame
    · rw [hx, hy, List.inj_on_of_nodup_map ids hw' hw hid]
  · by_cases hp : ∃ w ∈ ws, p = w.party
    · obtain ⟨w, hw, rfl⟩ := hp
      exact places w hw
    · have elsewhere : ∀ w ∈ ws, p ≠ w.party := fun w hw he => hp ⟨w, hw, he⟩
      exact h.place p elsewhere elsewhere

/-- The same responses were read in two runs, in which the same ids are received. -/
structure Paired (ws ws' : List Receive) (s : Session) (as bs : List Action) : Prop where
  left : Orderly ws s as
  right : Orderly ws' s bs
  perm : (s.inserted as).Perm (s.inserted bs)
  forth : ∀ w ∈ ws, ∃ w' ∈ ws', w.id = w'.id
  back : ∀ w' ∈ ws', ∃ w ∈ ws, w.id = w'.id
  outset : ∀ w ∈ ws, ∀ w' ∈ ws', w.id = w'.id → w.outset s = w'.outset s

theorem Serves.paired (hs : s.Sound) (hrec : ∀ {n k}, s.calls n = some k → k.Recorded)
    (ha : Serves parked future s as) (hb : Serves parked future' s bs)
    (hids : (future.map Receive.id).Perm (future'.map Receive.id))
    (hperm : (s.inserted as).Perm (s.inserted bs)) :
    Paired (parked ++ future) (parked ++ future') s as bs := by
  refine ⟨ha.orderly hs hrec, hb.orderly hs hrec, hperm, fun w hw => exists_same_id hids hw, ?_,
    fun w hw w' hw' hid => ha.outset_eq hs hb hw hw' hid⟩
  intro w' hw'
  obtain ⟨w, hw, hid⟩ := exists_same_id hids.symm hw'
  exact ⟨w, hw, hid.symm⟩

theorem Paired.answer? (h : Paired ws ws' s as bs) (id : Nat) :
    answer? id (s.inserted as) = answer? id (s.inserted bs) :=
  answer?_of_perm h.left.batch h.perm id

theorem hearing_of_perm {batch' : List Response} (h : (batch.map fun r => r.id).Nodup)
    (hperm : batch.Perm batch') : hearing batch = hearing batch' := by
  funext place
  cases place with
  | parked id => rw [hearing, hearing, answer?_of_perm h hperm]
  | _ => rfl

/-- After two runs in which the same receives have asked, the same lies in the table. -/
theorem Paired.alike (h : Paired ws ws' s as bs)
    (same : ∀ w ∈ ws, ∀ w' ∈ ws', w.id = w'.id → ∃ ph ph', (ph = .ahead ↔ ph' = .ahead) ∧
      StandsAfter s as w ph ∧ StandsAfter s bs w' ph') :
    Alike ws ws' (s.run as).channel.pending (s.run bs).channel.pending := by
  have cells : ∀ id,
      (s.run as).channel.pending.arrived id = (s.run bs).channel.pending.arrived id ∧
      ((s.run as).channel.pending.waiter id = (s.run bs).channel.pending.waiter id ∨
        ∃ w ∈ ws, ∃ w' ∈ ws', w.id = id ∧ w'.id = id ∧
          (s.run as).channel.pending.waiter id = some w.party ∧
          (s.run bs).channel.pending.waiter id = some w'.party) := by
    intro id
    by_cases hid : ∃ w ∈ ws, id = w.id
    · obtain ⟨w, hw, rfl⟩ := hid
      obtain ⟨w', hw', hid⟩ := h.forth w hw
      obtain ⟨ph, ph', hahead, hstands, hstands'⟩ := same w hw w' hw' hid
      have hcell := Stands.cell hstands
      have hcell' := Stands.cell hstands'
      rw [← h.outset w hw w' hw' hid, ← hid, ← h.answer? w.id, ← if_congr hahead rfl rfl,
        ← if_congr (and_congr_left' (not_congr hahead)) rfl rfl] at hcell'
      refine ⟨hcell.arrived.trans hcell'.arrived.symm, ?_⟩
      rw [hcell.waiter, hcell'.waiter]
      split
      · exact Or.inr ⟨w, hw, w', hw', rfl, hid.symm, rfl, rfl⟩
      · exact Or.inl rfl
    · have hne : ∀ w ∈ ws, id ≠ w.id := fun w hw he => hid ⟨w, hw, he⟩
      have hne' : ∀ w' ∈ ws', id ≠ w'.id := fun w' hw' he => by
        obtain ⟨w, hw, hid⟩ := h.back w' hw'
        exact hne w hw (he.trans hid.symm)
      have hcell := cell_run_elsewhere h.left hne
      have hcell' := cell_run_elsewhere h.right hne'
      rw [reading, h.answer? id] at hcell
      exact ⟨hcell.arrived.trans hcell'.arrived.symm,
        Or.inl (hcell.waiter.trans hcell'.waiter.symm)⟩
  refine ⟨funext fun id => (cells id).1, fun id => (cells id).2, fun p hp hp' => ?_,
    h.left.isOpen.trans h.right.isOpen.symm⟩
  rw [place_run_elsewhere h.left hp, place_run_elsewhere h.right hp',
    hearing_of_perm h.left.batch h.perm]

/-- A run after which each of these receives is awaited once more. -/
def awaitAll (ws : List Receive) (as : List Action) : List Action := as ++ ws.map Receive.await

theorem Paired.awaitAll (h : Paired ws ws' s as bs) :
    Paired ws ws' s (awaitAll ws as) (awaitAll ws' bs) := by
  refine ⟨h.left.awaitAll fun _ => id, h.right.awaitAll fun _ => id, ?_, h.forth, h.back, h.outset⟩
  rw [Session.awaitAll, Session.awaitAll, inserted_awaitAll, inserted_awaitAll]
  exact h.perm

/-- When all have been awaited once more, it does not show who had been awaited before. -/
theorem Paired.alike_awaitAll (h : Paired ws ws' s as bs)
    (called : ∀ w ∈ ws, w.call < (s.run as).begun)
    (called' : ∀ w' ∈ ws', w'.call < (s.run bs).begun) :
    Alike ws ws' (s.run (Session.awaitAll ws as)).channel.pending
      (s.run (Session.awaitAll ws' bs)).channel.pending ∧
    ∀ w ∈ ws, ∀ w' ∈ ws', w.id = w'.id →
      (s.run (Session.awaitAll ws as)).channel.pending.place w.party =
        (s.run (Session.awaitAll ws' bs)).channel.pending.place w'.party := by
  have hafter := h.awaitAll
  have settled := settled_run h.left called ws fun _ => id
  have settled' := settled_run h.right called' ws' fun _ => id
  refine ⟨hafter.alike fun w hw w' hw' _ => ?_, fun w hw w' hw' hid => ?_⟩
  · obtain ⟨ph, hph, hstands⟩ := settled w hw
    obtain ⟨ph', hph', hstands'⟩ := settled' w' hw'
    refine ⟨ph, ph', ?_, hstands, hstands'⟩
    rcases hph with rfl | rfl <;> rcases hph' with rfl | rfl <;> simp
  · obtain ⟨ph, hph, hstands⟩ := settled w hw
    obtain ⟨ph', hph', hstands'⟩ := settled' w' hw'
    have hplace := Stands.place (h.left.sound.run _) hstands hph
    have hplace' := Stands.place (h.left.sound.run _) hstands' hph'
    rw [← h.outset w hw w' hw' hid, ← hid] at hplace'
    have hanswer := hafter.answer? w.id
    rw [Session.awaitAll, Session.awaitAll] at hanswer ⊢
    rw [hplace, hplace', hanswer]

/-- Whoever is awaited once more tells the response that is due. -/
theorem result?_await (h : Orderly ws s as) (called : ∀ w ∈ ws, w.call < (s.run as).begun)
    (hw : w ∈ ws) : (s.run (as ++ [w.await])).result? w.call =
      ((w.outset s).due.or (answer? w.id (s.inserted as))).map fun r => .ok (.response r) := by
  obtain ⟨ph, hph, hstands⟩ :=
    settled_run h called [w] (by simpa using hw) w (List.mem_singleton_self w)
  rw [StandsAfter, inserted_awaitAll] at hstands
  exact hstands.result? (recorded_run h.recorded _) hph

/-- Answers may come in any order, before or after they are asked for. If the same responses are
read in two runs, each in its own order and among the steps of the receives for the same ids, every
receive that is awaited once more has the same result, which is the response for its id; the
same lies in the table whenever the same receives have asked, and also all places are the same
when all have been awaited once more. A call does nothing before it is awaited, and its number only
shows in who waits for an id: with the same numbers the tables are equal then. In any table a
response and a claim, two responses, and two claims commute if their ids differ. -/
theorem answers_come_in_any_order (κ : Type) [DecidableEq κ]
    (hopen : opened number stem debug = .ok s) (ha : Serves parked future (s.run pre) as)
    (hb : Serves parked future' (s.run pre) bs)
    (hids : (future.map Receive.id).Perm (future'.map Receive.id))
    (hperm : ((s.run pre).inserted as).Perm ((s.run pre).inserted bs)) :
    (∀ w ∈ parked ++ future, ∀ w' ∈ parked ++ future', w.id = w'.id →
      (s.run (pre ++ as ++ [w.await])).result? w.call =
        (s.run (pre ++ bs ++ [w'.await])).result? w'.call ∧
      ∀ r ∈ (s.run pre).inserted as, r.id = w.id →
        (s.run (pre ++ as ++ [w.await])).result? w.call = some (.ok (.response r))) ∧
    ((∀ w ∈ future, ∀ w' ∈ future', w.id = w'.id →
        (w.Unasked (s.run (pre ++ as)) ↔ w'.Unasked (s.run (pre ++ bs)))) →
      Alike (parked ++ future) (parked ++ future') (s.run (pre ++ as)).channel.pending
        (s.run (pre ++ bs)).channel.pending) ∧
    (Alike (parked ++ future) (parked ++ future')
        (s.run (pre ++ awaitAll (parked ++ future) as)).channel.pending
        (s.run (pre ++ awaitAll (parked ++ future') bs)).channel.pending ∧
      ∀ w ∈ parked ++ future, ∀ w' ∈ parked ++ future', w.id = w'.id →
        (s.run (pre ++ awaitAll (parked ++ future) as)).channel.pending.place w.party =
          (s.run (pre ++ awaitAll (parked ++ future') bs)).channel.pending.place w'.party) ∧
    (future = future' → (s.run (pre ++ awaitAll (parked ++ future) as)).channel.pending =
      (s.run (pre ++ awaitAll (parked ++ future') bs)).channel.pending) ∧
    (∀ (x : Pending κ) r k id, r.id ≠ id →
      (x.insert r).claim k id = ((x.claim k id).1.insert r, (x.claim k id).2)) ∧
    (∀ (x : Pending κ) r r', r.id ≠ r'.id → (x.insert r).insert r' = (x.insert r').insert r) ∧
    ∀ (x : Pending κ) k k' id id', k ≠ k' → id ≠ id' → x.place k ≠ .parked id' →
      x.place k' ≠ .parked id →
      (x.claim k id).1.claim k' id' = (((x.claim k' id').1.claim k id).1, (x.claim k' id').2) ∧
      ((x.claim k' id').1.claim k id).2 = (x.claim k id).2 := by
  have hs := (sound_opened hopen).run pre
  have hrec : ∀ {n k}, (s.run pre).calls n = some k → k.Recorded := recorded_opened hopen pre
  have h := ha.paired hs hrec hb hids hperm
  have hall := h.alike_awaitAll (ha.called hs) (hb.called hs)
  rw [← run_append, ← run_append] at hall
  refine ⟨?_, ?_, hall, ?_, fun x r k id hid => Pending.claim_insert (Ne.symm hid) k x,
    fun x r r' hid => Pending.insert_comm hid x,
    fun x k k' id id' hk hid hp hp' => Pending.claim_comm hk hid hp hp'⟩
  · intro w hw w' hw' hid
    have hresult := result?_await h.left (ha.called hs) hw
    have hresult' := result?_await h.right (hb.called hs) hw'
    rw [← run_append, ← List.append_assoc] at hresult hresult'
    rw [← h.outset w hw w' hw' hid, ← hid, ← h.answer? w.id] at hresult'
    rw [hresult, hresult']
    refine ⟨rfl, fun r hr hrid => ?_⟩
    rw [(h.left.alone w hw r hr hrid).1, (answer?_eq_some_iff h.left.batch).2 ⟨hr, hrid⟩]
    rfl
  · intro hsame
    rw [run_append, run_append] at hsame ⊢
    refine h.alike fun w hw w' hw' hid => ?_
    obtain ⟨ph, hstart, hstands⟩ := stands_run h.left w hw
    obtain ⟨ph', hstart', hstands'⟩ := stands_run h.right w' hw'
    refine ⟨ph, ph', ?_, hstands, hstands'⟩
    rw [← h.outset w hw w' hw' hid] at hstart'
    have hahead := Stands.ahead_iff (ha.called hs w hw) hstands
    have hahead' := Stands.ahead_iff (hb.called hs w' hw') hstands'
    have parked : (w.outset (s.run pre)).phase = .waiting → (ph = .ahead ↔ ph' = .ahead) := by
      intro hwaits
      rw [hwaits] at hstart hstart'
      exact iff_of_false (fun h => nomatch hstart h) (fun h => nomatch hstart' h)
    rcases List.mem_append.1 hw with hpark | hcome
    · exact parked (by rw [outset_of_parked (ha.parks w hpark)])
    · rcases List.mem_append.1 hw' with hpark' | hcome'
      · refine parked ?_
        rw [h.outset w hw w' hw' hid, outset_of_parked (hb.parks w' hpark')]
      · exact hahead.trans ((hsame w hcome w' hcome' hid).trans hahead'.symm)
  · rintro rfl
    exact hall.1.eq h.left.ids fun w hw => hall.2 w hw w hw rfl

/-- A receive is parked. -/
def parkedReceive : List Action := [.begin (.receive 5), .advance (.call 0)]

/-- Both answers come before the second receive. -/
def answersFirst : List Action :=
  [.feed [55, 61, 80, 65, 83, 83, 61, 49, 10, 53, 61, 80, 65, 83, 83, 61, 50, 10], .read, .read,
    .begin (.receive 7), .advance (.call 1)]

/-- The second receive is parked as well, and the answers come the other way round. -/
def receivesFirst : List Action :=
  [.begin (.receive 7), .advance (.call 1),
    .feed [53, 61, 80, 65, 83, 83, 61, 50, 10, 55, 61, 80, 65, 83, 83, 61, 49, 10], .read, .read]

theorem serves_two
    (begins : Happens (Begins 1 (.receive 7)) (newSession.run parkedReceive) as)
    (batch : (((newSession.run parkedReceive).inserted as).map fun r => r.id).Nodup)
    (mine : ∀ a ∈ as, MovesOnly [⟨0, 5⟩, ⟨1, 7⟩] a)
    (isOpen : ((newSession.run parkedReceive).run as).channel.pending.closed = none) :
    Serves [⟨0, 5⟩] [⟨1, 7⟩] (newSession.run parkedReceive) as := by
  refine ⟨⟨by decide, by decide, ?_, ?_, ?_, batch, mine, isOpen⟩, ?_⟩
  · rintro w hw
    cases List.mem_singleton.1 hw
    exact ⟨rfl, _, rfl, rfl⟩
  · rintro w hw
    cases List.mem_singleton.1 hw
    exact Or.inr begins
  · rintro w hw
    cases List.mem_singleton.1 hw
    rfl
  · rintro w hw r - -
    cases List.mem_singleton.1 hw
    exact ⟨rfl, rfl⟩

theorem answers_come_in_any_order_swapped :
    opened 0 ['v'] false = .ok newSession ∧
    Serves [⟨0, 5⟩] [⟨1, 7⟩] (newSession.run parkedReceive) answersFirst ∧
    Serves [⟨0, 5⟩] [⟨1, 7⟩] (newSession.run parkedReceive) receivesFirst ∧
    ((newSession.run parkedReceive).inserted answersFirst).Perm
      ((newSession.run parkedReceive).inserted receivesFirst) ∧
    (newSession.run (parkedReceive ++ answersFirst ++ [.advance (.call 1)])).result? 1 =
      some (.ok (.response ⟨7, .pass, ['1']⟩)) ∧
    (newSession.run (parkedReceive ++ receivesFirst ++ [.advance (.call 1)])).result? 1 =
      some (.ok (.response ⟨7, .pass, ['1']⟩)) := by
  have hfirst : (newSession.run parkedReceive).inserted answersFirst =
      [⟨7, .pass, ['1']⟩, ⟨5, .pass, ['2']⟩] := by decide +kernel
  have hsecond : (newSession.run parkedReceive).inserted receivesFirst =
      [⟨5, .pass, ['2']⟩, ⟨7, .pass, ['1']⟩] := by decide +kernel
  have ha : Serves [⟨0, 5⟩] [⟨1, 7⟩] (newSession.run parkedReceive) answersFirst :=
    serves_two ⟨answersFirst.take 3, _, _, rfl, rfl, rfl⟩ (by rw [hfirst]; decide)
      (by simp [answersFirst, MovesOnly, Receive.party]) rfl
  have hb : Serves [⟨0, 5⟩] [⟨1, 7⟩] (newSession.run parkedReceive) receivesFirst :=
    serves_two ⟨[], _, _, rfl, rfl, rfl⟩ (by rw [hsecond]; decide)
      (by simp [receivesFirst, MovesOnly, Receive.party]) rfl
  have hperm : ((newSession.run parkedReceive).inserted answersFirst).Perm
      ((newSession.run parkedReceive).inserted receivesFirst) := by
    rw [hfirst, hsecond]
    exact .swap _ _ _
  obtain ⟨hresults, -⟩ :=
    answers_come_in_any_order Nat opened_newSession ha hb (.refl _) hperm
  obtain ⟨hsame, hresult⟩ := hresults ⟨1, 7⟩ (by simp) ⟨1, 7⟩ (by simp) rfl
  have hanswer := hresult ⟨7, .pass, ['1']⟩ (by rw [hfirst]; simp) rfl
  exact ⟨opened_newSession, ha, hb, hperm, hanswer, hsame.symm.trans hanswer⟩

/-! What was left behind -/

/-- A receive is given up. -/
def givenUp : List Action := [.begin (.receive 5), .advance (.call 0), .drop 0]

/-- A response comes that nobody has asked for. -/
def unasked : List Action := [.feed [53, 61, 80, 65, 83, 83, 61, 50, 10], .read]

/-- The response for the id is read, and then asked for. -/
def readFirst (w : Receive) : List Action :=
  [.feed [53, 61, 80, 65, 83, 83, 61, 49, 10], .read, .begin (.receive w.id), w.await]

/-- It is asked for first. -/
def askedFirst (w : Receive) : List Action :=
  [.begin (.receive w.id), w.await, .feed [53, 61, 80, 65, 83, 83, 61, 49, 10], .read]

theorem delivers_one {w : Receive} (free : s.channel.pending.live? w.id = none)
    (begins : Happens (Begins w.call (.receive w.id)) s as)
    (batch : s.inserted as = [⟨5, .pass, ['1']⟩]) (mine : ∀ a ∈ as, MovesOnly [w] a)
    (isOpen : (s.run as).channel.pending.closed = none) : Delivers [] [w] s as := by
  refine ⟨by simp, by simp, nofun, ?_, ?_, by simp [batch], mine, isOpen⟩
  · rintro v hv
    cases List.mem_singleton.1 hv
    exact Or.inr begins
  · rintro v hv
    cases List.mem_singleton.1 hv
    exact free

/-- The table and the response that is read are the same, only the order is not. Where a receive was
given up before, the response is lost if it is read first, and told if it is asked for first. Where
another response had arrived before, the receive tells the one or the other. -/
theorem order_shows_what_was_left :
    opened 0 ['v'] false = .ok newSession ∧
    (Delivers [] [⟨1, 5⟩] (newSession.run givenUp) (readFirst ⟨1, 5⟩) ∧
      Delivers [] [⟨1, 5⟩] (newSession.run givenUp) (askedFirst ⟨1, 5⟩) ∧
      (newSession.run givenUp).inserted (readFirst ⟨1, 5⟩) = [⟨5, .pass, ['1']⟩] ∧
      (newSession.run givenUp).inserted (askedFirst ⟨1, 5⟩) = [⟨5, .pass, ['1']⟩] ∧
      (newSession.run (givenUp ++ readFirst ⟨1, 5⟩ ++ [.advance (.call 1)])).result? 1 = none ∧
      (newSession.run (givenUp ++ askedFirst ⟨1, 5⟩ ++ [.advance (.call 1)])).result? 1 =
        some (.ok (.response ⟨5, .pass, ['1']⟩)) ∧
      ∀ p, (((newSession.run givenUp).channel.pending.insert ⟨5, .pass, ['1']⟩).claim p 5).2 =
          .parked ∧
        (((newSession.run givenUp).channel.pending.claim p 5).1.insert
          ⟨5, .pass, ['1']⟩).place p = .answered (.ok ⟨5, .pass, ['1']⟩)) ∧
    Delivers [] [⟨0, 5⟩] (newSession.run unasked) (readFirst ⟨0, 5⟩) ∧
      Delivers [] [⟨0, 5⟩] (newSession.run unasked) (askedFirst ⟨0, 5⟩) ∧
      (newSession.run unasked).inserted (readFirst ⟨0, 5⟩) = [⟨5, .pass, ['1']⟩] ∧
      (newSession.run unasked).inserted (askedFirst ⟨0, 5⟩) = [⟨5, .pass, ['1']⟩] ∧
      (newSession.run (unasked ++ readFirst ⟨0, 5⟩ ++ [.advance (.call 0)])).result? 0 =
        some (.ok (.response ⟨5, .pass, ['1']⟩)) ∧
      (newSession.run (unasked ++ askedFirst ⟨0, 5⟩ ++ [.advance (.call 0)])).result? 0 =
        some (.ok (.response ⟨5, .pass, ['2']⟩)) ∧
      ∀ p, (((newSession.run unasked).channel.pending.insert ⟨5, .pass, ['1']⟩).claim p 5).2 =
          .ready ⟨5, .pass, ['1']⟩ ∧
        ((newSession.run unasked).channel.pending.claim p 5).2 = .ready ⟨5, .pass, ['2']⟩ := by
  have mine : ∀ w : Receive, (∀ a ∈ readFirst w, MovesOnly [w] a) ∧
      ∀ a ∈ askedFirst w, MovesOnly [w] a := fun w => by
    simp [readFirst, askedFirst, MovesOnly, Receive.await]
  have hlost : (newSession.run givenUp).inserted (readFirst ⟨1, 5⟩) = [⟨5, .pass, ['1']⟩] := by
    decide +kernel
  have hheard : (newSession.run givenUp).inserted (askedFirst ⟨1, 5⟩) = [⟨5, .pass, ['1']⟩] := by
    decide +kernel
  have hnew : (newSession.run unasked).inserted (readFirst ⟨0, 5⟩) = [⟨5, .pass, ['1']⟩] := by
    decide +kernel
  have hlate : (newSession.run unasked).inserted (askedFirst ⟨0, 5⟩) = [⟨5, .pass, ['1']⟩] := by
    decide +kernel
  have harrived : (newSession.run unasked).channel.pending.arrived 5 = some ⟨5, .pass, ['2']⟩ := by
    decide +kernel
  refine ⟨opened_newSession, ⟨?_, ?_, hlost, hheard, rfl, rfl, ?_⟩, ?_, ?_, hnew, hlate, rfl, rfl,
    ?_⟩
  · exact delivers_one rfl ⟨(readFirst ⟨1, 5⟩).take 2, _, _, rfl, rfl, rfl⟩ hlost (mine _).1 rfl
  · exact delivers_one rfl ⟨[], _, _, rfl, rfl, rfl⟩ hheard (mine _).2 rfl
  · exact Pending.swallowed_unless_claimed (r := ⟨5, .pass, ['1']⟩) rfl rfl rfl rfl
  · exact delivers_one rfl ⟨(readFirst ⟨0, 5⟩).take 2, _, _, rfl, rfl, rfl⟩ hnew (mine _).1 rfl
  · exact delivers_one rfl ⟨[], _, _, rfl, rfl, rfl⟩ hlate (mine _).2 rfl
  · exact Pending.replaced_unless_claimed (r := ⟨5, .pass, ['1']⟩) harrived rfl

end RemoteInterpreter.Session
