import Mathlib.Data.List.Nodup
import RemoteInterpreter.Proofs.Arrival

/-!
# How a receive stands

A call that receives the response for an id is not yet awaited, or it waits, or it has been given
its response, or it has told it. Where it is among these, and what lies in the table for its id, is
settled by what was read for this id, whatever the other receives do.
-/

namespace RemoteInterpreter.Session

variable {s t t' : Session} {a : Action} {as bs : List Action} {r : Response} {n id : Nat}

/-- A call that receives the response for an id. -/
structure Receive where
  call : Nat
  id : Nat
  deriving DecidableEq, Repr

namespace Receive

def party (w : Receive) : Party := .call w.call

/-- Somebody awaits the receive: it asks for its response, or looks whether it was given to it. -/
def await (w : Receive) : Action := .advance w.party

/-- The receive is parked for its id. -/
def Parked (w : Receive) (s : Session) : Prop :=
  s.channel.pending.place w.party = .parked w.id ∧ ∃ k, s.calls w.call = some k ∧ k.goal = .response

/-- The receive was called, and has not been awaited yet. -/
def Unasked (w : Receive) (s : Session) : Prop :=
  s.calls w.call = some (Call.awaiting .response w.id)

end Receive

/-! Standings -/

inductive Phase where
  | ahead
  | waiting
  | given
  | told
  deriving DecidableEq, Repr

/-- What lies in the table for an id. -/
structure Cell (t : Pending Party) (id : Nat) (arrived : Option Response) (waiter : Option Party) :
    Prop where
  arrived : t.arrived id = arrived
  waiter : t.waiter id = waiter

/-- How a receive stands to which this response is due. Apart from it `rest` is what has arrived
for the id, and `back` who waits for it. -/
inductive Stands (t : Session) (w : Receive) (rest : Option Response) (back : Option Party) :
    Option Response → Phase → Prop
  | ahead {due} (call : t.begun ≤ w.call ∨ w.Unasked t) (free : t.channel.pending.live? w.id = none)
      (cell : Cell t.channel.pending w.id due back) (alone : rest = none) :
    Stands t w rest back due .ahead
  | waiting {k} (call : t.calls w.call = some k) (goal : k.goal = .response)
      (stage : k.errand.stage = .parked w.id)
      (place : t.channel.pending.place w.party = .parked w.id)
      (cell : Cell t.channel.pending w.id rest (some w.party)) : Stands t w rest back none .waiting
  | given {k r} (call : t.calls w.call = some k) (goal : k.goal = .response)
      (stage : k.errand.stage = .parked w.id)
      (place : t.channel.pending.place w.party = .answered (.ok r))
      (cell : Cell t.channel.pending w.id rest back) : Stands t w rest back (some r) .given
  | told {k r} (call : t.calls w.call = some k) (result : k.result = some (.ok (.response r)))
      (stage : k.errand.stage = .answered r)
      (cell : Cell t.channel.pending w.id rest back) : Stands t w rest back (some r) .told

variable {v w : Receive} {rest due : Option Response} {back : Option Party} {ph : Phase}

/-- Whoever waits is parked for the id, and for no other. -/
theorem Stands.not_parked (ht : t.Sound) (h : Stands t w rest back due ph) (hid : id ≠ w.id) :
    t.channel.pending.place w.party ≠ .parked id := by
  have away : t.channel.pending.place w.party = .away →
      t.channel.pending.place w.party ≠ .parked id := fun h => by simp [h]
  cases h with
  | ahead call =>
    rcases call with hn | hcall
    · exact away (ht.away (by simp [Receive.party, ht.calls _ hn]))
    · exact away (ht.callAway hcall nofun)
  | waiting _ _ _ place => simp [place, Ne.symm hid]
  | given _ _ _ place => simp [place]
  | told call _ stage => exact away (ht.callAway call (by simp [stage]))

/-- What the receive has told is the response that is due. -/
theorem Stands.result? (h : Stands t w rest back due ph)
    (ht : ∀ {n k}, t.calls n = some k → k.Recorded)
    (hph : ph = .waiting ∨ ph = .told) :
    t.result? w.call = due.map fun r => .ok (.response r) := by
  cases h with
  | ahead => simp at hph
  | given => simp at hph
  | waiting call _ stage =>
    have hlive := (ht call).live_of_waiting (by rw [stage]; rfl) (by simp [stage])
    simp [Session.result?, call, hlive]
  | told call result => simp [Session.result?, call, result]

/-- What lies in the table for the id of a receive. -/
theorem Stands.cell (h : Stands t w rest back due ph) :
    Cell t.channel.pending w.id (if ph = .ahead then due else rest)
      (if ph ≠ .ahead ∧ due = none then some w.party else back) := by
  cases h with
  | ahead _ _ cell => simpa using cell
  | waiting _ _ _ _ cell => simpa using cell
  | given _ _ _ _ cell => simpa using cell
  | told _ _ _ cell => simpa using cell

theorem Stands.ahead_iff (called : w.call < t.begun) (h : Stands t w rest back due ph) :
    ph = .ahead ↔ w.Unasked t := by
  have asked : ∀ {k}, t.calls w.call = some k → k.errand.stage ≠ .sent (.ok w.id) →
      ¬ w.Unasked t := by
    intro k hk hstage hcall
    cases hk.symm.trans hcall
    exact hstage rfl
  cases h with
  | ahead call => exact iff_of_true rfl (call.resolve_left (Nat.not_le.2 called))
  | waiting call _ stage => exact iff_of_false nofun (asked call (by simp [stage]))
  | given call _ stage => exact iff_of_false nofun (asked call (by simp [stage]))
  | told call _ stage => exact iff_of_false nofun (asked call (by simp [stage]))

/-- Who waits is parked, and who has told its response has left. -/
theorem Stands.place (ht : t.Sound) (h : Stands t w rest back due ph)
    (hph : ph = .waiting ∨ ph = .told) :
    t.channel.pending.place w.party = if due = none then .parked w.id else .away := by
  cases h with
  | ahead => simp at hph
  | given => simp at hph
  | waiting _ _ _ place => simpa using place
  | told call _ stage =>
    rw [if_neg nofun]
    exact ht.callAway call (by simp [stage])

/-! What leaves a receive alone -/

/-- Between the two sessions nothing has happened to a receive, or to its id. -/
structure Bypasses (w : Receive) (t t' : Session) : Prop where
  begun : t.begun ≤ w.call → t'.begun ≤ w.call ∨ w.Unasked t'
  calls : t.begun ≤ w.call ∨ t'.calls w.call = t.calls w.call
  arrived : t'.channel.pending.arrived w.id = t.channel.pending.arrived w.id
  waiter : t'.channel.pending.waiter w.id = t.channel.pending.waiter w.id
  place : t'.channel.pending.place w.party = t.channel.pending.place w.party
  free : t.channel.pending.live? w.id = none → t'.channel.pending.live? w.id = none

theorem Stands.bypassed (ht : t.Sound) (h : Stands t w rest back due ph) (hs : Bypasses w t t') :
    Stands t' w rest back due ph := by
  have called : ∀ {k}, t.calls w.call = some k → t'.calls w.call = some k := by
    intro k hk
    rcases hs.calls with hn | hcalls
    · rw [ht.calls _ hn] at hk
      cases hk
    · rw [hcalls, hk]
  have cells : ∀ {x y}, Cell t.channel.pending w.id x y → Cell t'.channel.pending w.id x y :=
    fun h => ⟨hs.arrived.trans h.arrived, hs.waiter.trans h.waiter⟩
  cases h with
  | ahead call free cell alone =>
    refine .ahead ?_ (hs.free free) (cells cell) alone
    rcases call with hn | hcall
    · exact hs.begun hn
    · exact Or.inr (called hcall)
  | waiting call goal stage place cell =>
    exact .waiting (called call) goal stage (hs.place.trans place) (cells cell)
  | given call goal stage place cell =>
    exact .given (called call) goal stage (hs.place.trans place) (cells cell)
  | told call result stage cell => exact .told (called call) result stage (cells cell)

/-- Only a caller's own steps move its call. -/
theorem calls_act_of_ne (drops : a ≠ .drop n) (advances : a ≠ .advance (.call n))
    (begins : ∀ r, ¬ Begins n r s a) : (s.act a).calls n = s.calls n := by
  have ha := acts_act s a
  generalize s.act a = s' at ha
  cases ha with
  | builds => rw [calls_bind]
  | begins r =>
    have hn : n ≠ s.begun := fun h => begins r ⟨rfl, h.symm⟩
    exact put_other _ _ hn
  | drops m =>
    have hn : n ≠ m := fun h => drops (by rw [h])
    exact put_other _ _ hn
  | binds => rw [calls_moved, if_neg nofun]
  | @completes m =>
    have hn : n ≠ m := fun h => advances (by rw [h])
    exact put_other _ _ hn
  | @stores m k e rest =>
    have hn : n ≠ m := fun h => advances (by rw [h])
    have hst := stores_store m k e rest s
    generalize s.store m k e rest = s' at hst
    cases hst <;> exact put_other _ _ hn
  | @settles m k c stage s' call live moves hs =>
    have hn : n ≠ m := fun h => advances (by rw [h])
    have hmoved : (s.moved (.call m) c stage).calls n = s.calls n := by
      rw [calls_moved, if_neg (by simpa using Ne.symm hn)]
    rw [← hmoved]
    cases hs with
    | waits => rfl
    | evaluates => rw [calls_putCall, put_other _ _ hn, calls_markEvaluated]
    | imports => rw [calls_putCall, put_other _ _ hn, calls_bind]
    | _ => rw [calls_putCall, put_other _ _ hn]
  | _ => rfl

theorem begun_act (h : ∀ r, a ≠ .begin r) : (s.act a).begun = s.begun := by
  have ha := acts_act s a
  generalize s.act a = s' at ha
  cases ha with
  | builds => rw [begun_bind]
  | begins r => exact absurd rfl (h r)
  | binds => rw [begun_moved]
  | @stores m k e rest =>
    have hst := stores_store m k e rest s
    generalize s.store m k e rest = s' at hst
    cases hst <;> rfl
  | @settles m k c stage s' call live moves hs =>
    rw [← begun_moved (.call m) c stage s]
    cases hs with
    | evaluates => rw [begun_putCall, begun_markEvaluated]
    | imports => rw [begun_putCall, begun_bind]
    | _ => rfl
  | _ => rfl

/-! What is read -/

/-- A response goes into the table, and into nothing else. -/
theorem act_of_inserted (h : s.inserted? a = some r) :
    (∃ c, s.act a = { s with channel := c }) ∧
      (s.act a).channel.pending = s.channel.pending.insert r := by
  obtain ⟨octets, i, rfl, hread, -⟩ := inserted?_eq_some h
  exact ⟨⟨_, act_read hread⟩, pending_of_inserted h⟩

theorem live?_insert_eq_none {t : Pending Party} (h : t.live? id = none) (r : Response) :
    (t.insert r).live? id = none := by
  rw [Option.eq_none_iff_forall_not_mem] at h ⊢
  intro p hp
  obtain ⟨hw, hplace⟩ := Pending.live?_eq_some_iff.1 hp
  refine h p (Pending.live?_eq_some_iff.2 ⟨?_, ?_⟩)
  · rw [Pending.waiter_insert, put_apply] at hw
    split at hw
    · cases hw
    · exact hw
  · rw [Pending.place_insert] at hplace
    split at hplace
    · cases hplace
    · exact hplace

/-- A response for another id leaves a receive alone. -/
theorem bypasses_of_inserted (ht : t.Sound) (h : Stands t w rest back due ph)
    (hr : t.inserted? a = some r) (hid : r.id ≠ w.id) : Bypasses w t (t.act a) := by
  obtain ⟨⟨c, hact⟩, hpending⟩ := act_of_inserted hr
  have hlive : t.channel.pending.live? r.id ≠ some w.party := fun hl =>
    h.not_parked ht hid (Pending.live?_eq_some_iff.1 hl).2
  refine ⟨?_, Or.inr (by rw [hact]), ?_, ?_, ?_, ?_⟩
  · rw [hact]
    exact Or.inl
  · rw [hpending, Pending.arrived_insert_of_ne (Ne.symm hid)]
  · rw [hpending, Pending.waiter_insert, put_other _ _ (Ne.symm hid)]
  · rw [hpending, Pending.place_insert, if_neg hlive]
  · rw [hpending]
    exact fun hfree => live?_insert_eq_none hfree r

/-- The response for its id is due to the receive from now on. -/
theorem Stands.inserted (h : Stands t w rest none none ph) (hr : t.inserted? a = some r)
    (hid : r.id = w.id) :
    ∃ ph', (ph' = .ahead ↔ ph = .ahead) ∧ Stands (t.act a) w rest none (some r) ph' := by
  obtain ⟨⟨c, hact⟩, hpending⟩ := act_of_inserted hr
  have hcalls : (t.act a).calls = t.calls := by rw [hact]
  have hbegun : (t.act a).begun = t.begun := by rw [hact]
  have hwaiter : (t.act a).channel.pending.waiter w.id = none := by
    rw [hpending, Pending.waiter_insert, hid, put_same]
  cases h with
  | ahead call free cell alone =>
    refine ⟨.ahead, Iff.rfl, .ahead ?_ ?_ ⟨?_, hwaiter⟩ alone⟩
    · rw [Receive.Unasked, hcalls, hbegun]
      exact call
    · rw [hpending]
      exact live?_insert_eq_none free r
    · rw [hpending, Pending.arrived_insert, if_pos ⟨hid.symm, hid ▸ cell.waiter⟩]
  | waiting call goal stage place cell =>
    have hlive : t.channel.pending.live? r.id = some w.party :=
      Pending.live?_eq_some_iff.2 ⟨by rw [hid, cell.waiter], by rw [hid, place]⟩
    refine ⟨.given, by simp, .given (by rw [hcalls, call]) goal stage ?_ ⟨?_, hwaiter⟩⟩
    · rw [hpending, Pending.place_insert, if_pos hlive]
    · rw [hpending, Pending.arrived_insert, if_neg (fun h => ?_), cell.arrived]
      rw [← hid] at h
      rw [hid, cell.waiter] at h
      cases h.2

/-! Its own steps -/

/-- A call that shows its response ends with it. -/
theorem Settles.shown {k : Call} (h : Settles t n k t') (goal : k.goal = .response)
    (stage : k.errand.stage = .answered r) :
    t' = t.putCall n (k.finished (.ok (.response r))) := by
  have unshown : ¬ (k.goal ≠ .response ∨ ∀ r, k.errand.stage ≠ .answered r) := by
    rintro (h | h)
    · exact h goal
    · exact h r stage
  cases h with
  | waits stage' => rw [stage] at stage'; cases stage'
  | shows _ stage' => cases stage.symm.trans stage'; rfl
  | fails goal' => exact absurd goal' unshown
  | concludes goal' => exact absurd goal' unshown
  | evaluates goal' => cases goal.symm.trans goal'
  | misnamed goal' => cases goal.symm.trans goal'
  | imports goal' => cases goal.symm.trans goal'
  | goesOn goal' => cases goal.symm.trans goal'

/-- A receive that obtains its response tells it. -/
theorem stands_of_obtains (hrec : ∀ {n k}, t.calls n = some k → k.Recorded) {k : Call}
    (call : t.calls w.call = some k) (goal : k.goal = .response)
    (h : Obtains w.party w.id r t w.await)
    (hr : Cell (t.act w.await).channel.pending w.id rest back) :
    Stands (t.act w.await) w rest back (some r) .told := by
  obtain ⟨k', c, -, call', -, hs⟩ := h.act_call hrec
  cases call.symm.trans call'
  have hact := hs.shown goal rfl
  refine .told (k := (k.atStage (.answered r)).finished (.ok (.response r))) ?_ rfl rfl hr
  rw [hact, calls_putCall, put_same]

/-- A receive for which nothing has come is parked. -/
theorem act_of_asking (call : w.Unasked t) (absent : t.channel.pending.arrived w.id = none)
    (isOpen : t.channel.pending.closed = none) (free : t.channel.pending.live? w.id = none) :
    t.act w.await = t.moved w.party
      { t.channel with pending := { t.channel.pending with
          waiter := put t.channel.pending.waiter w.id (some w.party)
          place := put t.channel.pending.place w.party (.parked w.id) } } (.parked w.id) := by
  have hadvance : (Call.awaiting .response w.id).errand.advance? w.party t.resolution? t.channel =
      some ({ t.channel with pending := { t.channel.pending with
          waiter := put t.channel.pending.waiter w.id (some w.party)
          place := put t.channel.pending.place w.party (.parked w.id) } }, .parked w.id) := by
    simp [Errand.advance?, Call.awaiting, Channel.claim, Pending.claim, absent, isOpen, free]
  have hs := settles_advanceCall call rfl (by simp [Call.awaiting]) hadvance
  show t.act (.advance (.call w.call)) = _
  generalize t.act (.advance (.call w.call)) = t' at hs
  cases hs with
  | waits => rfl
  | shows _ stage => cases stage
  | fails _ stage => cases stage
  | concludes _ stage => cases stage
  | evaluates _ stage => cases stage
  | misnamed _ stage => cases stage
  | imports _ stage => cases stage
  | goesOn _ stage => cases stage

/-- A receive that asks for a response that has come tells it. -/
theorem stands_of_arrived (hrec : ∀ {n k}, t.calls n = some k → k.Recorded) (call : w.Unasked t)
    (cell : Cell t.channel.pending w.id (some r) back) :
    Stands (t.act w.await) w none back (some r) .told := by
  have herrand : t.errand? w.party = some (Call.awaiting .response w.id).errand := by
    rw [Receive.party, errand?_call, call]
    rfl
  have hobtains : Obtains w.party w.id r t w.await := .atOnce herrand rfl cell.arrived
  obtain ⟨e, c, hc, herrand', hpending⟩ := hobtains.pending hrec
  cases herrand.symm.trans herrand'
  refine stands_of_obtains hrec call rfl hobtains ?_
  rw [hpending]
  cases hc with
  | takes => exact ⟨put_same _ _ _, cell.waiter⟩
  | collects stage => cases stage

/-- A receive that looks for its response after it was given to it tells it. -/
theorem stands_of_given (hrec : ∀ {n k}, t.calls n = some k → k.Recorded) {k : Call}
    (call : t.calls w.call = some k) (goal : k.goal = .response)
    (stage : k.errand.stage = .parked w.id)
    (place : t.channel.pending.place w.party = .answered (.ok r))
    (cell : Cell t.channel.pending w.id rest back) :
    Stands (t.act w.await) w rest back (some r) .told := by
  have herrand : t.errand? w.party = some k.errand := by
    rw [Receive.party, errand?_call, call]
    rfl
  have hobtains : Obtains w.party w.id r t w.await := .later herrand stage place
  obtain ⟨e, c, hc, herrand', hpending⟩ := hobtains.pending hrec
  cases herrand.symm.trans herrand'
  refine stands_of_obtains hrec call goal hobtains ?_
  rw [hpending]
  cases hc with
  | takes stage' => cases stage.symm.trans stage'
  | collects => exact ⟨cell.arrived, cell.waiter⟩

/-- A receive that asks for a response that has not come waits. -/
theorem stands_of_asking (call : w.Unasked t) (isOpen : t.channel.pending.closed = none)
    (free : t.channel.pending.live? w.id = none)
    (cell : Cell t.channel.pending w.id none back) :
    Stands (t.act w.await) w none back none .waiting := by
  rw [act_of_asking call cell.arrived isOpen free]
  refine .waiting (k := (Call.awaiting .response w.id).atStage (.parked w.id)) ?_ rfl rfl ?_ ?_
  · rw [calls_moved, Receive.party, if_pos rfl, call]
    rfl
  · rw [channel_moved]
    exact put_same _ _ _
  · rw [channel_moved]
    exact ⟨cell.arrived, put_same _ _ _⟩

/-- An awaited receive waits, unless its response is due, which it tells. -/
theorem Stands.await (hrec : ∀ {n k}, t.calls n = some k → k.Recorded)
    (isOpen : t.channel.pending.closed = none) (called : w.call < t.begun)
    (h : Stands t w rest back due ph) :
    ∃ ph', (ph' = .waiting ∨ ph' = .told) ∧ Stands (t.act w.await) w rest back due ph' := by
  cases h with
  | ahead call free cell alone =>
    subst alone
    have hcall : w.Unasked t := call.resolve_left (Nat.not_le.2 called)
    cases due with
    | some r => exact ⟨.told, Or.inr rfl, stands_of_arrived hrec hcall cell⟩
    | none => exact ⟨.waiting, Or.inl rfl, stands_of_asking hcall isOpen free cell⟩
  | @waiting k call goal stage place cell =>
    have hadvance : k.errand.advance? w.party t.resolution? t.channel = none := by
      simp [Errand.advance?, stage, Pending.answer?, place]
    have hact : t.act w.await = t := act_of_waiting call (by simp [goal]) hadvance
    exact ⟨.waiting, Or.inl rfl, by rw [hact]; exact .waiting call goal stage place cell⟩
  | given call goal stage place cell =>
    exact ⟨.told, Or.inr rfl, stands_of_given hrec call goal stage place cell⟩
  | told call result stage cell =>
    have hact : t.act w.await = t := act_of_ended call result
    exact ⟨.told, Or.inr rfl, by rw [hact]; exact .told call result stage cell⟩

/-! Another one's steps -/

/-- A call that does not exist has no step. -/
theorem act_of_uncalled (h : t.calls n = none) : t.act (.advance (.call n)) = t := by
  simp only [act, advance?, advanceCall?, h, Option.getD_none]

/-- A receive without a result has its id in hand, or is parked for it. -/
theorem Stands.live (ht : t.Sound) (h : Stands t w rest back due ph) {k : Call}
    (call : t.calls w.call = some k) (live : k.result = none) :
    k.goal = .response ∧ (k.errand.stage = .sent (.ok w.id) ∨ k.errand.stage = .parked w.id) := by
  cases h with
  | ahead call' =>
    have hcall := call'.resolve_left (Nat.not_le.2 (ht.lt_begun call))
    cases call.symm.trans hcall
    exact ⟨rfl, Or.inl rfl⟩
  | waiting call' goal stage =>
    cases call.symm.trans call'
    exact ⟨goal, Or.inr stage⟩
  | given call' goal stage =>
    cases call.symm.trans call'
    exact ⟨goal, Or.inr stage⟩
  | told call' result =>
    cases call.symm.trans call'
    cases live.symm.trans result

/-- The tables agree but for the id and the place of the receive. -/
structure Touches (w : Receive) (x y : Pending Party) : Prop where
  arrived : ∀ id, id ≠ w.id → y.arrived id = x.arrived id
  waiter : ∀ id, id ≠ w.id → y.waiter id = x.waiter id
  place : ∀ p, p ≠ w.party → y.place p = x.place p
  own : ∀ id, id ≠ w.id → y.place w.party = .parked id → x.place w.party = .parked id

theorem Touches.refl (w : Receive) (x : Pending Party) : Touches w x x :=
  ⟨fun _ _ => rfl, fun _ _ => rfl, fun _ _ => rfl, fun _ _ => id⟩

theorem touches_leave (w : Receive) (x : Pending Party) : Touches w x (x.leave w.party) :=
  ⟨fun _ _ => rfl, fun _ _ => rfl, fun _ hp => put_other _ _ hp, fun id _ hp => by
    simp [Pending.place_leave] at hp⟩

/-- A step of a receive changes the table at its own id and place only. -/
theorem Stands.touches (ht : t.Sound) (h : Stands t w rest back due ph) :
    Touches w t.channel.pending (t.act w.await).channel.pending := by
  have ha : Acts t (.advance (.call w.call)) (t.act w.await) := acts_act t w.await
  generalize t.act w.await = t' at ha
  cases ha with
  | idles => exact .refl _ _
  | drives hd => cases hd
  | completes call live goal =>
    cases (h.live ht call live).1.symm.trans goal
  | stores call live goal =>
    cases (h.live ht call live).1.symm.trans goal
  | settles call live moves hs =>
    have hstage := (h.live ht call live).2
    rw [hs.pending, channel_moved]
    cases moves with
    | @takes j _ stage =>
      have hj : j = w.id := by simpa [stage] using hstage
      subst hj
      exact ⟨fun _ hid => put_other _ _ hid, fun _ _ => rfl, fun _ _ => rfl, fun _ _ => id⟩
    | @parks j stage =>
      have hj : j = w.id := by simpa [stage] using hstage
      subst hj
      refine ⟨fun _ _ => rfl, fun _ hid => put_other _ _ hid, fun _ hp => put_other _ _ hp, ?_⟩
      exact fun id hid hp => by simp [Receive.party, Ne.symm hid] at hp
    | collects => exact touches_leave _ _
    | letDown => exact touches_leave _ _
    | sends => rw [pending_send]; exact .refl _ _
    | _ => exact .refl _ _

/-- A receive is left alone by the steps of the others. -/
theorem bypasses_of_touches (hv : Touches v t.channel.pending (t.act v.await).channel.pending)
    (hcall : v.call ≠ w.call) (hid : v.id ≠ w.id) : Bypasses w t (t.act v.await) := by
  have hparty : w.party ≠ v.party := by simpa [Receive.party] using Ne.symm hcall
  refine ⟨?_, Or.inr ?_, hv.arrived _ (Ne.symm hid), hv.waiter _ (Ne.symm hid),
    hv.place _ hparty, fun hfree => ?_⟩
  · rw [begun_act (by simp [Receive.await])]
    exact Or.inl
  · exact calls_act_of_ne nofun (by simpa [Receive.await, Receive.party] using hcall)
      (fun _ h => absurd h.1 (by simp [Receive.await]))
  · rw [Option.eq_none_iff_forall_not_mem] at hfree ⊢
    intro p hp
    obtain ⟨hw, hplace⟩ := Pending.live?_eq_some_iff.1 hp
    rw [hv.waiter _ (Ne.symm hid)] at hw
    refine hfree p (Pending.live?_eq_some_iff.2 ⟨hw, ?_⟩)
    by_cases hpv : p = v.party
    · subst hpv
      exact hv.own _ (Ne.symm hid) hplace
    · rwa [hv.place _ hpv] at hplace

/-! Everything else -/

/-- The action drops no call, and no party moves by it but one of these receives. -/
def MovesOnly (ws : List Receive) (a : Action) : Prop :=
  (∀ n, a ≠ .drop n) ∧ ∀ p, a = .advance p → ∃ w ∈ ws, p = w.party

theorem isOpen_of_act (h : (t.act a).channel.pending.closed = none) :
    t.channel.pending.closed = none := by
  cases hc : t.channel.pending.closed with
  | none => rfl
  | some reason => rw [closed_act hc a] at h; cases h

/-- What reads no response and moves no party leaves the table as it is, unless it closes it. -/
theorem pending_act_of_idle (isOpen : (t.act a).channel.pending.closed = none)
    (nothing : t.inserted? a = none) (drops : ∀ n, a ≠ .drop n) (advances : ∀ p, a ≠ .advance p) :
    (t.act a).channel.pending = t.channel.pending := by
  have ha := tables_act t a
  generalize (t.act a).channel.pending = x at ha isOpen
  cases ha with
  | keeps => rfl
  | delivers hread piece => rw [inserted?_read hread, piece] at nothing; cases nothing
  | closes => cases isOpen
  | leaves m => exact absurd rfl (drops m)
  | moves => exact absurd rfl (advances _)

/-- What happens to no party leaves a receive alone. It may be called by it. -/
theorem bypasses_of_idle (isOpen : (t.act a).channel.pending.closed = none)
    (nothing : t.inserted? a = none) (drops : ∀ n, a ≠ .drop n) (advances : ∀ p, a ≠ .advance p)
    (begins : ∀ r, Begins w.call r t a → r = .receive w.id) : Bypasses w t (t.act a) := by
  have hpending := pending_act_of_idle isOpen nothing drops advances
  refine ⟨fun hn => ?_, ?_, by rw [hpending], by rw [hpending], by rw [hpending],
    by rw [hpending]; exact id⟩
  · by_cases ha : ∃ r, a = .begin r
    · obtain ⟨r, rfl⟩ := ha
      by_cases hw : t.begun = w.call
      · refine Or.inr ?_
        rw [begins r ⟨rfl, hw⟩, Receive.Unasked, ← hw]
        simp [act, begin, Call.ofRequest]
      · refine Or.inl ?_
        show t.begun + 1 ≤ w.call
        omega
    · rw [begun_act fun r hr => ha ⟨r, hr⟩]
      exact Or.inl hn
  · by_cases ha : ∃ r, Begins w.call r t a
    · obtain ⟨r, -, hw⟩ := ha
      exact Or.inl (Nat.le_of_eq hw)
    · exact Or.inr (calls_act_of_ne (drops _) (advances _) fun r hr => ha ⟨r, hr⟩)

/-! One step -/

/-- The response that one of these is for an id. -/
def answer? (id : Nat) (batch : List Response) : Option Response := batch.find? fun r => r.id = id

theorem answer?_append (id : Nat) (xs ys : List Response) :
    answer? id (xs ++ ys) = (answer? id xs).or (answer? id ys) :=
  List.find?_append

theorem answer?_toList_of_ne (h : ∀ r, t.inserted? a = some r → r.id ≠ id) :
    answer? id (t.inserted? a).toList = none := by
  cases hr : t.inserted? a with
  | none => rfl
  | some r => simp [answer?, h r hr]

variable {ws : List Receive}

/-- All these receives stand somewhere. -/
def AllStand (ws : List Receive) (t : Session) : Prop :=
  ∀ w ∈ ws, ∃ rest back due ph, Stands t w rest back due ph

/-- Unless it is called or awaited, a receive stands as before but for what was read for it. -/
theorem Stands.act (ht : t.Sound) (hrec : ∀ {n k}, t.calls n = some k → k.Recorded)
    (isOpen : (t.act a).channel.pending.closed = none) (mine : MovesOnly ws a)
    (calls : (ws.map Receive.call).Nodup) (ids : (ws.map Receive.id).Nodup)
    (all : AllStand ws t) (hw : w ∈ ws) (begins : ∀ r, Begins w.call r t a → r = .receive w.id)
    (h : Stands t w rest back due ph)
    (alone : ∀ r, t.inserted? a = some r → r.id = w.id → due = none ∧ back = none) :
    ∃ ph', (ph' = .ahead → ph = .ahead) ∧ (a ≠ w.await → t.inserted? a = none → ph' = ph) ∧
      Stands (t.act a) w rest back (due.or (answer? w.id (t.inserted? a).toList)) ph' := by
  have bypassed : Bypasses w t (t.act a) → (∀ r, t.inserted? a = some r → r.id ≠ w.id) →
      ∃ ph', (ph' = .ahead → ph = .ahead) ∧ (a ≠ w.await → t.inserted? a = none → ph' = ph) ∧
        Stands (t.act a) w rest back (due.or (answer? w.id (t.inserted? a).toList)) ph' := by
    intro hs hnone
    rw [answer?_toList_of_ne hnone, Option.or_none]
    exact ⟨ph, id, fun _ _ => rfl, h.bypassed ht hs⟩
  rcases Option.eq_none_or_eq_some (t.inserted? a) with hr | ⟨r, hr⟩
  · have nothing : ∀ r, t.inserted? a = some r → r.id ≠ w.id := by simp [hr]
    by_cases hadvance : ∃ p, a = .advance p
    · obtain ⟨p, rfl⟩ := hadvance
      obtain ⟨v, hv, rfl⟩ := mine.2 p rfl
      obtain ⟨vrest, vback, vdue, vph, hvstands⟩ := all v hv
      by_cases hvw : v = w
      · subst hvw
        rcases Nat.lt_or_ge v.call t.begun with hcalled | huncalled
        · obtain ⟨ph', hph, hstands⟩ := h.await hrec (isOpen_of_act isOpen) hcalled
          refine ⟨ph', ?_, fun hne => absurd rfl hne, ?_⟩
          · rcases hph with rfl | rfl <;> nofun
          · rw [answer?_toList_of_ne nothing, Option.or_none]
            exact hstands
        · have hact : t.act (.advance v.party) = t := act_of_uncalled (ht.calls _ huncalled)
          refine ⟨ph, id, fun _ _ => rfl, ?_⟩
          rw [answer?_toList_of_ne nothing, Option.or_none, hact]
          exact h
      · have hcall : v.call ≠ w.call := fun hc => hvw (List.inj_on_of_nodup_map calls hv hw hc)
        have hid : v.id ≠ w.id := fun hi => hvw (List.inj_on_of_nodup_map ids hv hw hi)
        exact bypassed (bypasses_of_touches (hvstands.touches ht) hcall hid) nothing
    · have advances : ∀ p, a ≠ .advance p := fun p hp => hadvance ⟨p, hp⟩
      exact bypassed (bypasses_of_idle isOpen hr mine.1 advances begins) nothing
  · by_cases hid : r.id = w.id
    · obtain ⟨rfl, rfl⟩ := alone r hr hid
      obtain ⟨ph', hph, hstands⟩ := h.inserted hr hid
      refine ⟨ph', hph.1, by simp [hr], ?_⟩
      simpa [answer?, hr, hid] using hstands
    · exact bypassed (bypasses_of_inserted ht h hr hid) fun r' hr' => by
        cases hr.symm.trans hr'
        exact hid

end RemoteInterpreter.Session
