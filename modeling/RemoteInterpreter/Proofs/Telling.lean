import RemoteInterpreter.Simulation

/-!
# What telling and looking leave alone

Tasks are woken, callers are told, and whoever waits at handles sits down and leaves. None of this
touches a session or its far end: a session is changed by its actions only, one at a time.
-/

namespace RemoteInterpreter.Simulation

open Session (Party Action)

variable {w w' : Simulation} {x : Site}

/-- Both ends of the channels. Who waits, and where, does not matter here. -/
def ends (w : Simulation) : List (Session × FarEnd) := w.sites.map fun x => (x.session, x.farEnd)

theorem getElem?_ends (i : Nat) (w : Simulation) :
    w.ends[i]? = (w.sites[i]?).map fun x => (x.session, x.farEnd) := List.getElem?_map

theorem session?_eq (i : Nat) (w : Simulation) : w.session? i = (w.ends[i]?).map Prod.fst := by
  rw [getElem?_ends, Option.map_map]
  rfl

theorem length_ends_le {i : Nat} (h : w.sites[i]? = none) : w.ends.length ≤ i := by
  rw [ends, List.length_map]
  exact List.getElem?_eq_none_iff.1 h

theorem ends_putSite {i : Nat} {y : Site} {change : Session × FarEnd → Session × FarEnd}
    (h : w.sites[i]? = some x) (hy : (y.session, y.farEnd) = change (x.session, x.farEnd)) :
    (w.putSite i y).ends = w.ends.modify i change := by
  apply List.ext_getElem?
  intro j
  rw [List.getElem?_modify, getElem?_ends, getElem?_ends]
  by_cases hj : i = j
  · subst hj
    obtain ⟨hlt, rfl⟩ := List.getElem?_eq_some_iff.1 h
    simp [putSite, hlt, hy]
  · simp [putSite, hj]

/-- A site is put back with its session and its far end as they were. -/
theorem ends_putSite_of_eq {i : Nat} {y : Site} (h : w.sites[i]? = some x)
    (session : y.session = x.session) (farEnd : y.farEnd = x.farEnd) :
    (w.putSite i y).ends = w.ends := by
  have hput : (w.putSite i y).ends = w.ends.modify i id :=
    ends_putSite h (by rw [session, farEnd]; rfl)
  rw [hput, List.modify_id]

theorem ends_changeSite {i : Nat} {change : Site → Site}
    {change' : Session × FarEnd → Session × FarEnd}
    (h : ∀ x, ((change x).session, (change x).farEnd) = change' (x.session, x.farEnd))
    (w : Simulation) : (w.changeSite i change).ends = w.ends.modify i change' := by
  unfold changeSite
  split
  · next hi => rw [List.modify_eq_self (length_ends_le hi)]
  · next hi => exact ends_putSite hi (h _)

theorem ends_changeSite_of_eq {i : Nat} {change : Site → Site}
    (session : ∀ x, (change x).session = x.session) (farEnd : ∀ x, (change x).farEnd = x.farEnd)
    (w : Simulation) : (w.changeSite i change).ends = w.ends := by
  have hchange : (w.changeSite i change).ends = w.ends.modify i id :=
    ends_changeSite (fun x => by rw [session, farEnd]; rfl) w
  rw [hchange, List.modify_id]

@[simp] theorem ends_putCrowd (i : Nat) (p : Party) (c : Crowd) (w : Simulation) :
    (w.changeSite i (Site.putCrowd p c)).ends = w.ends := by
  apply ends_changeSite_of_eq
  · exact fun _ => rfl
  · exact fun _ => rfl

theorem ends_leave (i : Nat) (p : Party) (uses : List Nat) (w : Simulation) :
    (w.changeSite i (Site.leave p uses)).ends = w.ends := by
  have hseats : ∀ x : Site,
      let y := uses.foldl (fun x n => x.putSeats n ((x.seatsAt n).leave p)) x
      y.session = x.session ∧ y.farEnd = x.farEnd := by
    induction uses with
    | nil => exact fun x => ⟨rfl, rfl⟩
    | cons n uses ih => exact fun x => ih (x.putSeats n ((x.seatsAt n).leave p))
  apply ends_changeSite_of_eq
  · exact fun x => (hseats (x.dropCrowd p)).1
  · exact fun x => (hseats (x.dropCrowd p)).2

@[simp] theorem ends_wake (t : Task) (w : Simulation) : (w.wake t).ends = w.ends := by
  unfold wake
  split <;> rfl

@[simp] theorem ends_notify (i : Nat) (p : Party) (w : Simulation) :
    (w.notify i p).ends = w.ends := by
  cases p with
  | binding n => exact ends_wake _ w
  | call n => rfl

@[simp] theorem ends_notifyAnswered (i : Nat) (w : Simulation) (p : Party) :
    (w.notifyAnswered i p).ends = w.ends := by
  unfold notifyAnswered
  split
  · rfl
  · exact ends_notify i p w

@[simp] theorem ends_call (i n : Nat) (w : Simulation) (p : Party) :
    (call i n w p).ends = w.ends := by
  unfold call
  split
  · exact ends_notify i p w
  · dsimp only
    split <;> simp

theorem ends_foldl {β : Type} {f : Simulation → β → Simulation}
    (h : ∀ w b, (f w b).ends = w.ends) (bs : List β) (w : Simulation) :
    (bs.foldl f w).ends = w.ends := by
  induction bs generalizing w with
  | nil => rfl
  | cons b bs ih => rw [List.foldl_cons, ih, h]

@[simp] theorem ends_ring (i n : Nat) (w : Simulation) : (w.ring i n).ends = w.ends := by
  unfold ring
  split
  · rfl
  · next h =>
    rw [ends_foldl (ends_call i n)]
    exact ends_putSite_of_eq h rfl rfl

@[simp] theorem ends_giveDeferred (w : Simulation) : w.giveDeferred.ends = w.ends := by
  unfold giveDeferred
  rw [ends_foldl]
  · rfl
  · intro w signal
    cases signal with
    | task t => exact ends_wake t w
    | caller => rfl
    | seats i n => exact ends_ring i n w

/-- Whoever looks at a handle takes a seat there at most. -/
@[simp] theorem ends_look (i : Nat) (p : Party) (n : Nat) (w : Simulation) :
    (w.look i p n).2.ends = w.ends := by
  unfold look
  split
  · rfl
  · next h =>
    split
    · rfl
    · dsimp only
      split
      · exact ends_putSite_of_eq h rfl rfl
      · split
        · refine (ends_changeSite_of_eq ?_ ?_ _).trans ((ends_ring i n _).trans ?_)
          · exact fun _ => rfl
          · exact fun _ => rfl
          · exact ends_putSite_of_eq h rfl rfl
        · exact ends_putSite_of_eq h rfl rfl

theorem ends_of_look {i n : Nat} {p : Party} {ended : Bool}
    (h : w.look i p n = (ended, w')) : w'.ends = w.ends := by
  rw [← ends_look i p n w, h]

theorem ends_attendFew (i : Nat) (p : Party) (uses : List Nat) (finished : Bool)
    (w : Simulation) : (attendFew i p uses finished w).2.ends = w.ends := by
  induction uses generalizing finished w with
  | nil => rfl
  | cons n uses ih =>
    unfold attendFew
    split
    · next h => rw [ih, ends_of_look h]
    · next h =>
      split
      · exact ends_of_look h
      · rw [ih, ends_of_look h]

theorem ends_attendMany (i : Nat) (p : Party) (uses : List Nat) (fuel looked : Nat)
    (w : Simulation) : (attendMany i p uses fuel looked w).2.ends = w.ends := by
  induction fuel generalizing looked w with
  | zero => rfl
  | succ fuel ih =>
    unfold attendMany
    split
    · rfl
    · split
      · exact ends_putCrowd i p _ w
      · dsimp only
        split
        · rw [ih, ends_putCrowd]
        · split
          · next h =>
            have hw := ends_of_look h
            rw [ends_putCrowd] at hw
            split
            · rw [ends_notify, hw]
            · rw [ih, hw]
          · next h =>
            have hw := ends_of_look h
            rw [ends_putCrowd] at hw
            split
            · exact hw
            · split
              · rw [ends_putCrowd, hw]
              · rw [ih, ends_putCrowd, hw]

theorem ends_attend (i : Nat) (p : Party) (uses : List Nat) (w : Simulation) :
    (w.attend i p uses).2.ends = w.ends := by
  unfold attend
  split
  · exact ends_attendFew i p uses true w
  · split
    · exact ends_attendMany i p uses _ 0 w
    · rw [ends_attendMany, ends_putCrowd]

/-! Changes of a session and of its far end -/

theorem ends_changeFarEnd (i : Nat) (change : FarEnd → FarEnd) (w : Simulation) :
    (w.changeFarEnd i change).ends = w.ends.modify i fun e => (e.1, change e.2) :=
  ends_changeSite (fun _ => rfl) w

@[simp] theorem ends_wakeWriter (i : Nat) (c c' : Channel Party) (w : Simulation) :
    (w.wakeWriter i c c').ends = w.ends := by
  simp only [wakeWriter]
  split
  · exact ends_wake _ w
  · rfl

@[simp] theorem ends_wakeMonitor (i : Nat) (m m' : Monitor) (w : Simulation) :
    (w.wakeMonitor i m m').ends = w.ends := by
  unfold wakeMonitor
  split
  · exact ends_wake _ w
  · rfl

@[simp] theorem ends_wakeReader (i : Nat) (a : Action) (w : Simulation) :
    (w.wakeReader i a).ends = w.ends := by
  unfold wakeReader
  split
  · exact ends_wake _ w
  · exact ends_wake _ w
  · rfl

theorem ends_ringIfWatched (i : Nat) (w : Simulation) (n : Nat) :
    (w.ringIfWatched i n).ends = w.ends := by
  unfold ringIfWatched
  split
  · rfl
  · split
    · exact ends_ring i n w
    · rfl

/-- An action is done by one session, and everybody is told of it. -/
theorem ends_act (i : Nat) (a : Action) (w : Simulation) :
    (w.act i a).ends = w.ends.modify i fun e => (e.1.act a, e.2) := by
  unfold act
  split
  · next h => rw [List.modify_eq_self (length_ends_le h)]
  · next x h =>
    have hput : (w.putSite i { x with session := x.session.act a }).ends =
        w.ends.modify i fun e => (e.1.act a, e.2) := ends_putSite h rfl
    dsimp only
    rw [ends_foldl (ends_ringIfWatched i), ends_foldl (ends_notifyAnswered i), ends_wakeMonitor,
      ends_wakeReader]
    split
    · rw [ends_wake, ends_wakeWriter, hput]
    · rw [ends_wakeWriter, hput]

end RemoteInterpreter.Simulation
