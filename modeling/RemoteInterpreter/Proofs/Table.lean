import RemoteInterpreter.Channel.Pending

/-!
# The table of pending responses

What each operation does to the parts of the table: the responses that have arrived, the
waiters, and where each caller stands. A caller is parked only while the table is open
and while it is the waiter of the id it is parked for.
-/

namespace RemoteInterpreter.Pending

variable {κ : Type} {t t' : Pending κ}

/-- Responses lie under their own ids, and whoever is parked is waited for in an open table. -/
structure Sound (t : Pending κ) : Prop where
  keyed : ∀ {id r}, t.arrived id = some r → r.id = id
  waits : ∀ {k id}, t.place k = .parked id → t.waiter id = some k
  isOpen : ∀ {k id}, t.place k = .parked id → t.closed = none

theorem sound_empty : (empty : Pending κ).Sound :=
  ⟨by simp [empty], by simp [empty], by simp [empty]⟩

theorem Sound.live (h : t.Sound) {k : κ} {id : Nat} (hp : t.place k = .parked id) :
    t.live? id = some k :=
  live?_eq_some_iff.2 ⟨h.waits hp, hp⟩

theorem place_close (reason : CloseReason) (t : Pending κ) (k : κ) :
    (t.close reason).place k = closePlace (t.closed.getD reason) (t.place k) := rfl

theorem closePlace_ne_parked (reason : CloseReason) (p : Place) (id : Nat) :
    closePlace reason p ≠ .parked id := by
  cases p <;> simp [closePlace]

/-- A close does not take back what was answered. -/
theorem closePlace_eq_ok_iff {reason : CloseReason} {p : Place} {r : Response} :
    closePlace reason p = .answered (.ok r) ↔ p = .answered (.ok r) := by
  cases p <;> simp [closePlace]

theorem Sound.close (h : t.Sound) (reason : CloseReason) : (t.close reason).Sound :=
  ⟨h.keyed, fun hp => absurd hp (closePlace_ne_parked _ _ _),
    fun hp => absurd hp (closePlace_ne_parked _ _ _)⟩

variable [DecidableEq κ]

/-! What a response changes -/

theorem waiter_insert (r : Response) (t : Pending κ) :
    (t.insert r).waiter = put t.waiter r.id none := by
  funext id
  unfold insert
  split
  · next h => by_cases hid : id = r.id <;> simp [put, hid, h]
  · split <;> rfl

/-- Only the caller that is parked for the id of a response gets it. -/
theorem place_insert (r : Response) (t : Pending κ) (k : κ) :
    (t.insert r).place k =
      if t.live? r.id = some k then .answered (.ok r) else t.place k := by
  unfold insert
  split
  · next h => simp [live?, h]
  · split
    · next h => simp [h]
    · next j h => by_cases hk : k = j <;> simp [put, h, hk, eq_comm]

theorem arrived_insert (r : Response) (t : Pending κ) (id : Nat) :
    (t.insert r).arrived id =
      if id = r.id ∧ t.waiter id = none then some r else t.arrived id := by
  by_cases hid : id = r.id
  · subst hid
    unfold insert
    split
    · next h => simp [h]
    · next h => split <;> simp [h]
  · simp [hid, arrived_insert_of_ne hid]

theorem Sound.insert (h : t.Sound) (r : Response) : (t.insert r).Sound := by
  have parked : ∀ {k id}, (t.insert r).place k = .parked id →
      t.place k = .parked id ∧ id ≠ r.id := by
    intro k id hp
    rw [place_insert] at hp
    split at hp
    · cases hp
    · next hl =>
      refine ⟨hp, ?_⟩
      rintro rfl
      exact hl (h.live hp)
  constructor
  · intro id r' ha
    rw [arrived_insert] at ha
    split at ha
    · next hid => cases ha; exact hid.1.symm
    · exact h.keyed ha
  · intro k id hp
    obtain ⟨hp, hid⟩ := parked hp
    rw [waiter_insert, put_other _ _ hid]
    exact h.waits hp
  · intro k id hp
    rw [closed_insert]
    exact h.isOpen (parked hp).1

/-! What a claim changes -/

/-- A claim takes what has arrived, or is turned away, or parks its caller. -/
inductive Claims (t : Pending κ) (k : κ) (id : Nat) : Pending κ → Claim → Prop
  | takes {r} (arrived : t.arrived id = some r) :
    Claims t k id { t with arrived := put t.arrived id none } (.ready r)
  | finds_closed {reason} (absent : t.arrived id = none) (closed : t.closed = some reason) :
    Claims t k id t (.refused (.closed reason))
  | finds_waiter {j} (absent : t.arrived id = none) (isOpen : t.closed = none)
      (live : t.live? id = some j) :
    Claims t k id t (.refused (.alreadyAwaited id))
  | parks (absent : t.arrived id = none) (isOpen : t.closed = none) (free : t.live? id = none) :
    Claims t k id
      { t with waiter := put t.waiter id (some k), place := put t.place k (.parked id) } .parked

theorem claims_claim (t : Pending κ) (k : κ) (id : Nat) :
    Claims t k id (t.claim k id).1 (t.claim k id).2 := by
  unfold claim
  split
  · next r h => exact .takes h
  · next h =>
    split
    · next reason hc => exact .finds_closed h hc
    · next hc =>
      split
      · next hl =>
        obtain ⟨j, hj⟩ := Option.isSome_iff_exists.1 hl
        exact .finds_waiter h hc hj
      · next hl => exact .parks h hc (by simpa using hl)

/-- A claim is turned away by a close or by another waiter. -/
theorem Claims.refused {k : κ} {id : Nat} {e : ChannelError} (h : Claims t k id t' (.refused e)) :
    e = .alreadyAwaited id ∨ ∃ reason, e = .closed reason := by
  cases h with
  | finds_closed => exact Or.inr ⟨_, rfl⟩
  | finds_waiter => exact Or.inl rfl

theorem Claims.live_of_awaited {k : κ} {id j : Nat}
    (h : Claims t k id t' (.refused (.alreadyAwaited j))) : ∃ other, t.live? id = some other := by
  cases h with
  | finds_waiter _ _ live => exact ⟨_, live⟩

theorem Sound.claims (h : t.Sound) {k : κ} {id : Nat} {c : Claim} (hc : Claims t k id t' c) :
    t'.Sound := by
  cases hc with
  | takes arrived =>
    refine ⟨?_, h.waits, h.isOpen⟩
    intro j r hj
    by_cases hid : j = id
    · subst hid; simp at hj
    · exact h.keyed (by simpa [hid] using hj)
  | finds_closed => exact h
  | finds_waiter => exact h
  | parks absent isOpen free =>
    refine ⟨h.keyed, ?_, fun _ => isOpen⟩
    intro j i hp
    by_cases hj : j = k
    · subst hj
      simp only [put_same, Place.parked.injEq] at hp
      simp [hp]
    · -- whoever is parked for the id would be its live waiter
      have hp' : t.place j = .parked i := by simpa [hj] using hp
      have hi : i ≠ id := by
        rintro rfl
        rw [h.live hp'] at free
        cases free
      simpa [hi] using h.waits hp'

theorem place_leave (j : κ) (t : Pending κ) (k : κ) :
    (t.leave j).place k = if k = j then .away else t.place k := rfl

/-- Whoever stands somewhere after another has left stood there before. -/
theorem place_of_place_leave {j k : κ} {p : Place} (h : (t.leave j).place k = p)
    (hp : p ≠ .away) : t.place k = p := by
  rw [place_leave] at h
  split at h
  · exact absurd h.symm hp
  · exact h

theorem Sound.leave (h : t.Sound) (k : κ) : (t.leave k).Sound :=
  ⟨h.keyed, fun hp => h.waits (place_of_place_leave hp nofun),
    fun hp => h.isOpen (place_of_place_leave hp nofun)⟩

end RemoteInterpreter.Pending
