import RemoteInterpreter.Proofs.Table

/-!
# Operations on different ids

Two responses, two claims, and a response and a claim can take turns in either order, if their ids
differ: the table is the same, and so is what the claims give. On one id the order can show, if
somebody who waited for it has left, or if a response has arrived that nobody has claimed.
-/

namespace RemoteInterpreter.Pending

variable {κ : Type} {t t' : Pending κ} {r r' : Response} {k k' : κ} {id id' : Nat}

/-- Tables are the same if their parts are. -/
theorem eq_of_parts (arrived : t.arrived = t'.arrived) (waiter : t.waiter = t'.waiter)
    (place : t.place = t'.place) (closed : t.closed = t'.closed) : t = t' := by
  cases t
  cases t'
  cases arrived
  cases waiter
  cases place
  cases closed
  rfl

variable [DecidableEq κ]

/-- What a claim that gives this makes of the table. -/
def granted (k : κ) (id : Nat) (t : Pending κ) : Claim → Pending κ
  | .ready _ => { t with arrived := put t.arrived id none }
  | .refused _ => t
  | .parked => { t with waiter := put t.waiter id (some k), place := put t.place k (.parked id) }

theorem claim_eq (k : κ) (id : Nat) (t : Pending κ) :
    t.claim k id = (t.granted k id (t.claim k id).2, (t.claim k id).2) := by
  have hc := claims_claim t k id
  refine Prod.ext ?_ rfl
  generalize t.claim k id = x at hc
  obtain ⟨t', v⟩ := x
  cases hc <;> rfl

/-- A claim looks at its own id and at the close. -/
theorem claim_congr (arrived : t'.arrived id = t.arrived id) (closed : t'.closed = t.closed)
    (live : t'.live? id = t.live? id) (k : κ) : (t'.claim k id).2 = (t.claim k id).2 := by
  unfold claim
  rw [arrived, closed, live]
  cases t.arrived id with
  | some found => rfl
  | none =>
    cases t.closed with
    | some reason => rfl
    | none =>
      dsimp only
      split <;> rfl

/-- A response does not touch who is parked for another id. -/
theorem live?_insert_of_ne (h : id ≠ r.id) (t : Pending κ) :
    (t.insert r).live? id = t.live? id := by
  refine Option.ext fun k => ?_
  rw [live?_eq_some_iff, live?_eq_some_iff, waiter_insert, put_other _ _ h, place_insert]
  refine and_congr_right fun _ => ?_
  split
  · next hl =>
    -- who is parked for the response is parked for no other id
    have hp := (live?_eq_some_iff.1 hl).2
    simp [hp, Ne.symm h]
  · rfl

theorem live?_granted_of_ne (h : id' ≠ id) (hp : t.place k ≠ .parked id') (v : Claim) :
    (t.granted k id v).live? id' = t.live? id' := by
  cases v with
  | ready => rfl
  | refused => rfl
  | parked =>
    refine Option.ext fun j => ?_
    by_cases hj : j = k
    · subst hj
      simp [live?_eq_some_iff, granted, h, hp, Ne.symm h]
    · simp [live?_eq_some_iff, granted, h, hj]

theorem arrived_granted_of_ne (h : id' ≠ id) (k : κ) (t : Pending κ) (v : Claim) :
    (t.granted k id v).arrived id' = t.arrived id' := by
  cases v with
  | ready => exact put_other _ _ h
  | refused => rfl
  | parked => rfl

theorem closed_granted (k : κ) (id : Nat) (t : Pending κ) (v : Claim) :
    (t.granted k id v).closed = t.closed := by
  cases v <;> rfl

theorem granted_insert (h : id ≠ r.id) (k : κ) (t : Pending κ) (v : Claim) :
    (t.insert r).granted k id v = (t.granted k id v).insert r := by
  cases v with
  | refused => rfl
  | ready =>
    refine eq_of_parts (funext fun j => ?_) ?_ (funext fun j => ?_) ?_
    · by_cases hj : j = id
      · simp [granted, hj, h, arrived_insert]
      · simp [granted, hj, arrived_insert]
    · simp [granted, waiter_insert]
    · simp only [granted, place_insert]
      rfl
    · simp [granted]
  | parked =>
    refine eq_of_parts (funext fun j => ?_) ?_ (funext fun j => ?_) ?_
    · by_cases hj : j = r.id <;> simp [granted, arrived_insert, hj, Ne.symm h]
    · simp [granted, waiter_insert, put_comm _ _ _ h]
    · by_cases hj : j = k
      · subst hj
        have hl : (t.granted j id .parked).live? r.id ≠ some j := by
          intro hl
          have hp := (live?_eq_some_iff.1 hl).2
          simp [granted, h] at hp
        rw [place_insert, if_neg hl]
        simp [granted]
      · have hl : (t.granted k id .parked).live? r.id = some j ↔ t.live? r.id = some j := by
          simp [live?_eq_some_iff, granted, hj, Ne.symm h]
        simp only [place_insert, hl]
        simp [granted, place_insert, hj]
    · simp [granted]

theorem granted_comm (hk : k ≠ k') (h : id ≠ id') (t : Pending κ) (v v' : Claim) :
    (t.granted k id v).granted k' id' v' = (t.granted k' id' v').granted k id v := by
  cases v <;> cases v' <;> simp [granted, put_comm _ _ _ h, put_comm _ _ _ hk]

/-- A response and a claim for different ids do not depend on each other. -/
theorem claim_insert (h : id ≠ r.id) (k : κ) (t : Pending κ) :
    (t.insert r).claim k id = ((t.claim k id).1.insert r, (t.claim k id).2) := by
  have hverdict : ((t.insert r).claim k id).2 = (t.claim k id).2 :=
    claim_congr (arrived_insert_of_ne h t) (closed_insert r t) (live?_insert_of_ne h t) k
  rw [claim_eq k id (t.insert r), claim_eq k id t, hverdict, granted_insert h]

theorem claim_comm (hk : k ≠ k') (h : id ≠ id') (hp : t.place k ≠ .parked id')
    (hp' : t.place k' ≠ .parked id) :
    (t.claim k id).1.claim k' id' =
      (((t.claim k' id').1.claim k id).1, (t.claim k' id').2) ∧
    ((t.claim k' id').1.claim k id).2 = (t.claim k id).2 := by
  have hverdict : ∀ v, ((t.granted k id v).claim k' id').2 = (t.claim k' id').2 := fun v =>
    claim_congr (arrived_granted_of_ne (Ne.symm h) k t v) (closed_granted k id t v)
      (live?_granted_of_ne (Ne.symm h) hp v) k'
  have hverdict' : ∀ v, ((t.granted k' id' v).claim k id).2 = (t.claim k id).2 := fun v =>
    claim_congr (arrived_granted_of_ne h k' t v) (closed_granted k' id' t v)
      (live?_granted_of_ne h hp' v) k
  rw [claim_eq k id t, claim_eq k' id' t]
  dsimp only
  rw [claim_eq k' id' (t.granted _ _ _), claim_eq k id (t.granted _ _ _), hverdict, hverdict']
  exact ⟨by rw [granted_comm hk h], rfl⟩

theorem insert_comm (h : r.id ≠ r'.id) (t : Pending κ) :
    (t.insert r).insert r' = (t.insert r').insert r := by
  refine eq_of_parts (funext fun j => ?_) ?_ (funext fun j => ?_) ?_
  · simp only [arrived_insert, waiter_insert, put_apply]
    by_cases hj : j = r.id
    · simp [hj, h]
    · by_cases hj' : j = r'.id <;> simp [hj, hj', Ne.symm h]
  · rw [waiter_insert, waiter_insert, waiter_insert, waiter_insert, put_comm _ _ _ h]
  · rw [place_insert, live?_insert_of_ne (Ne.symm h), place_insert, place_insert,
      live?_insert_of_ne h, place_insert]
    by_cases hl : t.live? r.id = some j
    · have hl' : t.live? r'.id ≠ some j := by
        intro hl'
        have hp := (live?_eq_some_iff.1 hl).2.symm.trans (live?_eq_some_iff.1 hl').2
        exact h (by simpa using hp)
      simp [hl, hl']
    · simp [hl]
  · simp

/-- A waiter that has left swallows the response for its id, unless somebody else asks first. -/
theorem swallowed_unless_claimed (arrived : t.arrived r.id = none)
    (waiter : t.waiter r.id = some k') (left : t.live? r.id = none) (isOpen : t.closed = none)
    (k : κ) :
    ((t.insert r).claim k r.id).2 = .parked ∧
      ((t.claim k r.id).1.insert r).place k = .answered (.ok r) := by
  have hinsert : t.insert r = { t with waiter := put t.waiter r.id none } := by
    simp [insert, waiter, left]
  have hclaim : t.claim k r.id = (t.granted k r.id .parked, .parked) := by
    simp [claim, granted, arrived, left, isOpen]
  constructor
  · rw [hinsert]
    simp [claim, arrived, isOpen, live?]
  · rw [hclaim, place_insert, if_pos]
    simp [live?_eq_some_iff, granted]

/-- A response that has arrived is replaced by another one for its id, unless it is claimed
before. -/
theorem replaced_unless_claimed (arrived : t.arrived r.id = some r') (waiter : t.waiter r.id = none)
    (k : κ) : ((t.insert r).claim k r.id).2 = .ready r ∧ (t.claim k r.id).2 = .ready r' := by
  have hinsert : (t.insert r).arrived r.id = some r := by simp [insert, waiter]
  rw [claim_of_arrived hinsert, claim_of_arrived arrived]
  exact ⟨rfl, rfl⟩

end RemoteInterpreter.Pending
