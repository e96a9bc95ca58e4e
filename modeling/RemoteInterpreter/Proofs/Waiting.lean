import Mathlib.Data.Nat.Init
import RemoteInterpreter.Proofs.Table

/-!
# The callers of a table

Operations come one after the other, on a table that is empty at first. Every claim is made
by a new caller, which is known by the time of its claim. Whoever is parked stays so until
the first response for its id, or a close, or until it gives up.
-/

namespace RemoteInterpreter.Pending

inductive Op where
  | insert (r : Response)
  | claim (id : Nat)
  | close (reason : CloseReason)
  /-- The caller that claimed at this time gives up. -/
  | leave (caller : Nat)

def Op.apply (now : Nat) (t : Pending Nat) : Op → Pending Nat
  | .insert r => t.insert r
  | .claim id => (t.claim now id).1
  | .close reason => t.close reason
  | .leave k => t.leave k

/-- The table that the operation at this time meets. -/
def tableAt (ops : Nat → Op) : Nat → Pending Nat
  | 0 => empty
  | n + 1 => (ops n).apply n (tableAt ops n)

/-- The caller of this time claims, and is parked. -/
def Parks (ops : Nat → Op) (k id : Nat) : Prop :=
  ops k = .claim id ∧ ((tableAt ops k).claim k id).2 = .parked

/-- A parked caller is given its answer by the operation at the time `j`. -/
def Completes (ops : Nat → Op) (k j : Nat) (x : Except CloseReason Response) : Prop :=
  (∃ id, (tableAt ops j).place k = .parked id) ∧ (tableAt ops (j + 1)).place k = .answered x

/-- The caller was parked and is still there, without an answer. -/
structure Waits (ops : Nat → Op) (k id n : Nat) : Prop where
  before : k < n
  parks : Parks ops k id
  stays : ∀ m, k < m → m < n → ops m ≠ .leave k
  unanswered : ∀ m x, k < m → m < n → ¬ Completes ops k m x

variable {ops : Nat → Op} {n m j k id : Nat} {r : Response}
  {x : Except CloseReason Response}

/-! One operation -/

theorem tableAt_insert (h : ops n = .insert r) :
    tableAt ops (n + 1) = (tableAt ops n).insert r := by
  rw [tableAt, h, Op.apply]

theorem tableAt_claim (h : ops n = .claim id) :
    tableAt ops (n + 1) = ((tableAt ops n).claim n id).1 := by
  rw [tableAt, h, Op.apply]

theorem tableAt_close {reason : CloseReason} (h : ops n = .close reason) :
    tableAt ops (n + 1) = (tableAt ops n).close reason := by
  rw [tableAt, h, Op.apply]

theorem tableAt_leave (h : ops n = .leave k) :
    tableAt ops (n + 1) = (tableAt ops n).leave k := by
  rw [tableAt, h, Op.apply]

theorem sound_tableAt (ops : Nat → Op) (n : Nat) : (tableAt ops n).Sound := by
  induction n with
  | zero => exact sound_empty
  | succ n ih =>
    rw [tableAt]
    cases ops n with
    | insert r => exact ih.insert r
    | claim id => exact ih.claims (claims_claim _ n id)
    | close reason => exact ih.close reason
    | leave k => exact ih.leave k

/-- Where the operation at the time `n` brings a caller. -/
inductive Brings (ops : Nat → Op) (n k : Nat) : Place → Prop
  | nowhere : Brings ops n k ((tableAt ops n).place k)
  | parked {id : Nat} (now : n = k) (parks : Parks ops k id) : Brings ops n k (.parked id)
  | answered {r : Response} (parked : (tableAt ops n).place k = .parked r.id)
      (inserts : ops n = .insert r) :
    Brings ops n k (.answered (.ok r))
  | closed {id : Nat} {reason : CloseReason} (parked : (tableAt ops n).place k = .parked id)
      (closes : ops n = .close reason) :
    Brings ops n k (.answered (.error reason))
  | away (leaves : ops n = .leave k) : Brings ops n k .away

theorem brings_tableAt (ops : Nat → Op) (n k : Nat) :
    Brings ops n k ((tableAt ops (n + 1)).place k) := by
  cases h : ops n with
  | insert r =>
    rw [tableAt_insert h, place_insert]
    split
    · next hl => exact .answered (live?_eq_some_iff.1 hl).2 h
    · exact .nowhere
  | claim id =>
    have hc := claims_claim (tableAt ops n) n id
    rw [tableAt_claim h]
    generalize hx : (tableAt ops n).claim n id = x at hc
    obtain ⟨t, c⟩ := x
    cases hc with
    | parks =>
      show Brings ops n k (put _ n _ k)
      by_cases hk : k = n
      · subst hk
        rw [put_same]
        exact .parked rfl ⟨h, by rw [hx]⟩
      · rw [put_other _ _ hk]
        exact .nowhere
    | _ => exact .nowhere
  | close reason =>
    rw [tableAt_close h, place_close]
    cases hp : (tableAt ops n).place k with
    | parked id =>
      rw [(sound_tableAt ops n).isOpen hp]
      exact .closed hp h
    | _ =>
      have hb : Brings ops n k ((tableAt ops n).place k) := .nowhere
      rwa [hp] at hb
  | leave j =>
    rw [tableAt_leave h, place_leave]
    split
    · next hk => exact .away (hk ▸ h)
    · exact .nowhere

/-! Callers -/

theorem parks_of_parked (h : (tableAt ops n).place k = .parked id) : k < n ∧ Parks ops k id := by
  induction n with
  | zero => cases h
  | succ n ih =>
    have hb := brings_tableAt ops n k
    rw [h] at hb
    generalize hp : Place.parked id = p at hb
    cases hb with
    | nowhere =>
      obtain ⟨hlt, hparks⟩ := ih hp.symm
      exact ⟨by omega, hparks⟩
    | parked now parks => cases hp; exact ⟨by omega, parks⟩
    | answered => cases hp
    | closed => cases hp
    | away => cases hp

/-- Whoever is parked has been parked ever since the claim. -/
theorem parked_of_le (h : (tableAt ops n).place k = .parked id) (hk : k < m) (hm : m ≤ n) :
    (tableAt ops m).place k = .parked id := by
  induction n, hm using Nat.le_induction with
  | base => exact h
  | succ n hm ih =>
    have hb := brings_tableAt ops n k
    rw [h] at hb
    generalize hp : Place.parked id = p at hb
    cases hb with
    | nowhere => exact (ih hp.symm).trans hp
    | parked now => omega
    | answered => cases hp
    | closed => cases hp
    | away => cases hp

theorem parked_of_parks (h : Parks ops k id) : (tableAt ops (k + 1)).place k = .parked id := by
  have hc := claims_claim (tableAt ops k) k id
  rw [tableAt_claim h.1]
  rw [h.2] at hc
  generalize ((tableAt ops k).claim k id).1 = t at hc
  cases hc with
  | parks => exact put_same _ _ _

/-- Whoever has left is away for good. -/
theorem away_of_leave (hk : k < m) (h : ops m = .leave k) (hn : m < n) :
    (tableAt ops n).place k = .away := by
  induction n, Nat.succ_le_of_lt hn using Nat.le_induction with
  | base => rw [tableAt_leave h, place_leave, if_pos rfl]
  | succ n hm ih =>
    have hn := ih (by omega)
    have hb := brings_tableAt ops n k
    generalize (tableAt ops (n + 1)).place k = p at hb
    cases hb with
    | nowhere => exact hn
    | parked now => omega
    | answered parked => rw [hn] at parked; cases parked
    | closed parked => rw [hn] at parked; cases parked
    | away => rfl

theorem parked_iff_waits : (tableAt ops n).place k = .parked id ↔ Waits ops k id n := by
  constructor
  · intro h
    obtain ⟨hlt, hparks⟩ := parks_of_parked h
    refine ⟨hlt, hparks, ?_, ?_⟩
    · intro m hkm hmn hleave
      rw [away_of_leave hkm hleave hmn] at h
      cases h
    · rintro m x hkm hmn ⟨-, hx⟩
      rw [parked_of_le h (Nat.lt_succ_of_lt hkm) hmn] at hx
      cases hx
  · rintro ⟨hlt, hparks, hstays, hunanswered⟩
    induction n, Nat.succ_le_of_lt hlt using Nat.le_induction with
    | base => exact parked_of_parks hparks
    | succ n hn ih =>
      have hp := ih hn (fun m hkm hmn => hstays m hkm (by omega))
        (fun m x hkm hmn => hunanswered m x hkm (by omega))
      have hx : ∀ x, ¬ Completes ops k n x :=
        fun x => hunanswered n x hn (Nat.lt_succ_self n)
      have hb := brings_tableAt ops n k
      generalize hq : (tableAt ops (n + 1)).place k = p at hb
      cases hb with
      | nowhere => exact hp
      | parked now => omega
      | answered => exact absurd ⟨⟨_, hp⟩, hq⟩ (hx _)
      | closed => exact absurd ⟨⟨_, hp⟩, hq⟩ (hx _)
      | away leaves => exact absurd leaves (hstays n hn (Nat.lt_succ_self n))

theorem Completes.time_eq {x' : Except CloseReason Response} (h : Completes ops k j x)
    (h' : Completes ops k m x') : ¬ j < m := by
  intro hlt
  obtain ⟨⟨id, hp⟩, hx⟩ := h
  obtain ⟨⟨id', hp'⟩, -⟩ := h'
  have hk := (parks_of_parked hp).1
  rw [parked_of_le hp' (Nat.lt_succ_of_lt hk) hlt] at hx
  cases hx

/-- A caller is given one answer. -/
theorem Completes.unique {x' : Except CloseReason Response} (h : Completes ops k j x)
    (h' : Completes ops k m x') : j = m ∧ x = x' := by
  have hjm : j = m := Nat.le_antisymm (Nat.le_of_not_lt (h'.time_eq h))
    (Nat.le_of_not_lt (h.time_eq h'))
  subst hjm
  have hx := h.2.symm.trans h'.2
  exact ⟨rfl, Place.answered.inj hx⟩

/-- The answer is a response, which was inserted then, or the reason of a close. -/
theorem Completes.cause (h : Completes ops k j x) (hp : (tableAt ops j).place k = .parked id) :
    (∃ r, ops j = .insert r ∧ r.id = id ∧ x = .ok r) ∨
      ∃ reason, ops j = .close reason ∧ x = .error reason := by
  have hb := brings_tableAt ops j k
  rw [h.2] at hb
  generalize hq : Place.answered x = p at hb
  cases hb with
  | nowhere => rw [hp] at hq; cases hq
  | parked => cases hq
  | answered parked inserts =>
    rw [hp] at parked
    cases parked
    cases hq
    exact Or.inl ⟨_, inserts, rfl, rfl⟩
  | closed _ closes =>
    cases hq
    exact Or.inr ⟨_, closes, rfl⟩
  | away => cases hq

theorem completes_insert (hp : (tableAt ops j).place k = .parked r.id) (h : ops j = .insert r) :
    Completes ops k j (.ok r) := by
  refine ⟨⟨_, hp⟩, ?_⟩
  rw [tableAt_insert h, place_insert, if_pos ((sound_tableAt ops j).live hp)]

theorem completes_close {reason : CloseReason} (hp : (tableAt ops j).place k = .parked id)
    (h : ops j = .close reason) : Completes ops k j (.error reason) := by
  refine ⟨⟨_, hp⟩, ?_⟩
  rw [tableAt_close h, place_close, hp, (sound_tableAt ops j).isOpen hp]
  rfl

/-! Waiters -/

/-- No id has both a response and a waiter. -/
theorem arrived_or_waiter_eq_none (ops : Nat → Op) (n id : Nat) :
    (tableAt ops n).arrived id = none ∨ (tableAt ops n).waiter id = none := by
  induction n with
  | zero => exact Or.inl rfl
  | succ n ih =>
    cases h : ops n with
    | insert r =>
      rw [tableAt_insert h, waiter_insert, arrived_insert]
      by_cases hid : id = r.id
      · exact Or.inr (by rw [hid, put_same])
      · rw [put_other _ _ hid, if_neg (fun hc => hid hc.1)]
        exact ih
    | claim j =>
      have hc := claims_claim (tableAt ops n) n j
      rw [tableAt_claim h]
      generalize (tableAt ops n).claim n j = x at hc
      obtain ⟨t, c⟩ := x
      cases hc with
      | takes =>
        by_cases hid : id = j
        · exact Or.inl (by rw [hid]; exact put_same _ _ _)
        · exact ih.imp_left fun hnone => (put_other _ _ hid).trans hnone
      | parks absent =>
        by_cases hid : id = j
        · exact Or.inl (hid ▸ absent)
        · exact ih.imp_right fun hnone => (put_other _ _ hid).trans hnone
      | _ => exact ih
    | close reason => rw [tableAt_close h]; exact Or.inr rfl
    | leave k => rw [tableAt_leave h]; exact ih

/-- A waiter has claimed the id, and is parked for it unless it has left. -/
theorem waiter_cases (h : (tableAt ops n).waiter id = some k) : k < n ∧ Parks ops k id ∧
    ((tableAt ops n).place k = .parked id ∨ ∃ m, k < m ∧ m < n ∧ ops m = .leave k) := by
  induction n with
  | zero => cases h
  | succ n ih =>
    -- it was the waiter before, and what has been said of it then still holds
    have later : (tableAt ops n).waiter id = some k → (∀ r, ops n = .insert r → r.id ≠ id) →
        (∀ reason, ops n ≠ .close reason) → k < n + 1 ∧ Parks ops k id ∧
          ((tableAt ops (n + 1)).place k = .parked id ∨
            ∃ m, k < m ∧ m < n + 1 ∧ ops m = .leave k) := by
      intro hw hinsert hclose
      obtain ⟨hlt, hparks, hp | ⟨m, hkm, hmn, hleave⟩⟩ := ih hw
      · refine ⟨by omega, hparks, ?_⟩
        have hb := brings_tableAt ops n k
        generalize (tableAt ops (n + 1)).place k = p at hb
        cases hb with
        | nowhere => exact Or.inl hp
        | parked now => omega
        | answered parked inserts =>
          rw [hp] at parked
          cases parked
          exact absurd rfl (hinsert _ inserts)
        | closed _ closes => exact absurd closes (hclose _)
        | away leaves => exact Or.inr ⟨n, hlt, Nat.lt_succ_self n, leaves⟩
      · exact ⟨by omega, hparks, Or.inr ⟨m, hkm, by omega, hleave⟩⟩
    cases ho : ops n with
    | insert r =>
      rw [tableAt_insert ho, waiter_insert] at h
      by_cases hid : id = r.id
      · rw [hid, put_same] at h
        cases h
      · rw [put_other _ _ hid] at h
        refine later h ?_ (by simp [ho])
        rintro r' hr
        rw [ho] at hr
        cases hr
        exact Ne.symm hid
    | claim j =>
      have hc := claims_claim (tableAt ops n) n j
      rw [tableAt_claim ho] at h
      generalize hx : (tableAt ops n).claim n j = x at hc h
      obtain ⟨t, c⟩ := x
      cases hc with
      | parks =>
        by_cases hid : id = j
        · subst hid
          have hk : n = k := by simpa using h
          subst hk
          have hparks : Parks ops n id := ⟨ho, by rw [hx]⟩
          exact ⟨Nat.lt_succ_self n, hparks, Or.inl (parked_of_parks hparks)⟩
        · exact later (by simpa [hid] using h) (by simp [ho]) (by simp [ho])
      | _ => exact later h (by simp [ho]) (by simp [ho])
    | close reason =>
      rw [tableAt_close ho] at h
      cases h
    | leave m =>
      rw [tableAt_leave ho] at h
      exact later h (by simp [ho]) (by simp [ho])

/-- Whoever is given a response was the waiter of its id. -/
theorem Completes.waiter (h : Completes ops k i x) (hi : ops i = .insert r) :
    (tableAt ops i).waiter r.id = some k ∧ (tableAt ops i).place k = .parked r.id := by
  obtain ⟨id, hp⟩ := h.1
  rcases h.cause hp with ⟨r', hr', hid, -⟩ | ⟨reason, hclose, -⟩
  · rw [hi] at hr'
    cases hr'
    subst hid
    exact ⟨(sound_tableAt ops i).waits hp, hp⟩
  · rw [hi] at hclose
    cases hclose

/-- A claim that finds its response is not parked, and so gets nothing later. -/
theorem not_completes_of_ready (hk : ops k = .claim id)
    (hready : ((tableAt ops k).claim k id).2 = .ready r) : ¬ Completes ops k j x := by
  rintro ⟨⟨id', hp⟩, -⟩
  obtain ⟨hclaim, hparks⟩ := (parks_of_parked hp).2
  rw [hk] at hclaim
  cases hclaim
  rw [hready] at hparks
  cases hparks

/-- Whoever is given a response gets the first one for its id after the claim. -/
theorem Completes.first (h : Completes ops k j x) (hp : (tableAt ops j).place k = .parked id)
    (hkm : k < m) (hmj : m < j) (hm : ops m = .insert r) : r.id ≠ id := by
  rintro rfl
  have hbefore := completes_insert (parked_of_le hp hkm (Nat.le_of_lt hmj)) hm
  have hmj' := (hbefore.unique h).1
  omega

end RemoteInterpreter.Pending
