import Mathlib.Logic.ExistsUnique
import RemoteInterpreter.Proofs.Waiting

/-!
# The history of a table

Of each response that was inserted into a table one can tell at any later time what has
become of it: it is still there, it was handed to one caller, it was replaced, or its
waiter had given up. Of each caller that was parked one can tell what it was given.
-/

namespace RemoteInterpreter.Pending

/-- The operation concerns the response that has arrived for this id. -/
def Op.Touches (id : Nat) : Op → Prop
  | .insert r => r.id = id
  | .claim j => j = id
  | _ => False

/-- The response that was inserted at the time `i` found no waiter, and nothing has concerned it
since. -/
structure Rests (ops : Nat → Op) (i : Nat) (r : Response) (n : Nat) : Prop where
  inserts : ops i = .insert r
  before : i < n
  stored : (tableAt ops i).waiter r.id = none
  untouched : ∀ j, i < j → j < n → ¬ (ops j).Touches r.id

/-- What has become of a response. -/
inductive Fate where
  | kept
  | handed (caller : Nat)
  | replaced (time : Nat)
  | dropped
  deriving DecidableEq, Repr

/-- What has become, by the time `n`, of the response that was inserted at the time `i`. -/
inductive Becomes (ops : Nat → Op) (i : Nat) (r : Response) (n : Nat) : Fate → Prop
  | kept (rests : Rests ops i r n) (arrived : (tableAt ops n).arrived r.id = some r) :
    Becomes ops i r n .kept
  | answers {k} (claims : ops k = .claim r.id) (completes : Completes ops k i (.ok r)) :
    Becomes ops i r n (.handed k)
  | taken {k} (rests : Rests ops i r k) (before : k < n) (claims : ops k = .claim r.id)
      (ready : ((tableAt ops k).claim k r.id).2 = .ready r) :
    Becomes ops i r n (.handed k)
  | replaced {j r'} (rests : Rests ops i r j) (before : j < n) (inserts : ops j = .insert r')
      (sameId : r'.id = r.id) (arrived : (tableAt ops (j + 1)).arrived r.id = some r') :
    Becomes ops i r n (.replaced j)
  | dropped {k m} (waiter : (tableAt ops i).waiter r.id = some k) (parks : Parks ops k r.id)
      (parked : k < m) (gone : m < i) (leaves : ops m = .leave k) :
    Becomes ops i r n .dropped

variable {ops : Nat → Op} {n m i j k id : Nat} {r r' : Response}
  {x : Except CloseReason Response}

/-! Responses -/

theorem arrived_of_not_touches (h : ¬ (ops n).Touches id) :
    (tableAt ops (n + 1)).arrived id = (tableAt ops n).arrived id := by
  cases ho : ops n with
  | insert r =>
    have hid : id ≠ r.id := fun hid => h (by rw [ho]; exact hid.symm)
    rw [tableAt_insert ho, arrived_insert_of_ne hid]
  | claim j =>
    have hid : id ≠ j := fun hid => h (by rw [ho]; exact hid.symm)
    have hc := claims_claim (tableAt ops n) n j
    rw [tableAt_claim ho]
    generalize (tableAt ops n).claim n j = x at hc
    obtain ⟨t, c⟩ := x
    cases hc with
    | takes => exact put_other _ _ hid
    | _ => rfl
  | close reason => rw [tableAt_close ho, arrived_close]
  | leave k => rw [tableAt_leave ho]; rfl

theorem Rests.arrived (h : Rests ops i r n) : (tableAt ops n).arrived r.id = some r := by
  obtain ⟨hinserts, hbefore, hstored, huntouched⟩ := h
  induction n, Nat.succ_le_of_lt hbefore using Nat.le_induction with
  | base => rw [tableAt_insert hinserts, arrived_insert, if_pos ⟨rfl, hstored⟩]
  | succ n hn ih =>
    rw [arrived_of_not_touches (huntouched n hn (Nat.lt_succ_self n))]
    exact ih hn fun j hij hjn => huntouched j hij (by omega)

/-- What has arrived was inserted at some time, and nothing has concerned it since. -/
theorem rests_of_arrived (h : (tableAt ops n).arrived id = some r) :
    r.id = id ∧ ∃ i, Rests ops i r n := by
  have hid := (sound_tableAt ops n).keyed h
  subst hid
  refine ⟨rfl, ?_⟩
  induction n with
  | zero => cases h
  | succ n ih =>
    by_cases ht : (ops n).Touches r.id
    · cases ho : ops n with
      | insert r' =>
        have hid : r.id = r'.id := by rw [ho] at ht; exact ht.symm
        rw [tableAt_insert ho, arrived_insert] at h
        split at h
        · next hstored =>
          cases h
          exact ⟨n, ho, Nat.lt_succ_self n, hstored.2, fun j hnj hjn => by omega⟩
        · next hne =>
          rcases arrived_or_waiter_eq_none ops n r.id with hnone | hnone
          · rw [hnone] at h
            cases h
          · exact absurd ⟨hid, hnone⟩ hne
      | claim j =>
        have hid : j = r.id := by rw [ho] at ht; exact ht
        subst hid
        have hc := claims_claim (tableAt ops n) n r.id
        rw [tableAt_claim ho] at h
        generalize (tableAt ops n).claim n r.id = x at hc h
        obtain ⟨t, c⟩ := x
        cases hc with
        | takes => simp at h
        | finds_closed absent => rw [absent] at h; cases h
        | finds_waiter absent => rw [absent] at h; cases h
        | parks absent => rw [absent] at h; cases h
      | close reason => rw [ho] at ht; exact ht.elim
      | leave k => rw [ho] at ht; exact ht.elim
    · rw [arrived_of_not_touches ht] at h
      obtain ⟨i, hi⟩ := ih h
      refine ⟨i, hi.inserts, Nat.lt_succ_of_lt hi.before, hi.stored, ?_⟩
      intro j hij hjn
      rcases Nat.lt_succ_iff_lt_or_eq.1 hjn with hjn | rfl
      · exact hi.untouched j hij hjn
      · exact ht

theorem Rests.not_lt (h : Rests ops i r n) (hj : (ops j).Touches r.id) (hij : i < j) : n ≤ j :=
  Nat.le_of_not_lt fun hjn => h.untouched j hij hjn hj

/-- What concerns a response first is one operation. -/
theorem Rests.time_eq (h : Rests ops i r j) (hj : (ops j).Touches r.id) (h' : Rests ops i r m)
    (hm : (ops m).Touches r.id) : j = m :=
  Nat.le_antisymm (h.not_lt hm h'.before) (h'.not_lt hj h.before)

theorem touches_of_claim (h : ops k = .claim id) : (ops k).Touches id := by
  rw [h]; rfl

theorem touches_of_insert (h : ops k = .insert r) : (ops k).Touches r.id := by
  rw [h]; rfl

/-- A response in the table is still there, or was taken, or was replaced. -/
theorem becomes_of_stored (hi : ops i = .insert r) (hn : i < n)
    (hstored : (tableAt ops i).waiter r.id = none) : ∃ fate, Becomes ops i r n fate := by
  have hrests : Rests ops i r (i + 1) :=
    ⟨hi, Nat.lt_succ_self i, hstored, fun j hij hjn => by omega⟩
  -- either nothing has concerned it, or something was the first to do so
  have first : Rests ops i r n ∨ ∃ j, Rests ops i r j ∧ j < n ∧ (ops j).Touches r.id := by
    induction n, Nat.succ_le_of_lt hn using Nat.le_induction with
    | base => exact Or.inl hrests
    | succ n hin ih =>
      rcases ih hin with hrests | ⟨j, hj, hjn, htouches⟩
      · by_cases ht : (ops n).Touches r.id
        · exact Or.inr ⟨n, hrests, Nat.lt_succ_self n, ht⟩
        · refine Or.inl ⟨hi, Nat.lt_succ_of_lt hin, hstored, ?_⟩
          intro j hij hjn
          rcases Nat.lt_succ_iff_lt_or_eq.1 hjn with hjn | rfl
          · exact hrests.untouched j hij hjn
          · exact ht
      · exact Or.inr ⟨j, hj, Nat.lt_succ_of_lt hjn, htouches⟩
  rcases first with hrests | ⟨j, hj, hjn, htouches⟩
  · exact ⟨_, .kept hrests hrests.arrived⟩
  · have harrived := hj.arrived
    cases ho : ops j with
    | insert r' =>
      have hid : r'.id = r.id := by rw [ho] at htouches; exact htouches
      have hfree : (tableAt ops j).waiter r.id = none :=
        (arrived_or_waiter_eq_none ops j r.id).resolve_left (by simp [harrived])
      refine ⟨_, .replaced hj hjn ho hid ?_⟩
      rw [tableAt_insert ho, arrived_insert, if_pos ⟨hid.symm, hfree⟩]
    | claim id =>
      have hid : id = r.id := by rw [ho] at htouches; exact htouches
      subst hid
      exact ⟨_, .taken hj hjn ho (by rw [claim_of_arrived harrived])⟩
    | close reason => rw [ho] at htouches; exact htouches.elim
    | leave k => rw [ho] at htouches; exact htouches.elim

theorem exists_becomes (hi : ops i = .insert r) (hn : i < n) : ∃ fate, Becomes ops i r n fate := by
  cases hw : (tableAt ops i).waiter r.id with
  | none => exact becomes_of_stored hi hn hw
  | some k =>
    obtain ⟨-, hparks, hp | ⟨m, hkm, hmi, hleave⟩⟩ := waiter_cases hw
    · exact ⟨_, .answers hparks.1 (completes_insert hp hi)⟩
    · exact ⟨_, .dropped hw hparks hkm hmi hleave⟩

/-- A response that found a waiter was never in the table. -/
theorem Rests.not_completes (h : Rests ops i r n) : ¬ Completes ops k i x := by
  intro hc
  have hw := (hc.waiter h.inserts).1
  rw [h.stored] at hw
  cases hw

theorem Becomes.unique (hi : ops i = .insert r) {fate fate' : Fate} (h : Becomes ops i r n fate)
    (h' : Becomes ops i r n fate') : fate = fate' := by
  -- whatever concerned the response first has decided, and before `n`
  have absurdly : ∀ {j}, Rests ops i r n → Rests ops i r j → j < n → ¬ (ops j).Touches r.id :=
    fun hn hj hjn => hn.untouched _ hj.before hjn
  have waited : ∀ {j k}, Rests ops i r j → (tableAt ops i).waiter r.id ≠ some k :=
    fun hj hw => by rw [hj.stored] at hw; cases hw
  have left : ∀ {k k' m}, Completes ops k i (.ok r) → (tableAt ops i).waiter r.id = some k' →
      k' < m → m < i → ops m ≠ .leave k' := by
    intro k k' m hc hw hkm hmi hleave
    obtain ⟨hw', hp⟩ := hc.waiter hi
    cases hw.symm.trans hw'
    rw [away_of_leave hkm hleave hmi] at hp
    cases hp
  cases h with
  | kept rests =>
    cases h' with
    | kept => rfl
    | answers _ completes => exact absurd completes rests.not_completes
    | taken rests' before claims =>
      exact absurd (touches_of_claim claims) (absurdly rests rests' before)
    | replaced rests' before inserts sameId =>
      exact absurd (sameId ▸ touches_of_insert inserts) (absurdly rests rests' before)
    | dropped waiter => exact absurd waiter (waited rests)
  | answers _ completes =>
    cases h' with
    | kept rests' => exact absurd completes rests'.not_completes
    | answers _ completes' =>
      have hw := (completes.waiter hi).1.symm.trans (completes'.waiter hi).1
      rw [Option.some.inj hw]
    | taken rests' => exact absurd completes rests'.not_completes
    | replaced rests' => exact absurd completes rests'.not_completes
    | dropped waiter _ parked gone leaves =>
      exact absurd leaves (left completes waiter parked gone)
  | taken rests before claims =>
    cases h' with
    | kept rests' => exact absurd (touches_of_claim claims) (absurdly rests' rests before)
    | answers _ completes' => exact absurd completes' rests.not_completes
    | taken rests' _ claims' =>
      rw [rests.time_eq (touches_of_claim claims) rests' (touches_of_claim claims')]
    | replaced rests' _ inserts' sameId' =>
      cases rests.time_eq (touches_of_claim claims) rests' (sameId' ▸ touches_of_insert inserts')
      rw [claims] at inserts'
      cases inserts'
    | dropped waiter => exact absurd waiter (waited rests)
  | replaced rests before inserts sameId =>
    have touches := sameId ▸ touches_of_insert inserts
    cases h' with
    | kept rests' => exact absurd touches (absurdly rests' rests before)
    | answers _ completes' => exact absurd completes' rests.not_completes
    | taken rests' _ claims' =>
      cases rests.time_eq touches rests' (touches_of_claim claims')
      rw [claims'] at inserts
      cases inserts
    | replaced rests' _ inserts' sameId' =>
      rw [rests.time_eq touches rests' (sameId' ▸ touches_of_insert inserts')]
    | dropped waiter => exact absurd waiter (waited rests)
  | dropped waiter _ parked gone leaves =>
    cases h' with
    | kept rests' => exact absurd waiter (waited rests')
    | answers _ completes' => exact absurd leaves (left completes' waiter parked gone)
    | taken rests' => exact absurd waiter (waited rests')
    | replaced rests' => exact absurd waiter (waited rests')
    | dropped => rfl

theorem Rests.eq_of_id (h : Rests ops i r n) (h' : Rests ops j r' n) (hid : r.id = r'.id) :
    i = j := by
  have not_before : ∀ {i j r r'}, Rests ops i r n → Rests ops j r' n → r.id = r'.id → ¬ i < j := by
    intro i j r r' h h' hid hij
    exact h.untouched j hij h'.before (hid ▸ touches_of_insert h'.inserts)
  have hij := not_before h h' hid
  have hji := not_before h' h hid.symm
  omega

/-- No claim is handed two responses. -/
theorem Becomes.time_eq (h : Becomes ops i r n (.handed k)) (h' : Becomes ops j r' n (.handed k)) :
    i = j := by
  cases h with
  | answers _ completes =>
    cases h' with
    | answers _ completes' => exact (completes.unique completes').1
    | taken _ _ claims' ready' => exact absurd completes (not_completes_of_ready claims' ready')
  | taken rests _ claims ready =>
    cases h' with
    | answers _ completes' => exact absurd completes' (not_completes_of_ready claims ready)
    | taken rests' _ claims' =>
      rw [claims] at claims'
      exact rests.eq_of_id rests' (Op.claim.inj claims')

/-! The whole picture -/

theorem claim_eq_alreadyAwaited_iff {κ : Type} [DecidableEq κ] {t : Pending κ} {c : κ} :
    (t.claim c id).2 = .refused (.alreadyAwaited id) ↔
      t.closed = none ∧ t.arrived id = none ∧ ∃ d, t.live? id = some d := by
  constructor
  · intro h
    have hc := claims_claim t c id
    rw [h] at hc
    generalize (t.claim c id).1 = t' at hc
    cases hc with
    | finds_waiter absent isOpen live => exact ⟨isOpen, absent, _, live⟩
  · rintro ⟨hopen, habsent, d, hlive⟩
    simp [claim, habsent, hopen, hlive]

/-- In every history of a table no id has both a response and a waiter; of every response that was
inserted exactly one thing has become, and no claim is handed two of them; whoever is parked is
given one answer at most, which is the first response for its id or the reason of a close; and a
claim is turned away as a second one exactly if the table is open, no response has arrived, and an
earlier caller still waits. -/
theorem responses_are_conserved (ops : Nat → Op) :
    (∀ n id, (tableAt ops n).arrived id = none ∨ (tableAt ops n).waiter id = none) ∧
    (∀ i r n, ops i = .insert r → i < n → ∃! fate, Becomes ops i r n fate) ∧
    (∀ i r j r' n k, Becomes ops i r n (.handed k) → Becomes ops j r' n (.handed k) → i = j) ∧
    (∀ n id r, (tableAt ops n).arrived id = some r → r.id = id ∧ ∃ i, Becomes ops i r n .kept) ∧
    (∀ k id, Parks ops k id →
      (∀ j x, Completes ops k j x →
        (∀ j' x', Completes ops k j' x' → j' = j ∧ x' = x) ∧
        ((∃ r, ops j = .insert r ∧ r.id = id ∧ x = .ok r ∧
            ∀ m r', k < m → m < j → ops m = .insert r' → r'.id ≠ id) ∨
          ∃ reason, ops j = .close reason ∧ x = .error reason)) ∧
      ∀ j, Waits ops k id j →
        (∀ r, ops j = .insert r → r.id = id → Completes ops k j (.ok r)) ∧
        ∀ reason, ops j = .close reason → Completes ops k j (.error reason)) ∧
    (∀ n id, ((tableAt ops n).claim n id).2 = .refused (.alreadyAwaited id) ↔
      (tableAt ops n).closed = none ∧ (tableAt ops n).arrived id = none ∧
        ∃ k, Waits ops k id n) := by
  refine ⟨arrived_or_waiter_eq_none ops, ?_, ?_, ?_, ?_, ?_⟩
  · intro i r n hi hn
    obtain ⟨fate, hfate⟩ := exists_becomes hi hn
    exact ⟨fate, hfate, fun fate' hfate' => hfate'.unique hi hfate⟩
  · intro i r j r' n k h h'
    exact h.time_eq h'
  · intro n id r h
    obtain ⟨rfl, i, hi⟩ := rests_of_arrived h
    exact ⟨rfl, i, .kept hi h⟩
  · intro k id hparks
    refine ⟨fun j x h => ⟨fun j' x' h' => h'.unique h, ?_⟩, fun j hw => ⟨?_, ?_⟩⟩
    · obtain ⟨id', hp⟩ := h.1
      have hid : id = id' := Op.claim.inj (hparks.1.symm.trans (parks_of_parked hp).2.1)
      subst hid
      refine (h.cause hp).imp_left ?_
      rintro ⟨r, hr, hrid, hx⟩
      exact ⟨r, hr, hrid, hx, fun m r' hkm hmj hm => h.first hp hkm hmj hm⟩
    · rintro r hr rfl
      exact completes_insert (parked_iff_waits.2 hw) hr
    · intro reason hclose
      exact completes_close (parked_iff_waits.2 hw) hclose
  · intro n id
    rw [claim_eq_alreadyAwaited_iff]
    refine and_congr_right fun _ => and_congr_right fun _ => ⟨?_, ?_⟩
    · rintro ⟨k, hlive⟩
      exact ⟨k, parked_iff_waits.1 (live?_eq_some_iff.1 hlive).2⟩
    · rintro ⟨k, hw⟩
      exact ⟨k, (sound_tableAt ops n).live (parked_iff_waits.2 hw)⟩

/-- A caller is parked and gives up, and its response is lost. Of the next two the later one is
taken, and then two callers want a third. -/
def abandonedOps : Nat → Op
  | 0 => .claim 7
  | 1 => .leave 0
  | 2 => .insert ⟨7, .pass, ['a']⟩
  | 3 => .insert ⟨7, .pass, ['b']⟩
  | 4 => .insert ⟨7, .fail, ['c']⟩
  | 5 => .claim 7
  | 6 => .claim 7
  | 7 => .claim 7
  | _ => .close .killed

theorem responses_are_conserved_abandoned :
    (∃! fate, Becomes abandonedOps 2 ⟨7, .pass, ['a']⟩ 8 fate) ∧
    ((tableAt abandonedOps 7).claim 7 7).2 = .refused (.alreadyAwaited 7) ∧
    ∃ k, Waits abandonedOps k 7 7 := by
  obtain ⟨-, hfate, -, -, -, hawaited⟩ := responses_are_conserved abandonedOps
  have hrefused : ((tableAt abandonedOps 7).claim 7 7).2 = .refused (.alreadyAwaited 7) := rfl
  exact ⟨hfate 2 _ 8 rfl (by decide), hrefused, ((hawaited 7 7).1 hrefused).2.2⟩

end RemoteInterpreter.Pending
