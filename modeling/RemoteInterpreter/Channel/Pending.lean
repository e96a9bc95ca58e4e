import RemoteInterpreter.Channel.Error
import RemoteInterpreter.Entries

/-!
# Pending responses

Responses and the callers that wait for them meet here in either order. A response
that comes first stays until its id is claimed; a caller that comes first is parked
until its response arrives or the table is closed. A caller may leave while it is
parked, and the response that was meant for it is then lost.
-/

namespace RemoteInterpreter

/-- Where a caller stands: nowhere, parked for an id, or with its answer. -/
inductive Place where
  | away
  | parked (id : Nat)
  | answered (answer : Except CloseReason Response)
  deriving Repr

/-- `κ` is the type of callers. Each caller stands at one place at a time. -/
structure Pending (κ : Type) where
  arrived : Nat → Option Response
  waiter : Nat → Option κ
  place : κ → Place
  closed : Option CloseReason

/-- What a claim gives at once. -/
inductive Claim where
  | ready (r : Response)
  | refused (e : ChannelError)
  | parked
  deriving Repr

namespace Pending

variable {κ : Type}

def empty : Pending κ := ⟨fun _ => none, fun _ => none, fun _ => .away, none⟩

/-- The caller that is still parked for an id. -/
def live? (t : Pending κ) (id : Nat) : Option κ :=
  match t.waiter id with
  | none => none
  | some k =>
    match t.place k with
    | .parked j => if j = id then some k else none
    | _ => none

/-- A response goes to the waiter of its id, and is kept if there is none. A waiter that has left
is forgotten, and the response with it. -/
def insert [DecidableEq κ] (r : Response) (t : Pending κ) : Pending κ :=
  match t.waiter r.id with
  | none => { t with arrived := put t.arrived r.id (some r) }
  | some _ =>
    match t.live? r.id with
    | none => { t with waiter := put t.waiter r.id none }
    | some k =>
      { t with
        waiter := put t.waiter r.id none
        place := put t.place k (.answered (.ok r)) }

/-- A response that is there is taken, also from a closed table. -/
def claim [DecidableEq κ] (k : κ) (id : Nat) (t : Pending κ) : Pending κ × Claim :=
  match t.arrived id with
  | some r => ({ t with arrived := put t.arrived id none }, .ready r)
  | none =>
    match t.closed with
    | some reason => (t, .refused (.closed reason))
    | none =>
      if (t.live? id).isSome then (t, .refused (.alreadyAwaited id))
      else
        ({ t with waiter := put t.waiter id (some k), place := put t.place k (.parked id) },
          .parked)

def answer? (t : Pending κ) (k : κ) : Option (Except CloseReason Response) :=
  match t.place k with
  | .answered answer => some answer
  | _ => none

/-- The caller leaves, with its answer or without. -/
def leave [DecidableEq κ] (k : κ) (t : Pending κ) : Pending κ :=
  { t with place := put t.place k .away }

def closePlace (reason : CloseReason) : Place → Place
  | .parked _ => .answered (.error reason)
  | place => place

/-- Everybody parked gets the reason, which is that of the first close. -/
def close (reason : CloseReason) (t : Pending κ) : Pending κ :=
  let reason := t.closed.getD reason
  { t with
    waiter := fun _ => none
    place := fun k => closePlace reason (t.place k)
    closed := some reason }

def isClosed (t : Pending κ) : Bool := t.closed.isSome

theorem live?_eq_some_iff {t : Pending κ} {id : Nat} {k : κ} :
    t.live? id = some k ↔ t.waiter id = some k ∧ t.place k = .parked id := by
  cases hw : t.waiter id with
  | none => simp [live?, hw]
  | some j =>
    cases hp : t.place j with
    | away => simp only [live?, hw, hp]; grind
    | answered answer => simp only [live?, hw, hp]; grind
    | parked i => simp only [live?, hw, hp]; grind

/-- Only a close changes whether the table is closed. -/
@[simp] theorem closed_insert [DecidableEq κ] (r : Response) (t : Pending κ) :
    (t.insert r).closed = t.closed := by
  unfold insert
  split
  · rfl
  · split <;> rfl

@[simp] theorem closed_claim [DecidableEq κ] (k : κ) (id : Nat) (t : Pending κ) :
    (t.claim k id).1.closed = t.closed := by
  unfold claim
  split
  · rfl
  · split
    · rfl
    · split <;> rfl

@[simp] theorem closed_leave [DecidableEq κ] (k : κ) (t : Pending κ) :
    (t.leave k).closed = t.closed := rfl

@[simp] theorem closed_close (reason : CloseReason) (t : Pending κ) :
    (t.close reason).closed = some (t.closed.getD reason) := rfl

@[simp] theorem arrived_close (reason : CloseReason) (t : Pending κ) :
    (t.close reason).arrived = t.arrived := rfl

/-- A response does not touch what has arrived for other ids. -/
theorem arrived_insert_of_ne [DecidableEq κ] {r : Response} {id : Nat} (h : id ≠ r.id)
    (t : Pending κ) :
    (t.insert r).arrived id = t.arrived id := by
  unfold insert
  split
  · exact put_other _ _ h
  · split <;> rfl

theorem claim_of_arrived [DecidableEq κ] {t : Pending κ} {id : Nat} {r : Response}
    (h : t.arrived id = some r) (k : κ) :
    t.claim k id = ({ t with arrived := put t.arrived id none }, .ready r) := by
  simp [claim, h]

theorem claim_of_closed [DecidableEq κ] {t : Pending κ} {id : Nat} {reason : CloseReason}
    (ha : t.arrived id = none) (hc : t.closed = some reason) (k : κ) :
    t.claim k id = (t, .refused (.closed reason)) := by
  simp [claim, ha, hc]

end Pending

end RemoteInterpreter
