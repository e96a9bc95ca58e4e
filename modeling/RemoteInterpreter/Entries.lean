import RemoteInterpreter.Text

/-!
# Tables

A finite map from text is kept as a list of entries with strictly increasing keys.
Inserting at a key that is there replaces its entry, so the last of several
insertions counts. The tables that grow while a session runs are total functions,
and `put` changes one at one place.
-/

namespace RemoteInterpreter

abbrev Entries (α : Type) := List (Text × α)

namespace Entries

variable {α β : Type}

def insert (key : Text) (value : α) : Entries α → Entries α
  | [] => [(key, value)]
  | entry :: rest =>
    if key = entry.1 then (key, value) :: rest
    else if key < entry.1 then (key, value) :: entry :: rest
    else entry :: insert key value rest

def ofList (entries : List (Text × α)) : Entries α :=
  entries.foldl (fun m entry => insert entry.1 entry.2 m) []

def find? (key : Text) : Entries α → Option α
  | [] => none
  | entry :: rest => if entry.1 = key then some entry.2 else find? key rest

def keys (m : Entries α) : List Text := m.map Prod.fst

@[simp] theorem find?_nil (key : Text) : find? key ([] : Entries α) = none := rfl

@[simp] theorem find?_insert_self (key : Text) (value : α) (m : Entries α) :
    find? key (insert key value m) = some value := by
  induction m with
  | nil => simp [insert, find?]
  | cons entry rest ih =>
    by_cases h : key = entry.1
    · simp [insert, find?, h]
    · by_cases hlt : key < entry.1 <;> simp [insert, find?, h, hlt, ih, Ne.symm h]

theorem find?_insert_of_ne {key other : Text} (h : other ≠ key) (value : α) (m : Entries α) :
    find? other (insert key value m) = find? other m := by
  induction m with
  | nil => simp [insert, find?, Ne.symm h]
  | cons entry rest ih =>
    by_cases hk : key = entry.1
    · simp [insert, find?, hk, show ¬ entry.1 = other from fun e => h (by rw [← e, hk])]
    · by_cases hlt : key < entry.1 <;> simp [insert, find?, hk, hlt, ih, Ne.symm h]

end Entries

/-! Functions as tables -/

section

variable {α β : Type} [DecidableEq α]

def put (f : α → β) (a : α) (b : β) : α → β := fun x => if x = a then b else f x

@[simp] theorem put_same (f : α → β) (a : α) (b : β) : put f a b a = b := by simp [put]

@[simp] theorem put_other (f : α → β) {a x : α} (b : β) (h : x ≠ a) : put f a b x = f x := by
  simp [put, h]

theorem put_apply (f : α → β) (a : α) (b : β) (x : α) :
    put f a b x = if x = a then b else f x := rfl

@[simp] theorem put_put (f : α → β) (a : α) (b c : β) : put (put f a b) a c = put f a c := by
  funext x
  by_cases h : x = a <;> simp [put, h]

theorem put_comm (f : α → β) {a x : α} (b c : β) (h : a ≠ x) :
    put (put f a b) x c = put (put f x c) a b := by
  funext y
  by_cases ha : y = a <;> by_cases hx : y = x <;> simp_all [put]

end

end RemoteInterpreter
