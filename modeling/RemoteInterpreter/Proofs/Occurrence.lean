import RemoteInterpreter.Proofs.Lines

/-!
# Places in arguments

An argument has parts, which have parts again. A place is the number of an argument, then the
number of one of its parts, and so on; so depth-first order is the lexicographic order of places.
What occurs can be listed in this order, and the handles and pasted texts that are collected are
those of this list.
-/

namespace RemoteInterpreter

namespace Arg

/-- What an argument is made of. Every key stands before its value. -/
def parts : Arg → List Arg
  | .list items | .tuple items => items
  | .map entries => entries.flatMap fun e => [e.1, e.2]
  | _ => []

/-- An argument occurs at a place. -/
inductive Occurs : List Arg → List Nat → Arg → Prop
  | here {args i a} (number : args[i]? = some a) : Occurs args [i] a
  | inside {args i a p b} (number : args[i]? = some a) (inside : Occurs a.parts p b) :
    Occurs args (i :: p) b

def handle? : Arg → Option Handle
  | .handle h => some h
  | _ => none

def raw? : Arg → Option Text
  | .raw source => some source
  | _ => none

variable {args : List Arg} {a b : Arg} {p q : List Nat} {h k : Handle}

theorem handle?_eq_some_iff : a.handle? = some h ↔ a = .handle h := by
  cases a <;> simp [handle?]

theorem raw?_eq_some_iff {source : Text} : a.raw? = some source ↔ a = .raw source := by
  cases a <;> simp [raw?]

/-! Induction -/

/-- Pairs in a row are no larger than the list of the pairs. -/
theorem sizeOf_flatten_entries (entries : List (Arg × Arg)) :
    sizeOf (entries.flatMap fun e => [e.1, e.2]) = sizeOf entries := by
  induction entries with
  | nil => rfl
  | cons e entries ih =>
    obtain ⟨key, value⟩ := e
    simp only [List.flatMap_cons, List.cons_append, List.nil_append, List.cons.sizeOf_spec, ih,
      Prod.mk.sizeOf_spec]
    omega

theorem sizeOf_parts_lt (a : Arg) : sizeOf a.parts < 1 + sizeOf a := by
  cases a <;> simp [parts, sizeOf_flatten_entries] <;> omega

/-- What holds of the parts of the first argument and of all other arguments holds of all. -/
@[elab_as_elim]
theorem parts_induction {P : List Arg → Prop} (nil : P [])
    (cons : ∀ a rest, P a.parts → P rest → P (a :: rest)) : ∀ args, P args
  | [] => nil
  | a :: rest => cons a rest (parts_induction nil cons a.parts) (parts_induction nil cons rest)
termination_by args => sizeOf args
decreasing_by
  · have hlt := sizeOf_parts_lt a
    rw [List.cons.sizeOf_spec]
    omega
  · rw [List.cons.sizeOf_spec]
    omega

/-! The first argument and the others -/

theorem occurs_cons_iff : Occurs (a :: args) p b ↔
    (p = [0] ∧ b = a) ∨ (∃ q, p = 0 :: q ∧ Occurs a.parts q b) ∨
      ∃ i q, p = (i + 1) :: q ∧ Occurs args (i :: q) b := by
  constructor
  · intro h
    cases h with
    | @here _ i _ number =>
      cases i with
      | zero => exact Or.inl ⟨rfl, (Option.some.inj number).symm⟩
      | succ i => exact Or.inr (Or.inr ⟨i, [], rfl, .here number⟩)
    | @inside _ i _ q _ number inside =>
      cases i with
      | zero =>
        cases number
        exact Or.inr (Or.inl ⟨q, rfl, inside⟩)
      | succ i => exact Or.inr (Or.inr ⟨i, q, rfl, .inside number inside⟩)
  · rintro (⟨rfl, rfl⟩ | ⟨q, rfl, inside⟩ | ⟨i, q, rfl, h⟩)
    · exact .here rfl
    · exact .inside rfl inside
    · cases h with
      | here number => exact .here number
      | inside number inside => exact .inside number inside

theorem not_occurs_nil : ¬ Occurs args [] b := nofun

theorem handlesOfEntries_eq (entries : List (Arg × Arg)) :
    handlesOfEntries entries = handlesOfItems (entries.flatMap fun e => [e.1, e.2]) := by
  induction entries with
  | nil => rfl
  | cons e entries ih =>
    obtain ⟨key, value⟩ := e
    simp [handlesOfEntries, handlesOfItems, ih]

theorem rawsOfEntries_eq (entries : List (Arg × Arg)) :
    rawsOfEntries entries = rawsOfItems (entries.flatMap fun e => [e.1, e.2]) := by
  induction entries with
  | nil => rfl
  | cons e entries ih =>
    obtain ⟨key, value⟩ := e
    simp [rawsOfEntries, rawsOfItems, ih]

theorem handles_eq (a : Arg) : a.handles = a.handle?.toList ++ handlesOfItems a.parts := by
  cases a with
  | map entries => exact handlesOfEntries_eq entries
  | handle h => rfl
  | _ => rfl

theorem raws_eq (a : Arg) : a.raws = a.raw?.toList ++ rawsOfItems a.parts := by
  cases a with
  | map entries => exact rawsOfEntries_eq entries
  | raw source => rfl
  | _ => rfl

/-! Everything in order -/

/-- All that occurs in the arguments, in depth-first order, each with its place. -/
structure Listing (args : List Arg) (l : List (List Nat × Arg)) : Prop where
  mem_iff : ∀ p a, (p, a) ∈ l ↔ Occurs args p a
  sorted : l.Pairwise fun x y => x.1 < y.1
  handles : handlesOfItems args = l.filterMap fun x => x.2.handle?
  raws : rawsOfItems args = l.filterMap fun x => x.2.raw?

/-- A place among the other arguments, seen from all arguments. -/
def shift : List Nat → List Nat
  | [] => []
  | i :: p => (i + 1) :: p

theorem shift_lt (h : p < q) : shift p < shift q := by
  cases q with
  | nil => exact absurd h (List.not_lt_nil p)
  | cons j q =>
    cases p with
    | nil => exact List.nil_lt_cons _ _
    | cons i p =>
      rw [shift, shift, List.cons_lt_cons_iff, Nat.succ_lt_succ_iff, Nat.succ_inj]
      exact List.cons_lt_cons_iff.1 h

/-- Every place starts with the number of an argument. -/
theorem Listing.exists_cons {l : List (List Nat × Arg)} (hl : Listing args l)
    {x : List Nat × Arg} (hx : x ∈ l) : ∃ i q, x.1 = i :: q := by
  have hplace : x.1 ≠ [] := fun h => not_occurs_nil (h ▸ (hl.mem_iff x.1 x.2).1 hx)
  exact List.exists_cons_of_ne_nil hplace

theorem Listing.cons {rest : List Arg} {l m : List (List Nat × Arg)} (hl : Listing a.parts l)
    (hm : Listing rest m) : Listing (a :: rest)
      (([0], a) :: (l.map (fun x => (0 :: x.1, x.2)) ++ m.map fun x => (shift x.1, x.2))) where
  mem_iff p b := by
    have hinside : (p, b) ∈ l.map (fun x => (0 :: x.1, x.2)) ↔
        ∃ q, p = 0 :: q ∧ Occurs a.parts q b := by
      simp only [List.mem_map, Prod.mk.injEq, Prod.exists, hl.mem_iff]
      grind
    have hothers : (p, b) ∈ m.map (fun x => (shift x.1, x.2)) ↔
        ∃ i q, p = (i + 1) :: q ∧ Occurs rest (i :: q) b := by
      simp only [List.mem_map, Prod.mk.injEq, Prod.exists, hm.mem_iff]
      constructor
      · rintro ⟨q, c, hc, rfl, rfl⟩
        cases q with
        | nil => exact absurd hc not_occurs_nil
        | cons i q => exact ⟨i, q, rfl, hc⟩
      · rintro ⟨i, q, rfl, h⟩
        exact ⟨i :: q, b, h, rfl, rfl⟩
    rw [List.mem_cons, List.mem_append, hinside, hothers, occurs_cons_iff, Prod.mk.injEq]
  sorted := by
    have hl' : (l.map fun x => (0 :: x.1, x.2)).Pairwise fun x y => x.1 < y.1 :=
      List.pairwise_map.2 (hl.sorted.imp List.cons_lt_cons_self.2)
    have hm' : (m.map fun x => (shift x.1, x.2)).Pairwise fun x y => x.1 < y.1 :=
      List.pairwise_map.2 (hm.sorted.imp shift_lt)
    -- the argument stands before its parts, and these before the other arguments
    refine List.pairwise_cons.2 ⟨fun x hx => ?_, List.pairwise_append.2 ⟨hl', hm', ?_⟩⟩
    · rcases List.mem_append.1 hx with hx | hx
      · obtain ⟨y, hy, rfl⟩ := List.mem_map.1 hx
        obtain ⟨j, q, hq⟩ := hl.exists_cons hy
        rw [hq]
        exact List.cons_lt_cons_self.2 (List.nil_lt_cons j q)
      · obtain ⟨y, hy, rfl⟩ := List.mem_map.1 hx
        obtain ⟨i, q, hq⟩ := hm.exists_cons hy
        rw [hq]
        exact List.cons_lt_cons_iff.2 (Or.inl (Nat.succ_pos i))
    · intro x hx y hy
      obtain ⟨part, -, rfl⟩ := List.mem_map.1 hx
      obtain ⟨other, hother, rfl⟩ := List.mem_map.1 hy
      obtain ⟨i, q, hq⟩ := hm.exists_cons hother
      rw [hq]
      exact List.cons_lt_cons_iff.2 (Or.inl (Nat.succ_pos i))
  handles := by
    rw [handlesOfItems, handles_eq, hl.handles, hm.handles, List.filterMap_cons,
      List.filterMap_append, List.filterMap_map, List.filterMap_map]
    cases a.handle? <;> simp
  raws := by
    rw [rawsOfItems, raws_eq, hl.raws, hm.raws, List.filterMap_cons,
      List.filterMap_append, List.filterMap_map, List.filterMap_map]
    cases a.raw? <;> simp

theorem exists_listing (args : List Arg) : ∃ l, Listing args l := by
  induction args using parts_induction with
  | nil => exact ⟨[], fun _ _ => ⟨nofun, fun h => by cases h <;> simp_all⟩, .nil, rfl, rfl⟩
  | cons a rest inside others =>
    obtain ⟨l, hl⟩ := inside
    obtain ⟨m, hm⟩ := others
    exact ⟨_, hl.cons hm⟩

theorem mem_handlesOfItems_iff : h ∈ handlesOfItems args ↔ ∃ p, Occurs args p (.handle h) := by
  obtain ⟨l, hl⟩ := exists_listing args
  simp only [hl.handles, List.mem_filterMap, Prod.exists, hl.mem_iff, handle?_eq_some_iff]
  grind

theorem mem_rawsOfItems_iff {source : Text} :
    source ∈ rawsOfItems args ↔ ∃ p, Occurs args p (.raw source) := by
  obtain ⟨l, hl⟩ := exists_listing args
  simp only [hl.raws, List.mem_filterMap, Prod.exists, hl.mem_iff, raw?_eq_some_iff]
  grind

theorem exists_handle_iff {P : Handle → Prop} :
    (∃ h ∈ handlesOfItems args, P h) ↔ ∃ p h, Occurs args p (.handle h) ∧ P h := by
  simp only [mem_handlesOfItems_iff]
  grind

theorem exists_raw_iff {P : Text → Prop} :
    (∃ source ∈ rawsOfItems args, P source) ↔
      ∃ p source, Occurs args p (.raw source) ∧ P source := by
  simp only [mem_rawsOfItems_iff]
  grind

end Arg

end RemoteInterpreter
