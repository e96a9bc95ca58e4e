import RemoteInterpreter.Proofs.Correlation
import RemoteInterpreter.Proofs.Refusal
import RemoteInterpreter.Proofs.TemplateGrammar

/-!
# Filling templates

The arguments fit a template or they do not, and this depends on nothing but the slots and how
many arguments there are, or which names they have. Where they fit, the text is the template with
every slot replaced by the argument that it refers to. What an argument is written as is not read
again, whatever braces it holds.
-/

namespace RemoteInterpreter

/-- The number of automatic slots, once this one has been passed. -/
def Slot.after : Slot → Nat → Nat
  | .next, k => k + 1
  | _, k => k

namespace Template

/-- The argument that a slot refers to, behind `k` automatic slots. -/
inductive ByPosition (args : List Arg) (k : Nat) : Slot → Arg → Prop
  | next {a} (place : args[k]? = some a) : ByPosition args k .next a
  | index {i a} (place : args[i]? = some a) : ByPosition args k (.index i) a

/-- The last argument of a name counts. -/
inductive ByName (args : List (Text × Arg)) (k : Nat) : Slot → Arg → Prop
  | name {before n a after} (split : args = before ++ (n, a) :: after)
      (last : ∀ b ∈ after, b.1 ≠ n) : ByName args k (.name n) a

/-- As many automatic slots as arguments, or numbered slots for every argument and for no other. -/
def FitsPositions (t : Template) (count : Nat) : Prop :=
  (∀ n, .name n ∉ t.slots) ∧
    ((∀ s ∈ t.slots, s = .next) ∧ t.slots.length = count ∨
      (∀ s ∈ t.slots, ∃ i, s = .index i) ∧ ∀ i, .index i ∈ t.slots ↔ i < count)

/-- Named slots for all names that the arguments have, and for no other. -/
def FitsNames (t : Template) (names : List Text) : Prop :=
  (∀ s ∈ t.slots, ∃ n, s = .name n) ∧ ∀ n, .name n ∈ t.slots ↔ n ∈ names

section

variable (refers : Nat → Slot → Arg → Prop)

/-- What a template becomes behind `k` automatic slots, read from the left: doubled braces stand
for braces, and a slot for the argument that it refers to. -/
inductive Filled : Nat → Text → Text → Prop
  | empty {k} : Filled k [] []
  | plain {k c rest u} (plain : c ≠ '\x7b' ∧ c ≠ '\x7d') (filled : Filled k rest u) :
    Filled k (c :: rest) (c :: u)
  | doubled {k c rest u} (brace : c = '\x7b' ∨ c = '\x7d') (filled : Filled k rest u) :
    Filled k (c :: c :: rest) (c :: u)
  | slot {k inside s a rest u} (opens : inside.head? ≠ some '\x7b') (closes : '\x7d' ∉ inside)
      (reads : Slot.Spelled inside s) (takes : refers k s a) (filled : Filled (s.after k) rest u) :
    Filled k ('\x7b' :: (inside ++ '\x7d' :: rest)) (a.render ++ u)

/-- One argument for every slot, the one that it refers to. -/
inductive Takes : Nat → List Slot → List Arg → Prop
  | nil {k} : Takes k [] []
  | cons {k s a slots args} (takes : refers k s a) (rest : Takes (s.after k) slots args) :
    Takes k (s :: slots) (a :: args)

end

variable {refers : Nat → Slot → Arg → Prop} {text u : Text} {t : Template} {k : Nat}
variable {slots : List Slot}

/-! The text -/

theorem interleave_push (c : Char) (t : Template) (args : List Arg) :
    Expression.interleave (t.push c).fragments args =
      c :: Expression.interleave t.fragments args := by
  cases args <;> rfl

/-- A text is filled by reading its template and putting an argument behind every fragment. -/
theorem filled_iff : Filled refers k text u ↔ ∃ t args,
    Spelled text t ∧ Takes refers k t.slots args ∧ u = Expression.interleave t.fragments args := by
  -- both relations read the text from the left, so each is followed by induction on the other
  constructor
  · intro h
    induction h with
    | empty => exact ⟨_, _, .empty, .nil, rfl⟩
    | plain hc _ ih =>
      obtain ⟨t, args, spelled, takes, rfl⟩ := ih
      exact ⟨_, args, .plain hc spelled, takes, (interleave_push _ t args).symm⟩
    | doubled hc _ ih =>
      obtain ⟨t, args, spelled, takes, rfl⟩ := ih
      exact ⟨_, args, .doubled hc spelled, takes, (interleave_push _ t args).symm⟩
    | slot opens closes reads hs _ ih =>
      obtain ⟨t, args, spelled, takes, rfl⟩ := ih
      exact ⟨_, _, .slot opens closes reads spelled, .cons hs takes, rfl⟩
  · rintro ⟨t, args, spelled, takes, rfl⟩
    induction spelled generalizing k args with
    | empty => cases takes; exact .empty
    | plain hc _ ih =>
      rw [interleave_push]
      exact .plain hc (ih args takes)
    | doubled hc _ ih =>
      rw [interleave_push]
      exact .doubled hc (ih args takes)
    | slot opens closes reads _ ih =>
      cases takes with
      | cons hs takes => exact .slot opens closes reads hs (ih _ takes)

theorem Takes.unique (hrefers : ∀ k s a b, refers k s a → refers k s b → a = b)
    {args args' : List Arg} (h : Takes refers k slots args) (h' : Takes refers k slots args') :
    args = args' := by
  induction h generalizing args' with
  | nil => cases h'; rfl
  | cons takes _ ih =>
    cases h' with
    | cons takes' rest' => rw [hrefers _ _ _ _ takes takes', ih rest']

/-- There is one filled text, if every slot refers to one argument. -/
theorem filled_iff_eq (hrefers : ∀ k s a b, refers k s a → refers k s b → a = b)
    (accepted : parse text = .ok t) {args : List Arg} (takes : Takes refers k t.slots args) :
    Filled refers k text u ↔ u = Expression.interleave t.fragments args := by
  rw [filled_iff]
  constructor
  · rintro ⟨t', args', spelled, takes', rfl⟩
    cases accepted.symm.trans (parse_eq_ok_iff.2 spelled)
    rw [takes.unique hrefers takes']
  · rintro rfl
    exact ⟨t, args, parse_eq_ok_iff.1 accepted, takes, rfl⟩

/-! By position -/

theorem ByPosition.unique {args : List Arg} {s : Slot} {a b : Arg} (h : ByPosition args k s a)
    (h' : ByPosition args k s b) : a = b := by
  cases h with
  | next place => cases h' with | next place' => exact Option.some.inj (place.symm.trans place')
  | index place => cases h' with | index place' => exact Option.some.inj (place.symm.trans place')

/-- The places of the arguments that the slots refer to, behind `k` automatic ones. -/
def places : Nat → List Slot → List Nat
  | _, [] => []
  | k, .next :: rest => k :: places (k + 1) rest
  | k, .index i :: rest => i :: places k rest
  | k, .name _ :: rest => places k rest

theorem mem_places_of_next (h : ∀ s ∈ slots, s = .next) {i : Nat} :
    i ∈ places k slots ↔ k ≤ i ∧ i < k + slots.length := by
  induction slots generalizing k with
  | nil => simp [places]
  | cons s slots ih =>
    obtain ⟨rfl, hslots⟩ := List.forall_mem_cons.1 h
    simp only [places, List.mem_cons, ih hslots, List.length_cons]
    omega

theorem mem_places_of_index (h : ∀ s ∈ slots, ∃ i, s = .index i) {i : Nat} :
    i ∈ places k slots ↔ .index i ∈ slots := by
  induction slots with
  | nil => simp [places]
  | cons s slots ih =>
    obtain ⟨⟨j, rfl⟩, hslots⟩ := List.forall_mem_cons.1 h
    simp [places, ih hslots]

/-- What the slots take, they take from the places to which they refer. -/
theorem takes_of_pick {args : List Arg} {picked : List (Nat × Arg)}
    (h : pick args k slots = .ok picked) :
    picked.map Prod.fst = places k slots ∧
      Takes (ByPosition args) k slots (picked.map Prod.snd) := by
  fun_induction pick args k slots generalizing picked with
  | case1 => cases h; exact ⟨rfl, .nil⟩
  | case2 => cases h
  | case3 => cases h
  | case4 next rest arg place ih =>
    obtain ⟨tail, htail, rfl⟩ := map_eq_ok_iff.1 h
    obtain ⟨hplaces, takes⟩ := ih htail
    exact ⟨congrArg (next :: ·) hplaces, .cons (.next place) takes⟩
  | case5 => cases h
  | case6 next i rest arg place ih =>
    obtain ⟨tail, htail, rfl⟩ := map_eq_ok_iff.1 h
    obtain ⟨hplaces, takes⟩ := ih htail
    exact ⟨congrArg (i :: ·) hplaces, .cons (.index place) takes⟩

theorem exists_pick_iff {args : List Arg} : (∃ picked, pick args k slots = .ok picked) ↔
    (∀ n, .name n ∉ slots) ∧ ∀ i ∈ places k slots, i < args.length := by
  fun_induction pick args k slots with
  | case1 => simp [places]
  | case2 next n rest =>
    exact iff_of_false (by simp) fun h => h.1 n List.mem_cons_self
  | case3 next rest outside =>
    have hle := List.getElem?_eq_none_iff.1 outside
    exact iff_of_false (by simp) fun h => Nat.not_lt.2 hle (h.2 next List.mem_cons_self)
  | case4 next rest arg place ih =>
    have hlt := (List.getElem?_eq_some_iff.1 place).1
    simp [exists_map_eq_ok_iff, ih, places, hlt]
  | case5 next i rest outside =>
    have hle := List.getElem?_eq_none_iff.1 outside
    exact iff_of_false (by simp) fun h => Nat.not_lt.2 hle (h.2 i List.mem_cons_self)
  | case6 next i rest arg place ih =>
    have hlt := (List.getElem?_eq_some_iff.1 place).1
    simp [exists_map_eq_ok_iff, ih, places, hlt]

theorem takes_of_fill {args filled : List Arg} (h : t.fill args = .ok filled) :
    Takes (ByPosition args) 0 t.slots filled := by
  unfold fill at h
  split at h
  · cases h
  · split at h
    · cases h
    · next picked hpicked =>
      split at h
      · cases h
      · cases h
        exact (takes_of_pick hpicked).2

/-- Filling looks at the arguments' places only. -/
theorem exists_fill_iff {args : List Arg} : (∃ filled, t.fill args = .ok filled) ↔
    ¬ (.next ∈ t.slots ∧ ∃ i, .index i ∈ t.slots) ∧ (∀ n, .name n ∉ t.slots) ∧
      ∀ i, i ∈ places 0 t.slots ↔ i < args.length := by
  have hindex : t.slots.any isIndex = true ↔ ∃ i, .index i ∈ t.slots := by
    rw [List.any_eq_true]
    constructor
    · rintro ⟨s, hs, hi⟩
      cases s with
      | index i => exact ⟨i, hs⟩
      | _ => cases hi
    · rintro ⟨i, hi⟩
      exact ⟨_, hi, rfl⟩
  have hcondition : (t.slots.contains .next && t.slots.any isIndex) = true ↔
      .next ∈ t.slots ∧ ∃ i, .index i ∈ t.slots := by
    rw [Bool.and_eq_true, List.contains_iff_mem, hindex]
  unfold fill
  split
  · next hmixed => exact ⟨nofun, fun h => absurd (hcondition.1 hmixed) h.1⟩
  · next hmixed =>
    rw [hcondition] at hmixed
    cases hpick : pick args 0 t.slots with
    | error e =>
      refine ⟨nofun, fun h => ?_⟩
      obtain ⟨picked, hpicked⟩ := exists_pick_iff.2 ⟨h.2.1, fun i hi => (h.2.2 i).1 hi⟩
      cases hpick.symm.trans hpicked
    | ok picked =>
      obtain ⟨hnames, hinside⟩ := exists_pick_iff.1 ⟨picked, hpick⟩
      dsimp only
      rw [(takes_of_pick hpick).1]
      split
      · next i hunused =>
        have hi := List.mem_range.1 (List.mem_of_find?_eq_some hunused)
        have hnot : i ∉ places 0 t.slots := by simpa using List.find?_some hunused
        exact ⟨nofun, fun h => absurd ((h.2.2 i).2 hi) hnot⟩
      · next hused =>
        have hall : ∀ i < args.length, i ∈ places 0 t.slots := by
          simpa using List.find?_eq_none.1 hused
        exact ⟨fun _ => ⟨hmixed, hnames, fun i => ⟨hinside i, hall i⟩⟩, fun _ => ⟨_, rfl⟩⟩

/-- Arguments are filled in by position exactly if they fit. -/
theorem fill_iff_fits {args : List Arg} :
    (∃ filled, t.fill args = .ok filled) ↔ t.FitsPositions args.length := by
  rw [exists_fill_iff]
  constructor
  · rintro ⟨hmixed, hnames, hplaces⟩
    refine ⟨hnames, ?_⟩
    by_cases hnext : .next ∈ t.slots
    · have hall : ∀ s ∈ t.slots, s = .next := by
        intro s hs
        cases s with
        | next => rfl
        | index i => exact absurd ⟨hnext, i, hs⟩ hmixed
        | name n => exact absurd hs (hnames n)
      simp only [mem_places_of_next hall] at hplaces
      -- as many places are taken as there are slots, and these are all that there are
      have hlast := hplaces args.length
      have hfirst := hplaces t.slots.length
      exact Or.inl ⟨hall, by omega⟩
    · have hall : ∀ s ∈ t.slots, ∃ i, s = .index i := by
        intro s hs
        cases s with
        | next => exact absurd hs hnext
        | index i => exact ⟨i, rfl⟩
        | name n => exact absurd hs (hnames n)
      simp only [mem_places_of_index hall] at hplaces
      exact Or.inr ⟨hall, hplaces⟩
  · rintro ⟨hnames, ⟨hall, hlength⟩ | ⟨hall, hplaces⟩⟩
    · refine ⟨fun ⟨_, i, hi⟩ => (nomatch hall _ hi), hnames, fun i => ?_⟩
      rw [mem_places_of_next hall]
      omega
    · refine ⟨fun ⟨hnext, _⟩ => ?_, hnames, fun i => ?_⟩
      · obtain ⟨i, hi⟩ := hall _ hnext
        cases hi
      · rw [mem_places_of_index hall]
        exact hplaces i

/-! By name -/

theorem named?_eq_some_iff {args : List (Text × Arg)} {n : Text} {a : Arg} :
    named? args n = some a ↔ ByName args k (.name n) a := by
  have hfind : named? args n = some a ↔
      args.reverse.find? (fun b => b.1 == n) = some (n, a) := by
    rw [named?, Option.map_eq_some_iff]
    constructor
    · rintro ⟨⟨m, b⟩, hb, rfl⟩
      obtain rfl : m = n := by simpa using List.find?_some hb
      exact hb
    · exact fun h => ⟨_, h, rfl⟩
  rw [hfind, List.find?_eq_some_iff_append]
  constructor
  · rintro ⟨-, after, before, hsplit, hlast⟩
    have hargs : args = before.reverse ++ (n, a) :: after.reverse := by
      rw [← List.reverse_reverse args, hsplit]
      simp
    exact .name hargs (by simpa using hlast)
  · rintro ⟨rfl, last⟩
    rename_i before after
    exact ⟨by simp, after.reverse, before.reverse, by simp, by simpa using last⟩

theorem ByName.unique {args : List (Text × Arg)} {s : Slot} {a b : Arg} (h : ByName args k s a)
    (h' : ByName args k s b) : a = b := by
  cases s with
  | name n =>
    exact Option.some.inj ((named?_eq_some_iff.2 h).symm.trans (named?_eq_some_iff.2 h'))
  | _ => cases h

theorem named?_eq_none_iff {args : List (Text × Arg)} {n : Text} :
    named? args n = none ↔ n ∉ args.map Prod.fst := by
  simp only [named?, Option.map_eq_none_iff, List.find?_eq_none, List.mem_reverse, beq_iff_eq,
    List.mem_map, not_exists, not_and]

theorem takes_of_pickNamed {args : List (Text × Arg)} {filled : List Arg}
    (h : pickNamed args slots = .ok filled) : Takes (ByName args) k slots filled := by
  fun_induction pickNamed args slots generalizing filled with
  | case1 => cases h; exact .nil
  | case2 => cases h
  | case3 n rest found hfound ih =>
    obtain ⟨tail, htail, rfl⟩ := map_eq_ok_iff.1 h
    exact .cons (named?_eq_some_iff.1 hfound) (ih htail)
  | case4 => cases h

theorem exists_pickNamed_iff {args : List (Text × Arg)} :
    (∃ filled, pickNamed args slots = .ok filled) ↔
      ∀ s ∈ slots, ∃ n ∈ args.map Prod.fst, s = .name n := by
  fun_induction pickNamed args slots with
  | case1 => simp
  | case2 n rest hnone =>
    refine iff_of_false (by simp) fun h => ?_
    obtain ⟨m, hm, heq⟩ := h _ List.mem_cons_self
    cases heq
    exact absurd hm (named?_eq_none_iff.1 hnone)
  | case3 n rest found hfound ih =>
    have hn : n ∈ args.map Prod.fst := by
      by_contra hnot
      rw [named?_eq_none_iff.2 hnot] at hfound
      cases hfound
    refine (exists_map_eq_ok_iff.trans ih).trans
      ⟨fun h => ?_, fun h => (List.forall_mem_cons.1 h).2⟩
    exact List.forall_mem_cons.2 ⟨⟨n, hn, rfl⟩, h⟩
  | case4 s rest hs =>
    refine iff_of_false (by simp) fun h => ?_
    obtain ⟨n, -, heq⟩ := h _ List.mem_cons_self
    exact absurd heq (hs n)

theorem takes_of_fillNamed {args : List (Text × Arg)} {filled : List Arg}
    (h : t.fillNamed args = .ok filled) : Takes (ByName args) 0 t.slots filled := by
  unfold fillNamed at h
  split at h
  · cases h
  · next picked hpicked =>
    split at h
    · cases h
    · cases h
      exact takes_of_pickNamed hpicked

/-- Arguments are filled in by name exactly if they fit. -/
theorem fillNamed_iff_fits {args : List (Text × Arg)} :
    (∃ filled, t.fillNamed args = .ok filled) ↔ t.FitsNames (args.map Prod.fst) := by
  unfold fillNamed
  cases hpick : pickNamed args t.slots with
  | error e =>
    refine ⟨nofun, fun h => ?_⟩
    have hall : ∀ s ∈ t.slots, ∃ n ∈ args.map Prod.fst, s = .name n := by
      intro s hs
      obtain ⟨n, rfl⟩ := h.1 s hs
      exact ⟨n, (h.2 n).1 hs, rfl⟩
    obtain ⟨filled, hfilled⟩ := exists_pickNamed_iff.2 hall
    cases hpick.symm.trans hfilled
  | ok picked =>
    have hall := exists_pickNamed_iff.1 ⟨picked, hpick⟩
    dsimp only
    split
    · next entry hunused =>
      have hentry := List.mem_map_of_mem (f := Prod.fst) (List.mem_of_find?_eq_some hunused)
      have hnot : .name entry.1 ∉ t.slots := by simpa using List.find?_some hunused
      exact ⟨nofun, fun h => absurd ((h.2 _).2 hentry) hnot⟩
    · next hused =>
      have hnamed : ∀ n ∈ args.map Prod.fst, .name n ∈ t.slots := by
        simpa using List.find?_eq_none.1 hused
      refine ⟨fun _ => ⟨fun s hs => ?_, fun n => ⟨fun hn => ?_, hnamed n⟩⟩, fun _ => ⟨_, rfl⟩⟩
      · obtain ⟨n, -, heq⟩ := hall s hs
        exact ⟨n, heq⟩
      · obtain ⟨m, hm, heq⟩ := hall _ hn
        cases heq
        exact hm

/-! What comes of a template -/

/-- The draft of a template that was accepted. -/
inductive Drafts (refers : Nat → Slot → Arg → Prop) (fits : Prop) (text : Text) :
    Except UsageError Draft → Prop
  | misfits (e) (unsuited : ¬ fits) : Drafts refers fits text (.error (.template e))
  | fills {d} (suited : fits) (balanced : d.Balanced)
      (filled : ∀ u, Filled refers 0 text u ↔ u = Expression.interleave d.fragments d.args) :
    Drafts refers fits text (.ok d)

variable {fits : Prop}

theorem drafts_of_takes (hrefers : ∀ k s a b, refers k s a → refers k s b → a = b)
    (accepted : parse text = .ok t) (hfits : fits) {args : List Arg}
    (takes : Takes refers 0 t.slots args) (hlength : args.length = t.slots.length) :
    Drafts refers fits text (.ok ⟨t.fragments, args⟩) :=
  .fills hfits (by rw [Draft.Balanced, length_fragments, hlength])
    fun _ => filled_iff_eq hrefers accepted takes

theorem drafts_draft (accepted : parse text = .ok t) (args : List Arg) :
    Drafts (ByPosition args) (t.FitsPositions args.length) text (draft text args) := by
  have hfits : (∃ filled, t.fill args = .ok filled) ↔ t.FitsPositions args.length := fill_iff_fits
  rw [draft, accepted]
  dsimp only
  cases hfill : t.fill args with
  | error e => exact .misfits e fun h => by simpa [hfill] using hfits.2 h
  | ok filled =>
    have hunique : ∀ k s a b, ByPosition args k s a → ByPosition args k s b → a = b :=
      fun _ _ _ _ => ByPosition.unique
    exact drafts_of_takes hunique accepted (hfits.1 ⟨_, hfill⟩) (takes_of_fill hfill)
      (fill_spec hfill).1

theorem drafts_namedDraft (accepted : parse text = .ok t) (args : List (Text × Arg)) :
    Drafts (ByName args) (t.FitsNames (args.map Prod.fst)) text (namedDraft text args) := by
  have hfits : (∃ filled, t.fillNamed args = .ok filled) ↔ t.FitsNames (args.map Prod.fst) :=
    fillNamed_iff_fits
  rw [namedDraft, accepted]
  dsimp only
  cases hfill : t.fillNamed args with
  | error e => exact .misfits e fun h => by simpa [hfill] using hfits.2 h
  | ok filled =>
    have hunique : ∀ k s a b, ByName args k s a → ByName args k s b → a = b :=
      fun _ _ _ _ => ByName.unique
    exact drafts_of_takes hunique accepted (hfits.1 ⟨_, hfill⟩) (takes_of_fillNamed hfill)
      (fillNamed_spec hfill).1

/-- An operation on a template. It is refused for the template exactly if the arguments do not
fit, and else for a handle of another session or a line end at most. What it gives is the filled
template behind this lead, and a template is filled in one way. -/
structure Fills (refers : Nat → Slot → Arg → Prop) (fits : Prop) (text lead : Text)
    (fails : UsageError → Prop) (gives : Text → Prop) : Prop where
  refused : (∃ e, fails (.template e)) ↔ ¬ fits
  otherwise : ∀ e, fails e → fits → (∃ name, e = .foreignHandle name) ∨ e = .severalLines
  filled : ∀ source, gives source →
    ∃ u, source = lead ++ u ∧ ∀ v, Filled refers 0 text v ↔ v = u

theorem Drafts.fills_composed {x : Except UsageError Draft} (hx : Drafts refers fits text x)
    (session : Nat) {lead : Text} {f : Draft → Draft} (balanced : ∀ d, d.Balanced → (f d).Balanced)
    (leads : ∀ d, Expression.interleave (f d).fragments (f d).args =
      lead ++ Expression.interleave d.fragments d.args) :
    Fills refers fits text lead
      (fun e => (x.map f).bind (Expression.compose session) = .error e)
      (fun source => ∃ y, (x.map f).bind (Expression.compose session) = .ok y ∧
        y.source = source) := by
  cases hx with
  | misfits e hmisfits =>
    exact ⟨⟨fun _ => hmisfits, fun _ => ⟨e, rfl⟩⟩, fun _ _ hfits => absurd hfits hmisfits, nofun⟩
  | @fills d hfits hbalanced filled =>
    have fails : ∀ e, Expression.compose session (f d) = .error e →
        (∃ name, e = .foreignHandle name) ∨ e = .severalLines := by
      intro e he
      have herror := (Expression.compose_eq_error_iff (balanced d hbalanced)).1 he
      rcases herror with hcollect | ⟨-, -, rfl⟩
      · obtain ⟨h, -, rfl⟩ := Expression.collect_eq_error_iff.1 hcollect
        exact Or.inl ⟨_, rfl⟩
      · exact Or.inr rfl
    refine ⟨⟨?_, fun h => absurd hfits h⟩, fun e he _ => fails e he, ?_⟩
    · rintro ⟨e, he⟩
      rcases fails _ he with ⟨_, h⟩ | h <;> cases h
    · rintro source ⟨y, hy, rfl⟩
      exact ⟨_, (Expression.source_of_compose hy).trans (leads d), filled⟩

/-- Where nothing stands before the template. -/
theorem Drafts.fills_bare {x : Except UsageError Draft} (hx : Drafts refers fits text x)
    (session : Nat) : Fills refers fits text []
      (fun e => x.bind (Expression.compose session) = .error e)
      (fun source => ∃ y, x.bind (Expression.compose session) = .ok y ∧ y.source = source) := by
  have hmap : x.map id = x := by cases x <;> rfl
  have hfills : Fills refers fits text [] _ _ :=
    hx.fills_composed session (f := id) (fun _ h => h) fun _ => rfl
  rwa [hmap] at hfills

end Template

/-! Calls and handles -/

namespace Session

/-- A request is turned down before anything is sent. -/
def TurnsDown (r : Request) (s : Session) (e : UsageError) : Prop :=
  (s.begin r).1.result? s.begun = some (.error (.usage e))

/-- Somebody asks for this, and what is queued for it has this source. -/
def SendsFor (r : Request) (s : Session) (as : List Action) (source : Text) : Prop :=
  ∃ n c, Happens (Begins n r) s as ∧ Happens (Queues (.call n) c) s as ∧ c.text = source

variable {s : Session} {number : Nat} {stem : Text} {debug : Bool}

theorem turnsDown_iff {r : Request} {e : UsageError} : TurnsDown r s e ↔
    (Call.ofRequest s.number r).result = some (.error (.usage e)) := by
  have hresult : (s.begin r).1.result? s.begun = (Call.ofRequest s.number r).result :=
    result?_putCall s.begun (Call.ofRequest s.number r) s
  rw [TurnsDown, hresult]

/-- A template is composed and sent, or turned down. -/
theorem fills_request (hopen : opened number stem debug = .ok s) (bs : List Action)
    {refers : Nat → Slot → Arg → Prop} {fits : Prop} {text : Text} {args : List Arg}
    (hdrafts : Template.Drafts refers fits text (Template.draft text args)) {r : Request}
    {kind : Kind} (goal : Goal) (single : ∀ entries, goal ≠ .installed entries)
    (hr : ∀ session, Call.ofRequest session r = Call.templated session goal kind text args) :
    Template.Fills refers fits text [] (TurnsDown r (s.run bs)) (SendsFor r s bs) := by
  have hfills := hdrafts.fills_bare s.number
  have hnumber : (s.run bs).number = s.number := (extends_run s bs).number
  have hturns : ∀ e, TurnsDown r (s.run bs) e ↔
      (Template.draft text args).bind (Expression.compose s.number) = .error e := by
    intro e
    rw [turnsDown_iff, hr, hnumber, Call.templated]
    cases (Template.draft text args).bind (Expression.compose s.number) <;>
      simp [Call.refused, Call.started]
  refine ⟨?_, fun e he => hfills.otherwise e ((hturns e).1 he), ?_⟩
  · simpa only [hturns] using hfills.refused
  · rintro source ⟨n, c, hbegins, hqueues, rfl⟩
    refine hfills.filled c.text ?_
    have hcommand := command_of_queues hopen hbegins hqueues
    rw [hr, Call.templated] at hcommand
    cases hx : (Template.draft text args).bind (Expression.compose s.number) with
    | error e => simp [hx, Call.refused] at hcommand
    | ok x =>
      simp only [hx, Call.started, Option.some.injEq, Prod.mk.injEq] at hcommand
      exact ⟨x, rfl, (hcommand single).2⟩

end Session

namespace Program

variable {w : Program} {stem : Nat → Text} {debug : Nat → Bool} {text : Text} {t : Template}

open Template (Fills ByPosition ByName)

/-- Templates are filled exactly. Arguments are filled in by position or by name exactly if they
fit the slots, and an operation is refused for its template only if they do not. What is built or
sent is the template with doubled braces undone and every slot replaced by the argument that it
refers to, whatever braces this argument holds. -/
theorem templates_filled_exactly (hopen : Opened stem debug w)
    (accepted : Template.parse text = .ok t) (as : List Action) (running : Bool) :
    (∀ args : List Arg,
      ((∃ filled, t.fill args = .ok filled) ↔ t.FitsPositions args.length) ∧
      (∀ i, Fills (ByPosition args) (t.FitsPositions args.length) text []
        ((w.run as).Refuses running (.format i text args))
        fun source => ∃ x, (w.run as).Builds running (.format i text args) x ∧ x.source = source) ∧
      (∀ h, Fills (ByPosition args) (t.FitsPositions args.length) text h.name
        ((w.run as).Refuses running (.raw h text args))
        fun source => ∃ x, (w.run as).Builds running (.raw h text args) x ∧ x.source = source) ∧
      ∀ i bs, ∀ r ∈ [Session.Request.execWith text args, .evalWith text args],
        Fills (ByPosition args) (t.FitsPositions args.length) text []
          (Session.TurnsDown r ((w.session i).run bs)) (Session.SendsFor r (w.session i) bs)) ∧
    ∀ args : List (Text × Arg),
      ((∃ filled, t.fillNamed args = .ok filled) ↔ t.FitsNames (args.map Prod.fst)) ∧
      ∀ i, Fills (ByName args) (t.FitsNames (args.map Prod.fst)) text []
        ((w.run as).Refuses running (.formatNamed i text args))
        fun source => ∃ x, (w.run as).Builds running (.formatNamed i text args) x ∧
          x.source = source := by
  have built : ∀ {c : Construction} {refers fits lead},
      Fills refers fits text lead (fun e => c.composed = .error e)
        (fun source => ∃ x, c.composed = .ok x ∧ x.source = source) →
      Fills refers fits text lead ((w.run as).Refuses running c)
        fun source => ∃ x, (w.run as).Builds running c x ∧ x.source = source := by
    intro c refers fits lead hfills
    have hrefuses : (w.run as).Refuses running c = fun e => c.composed = .error e :=
      funext fun e => propext (refuses_iff hopen as)
    simpa only [hrefuses, builds_iff hopen as] using hfills
  refine ⟨fun args => ⟨Template.fill_iff_fits, fun i => ?_, fun h => ?_, fun i bs r hr => ?_⟩,
    fun args => ⟨Template.fillNamed_iff_fits, fun i => ?_⟩⟩
  · exact built ((Template.drafts_draft accepted args).fills_bare i)
  · refine built ((Template.drafts_draft accepted args).fills_composed h.session
      (f := fun d => Draft.onHandle h d.fragments d.args) (fun d hd => ?_) fun d => rfl)
    simpa [Draft.Balanced, Draft.onHandle] using hd
  · have hdrafts := Template.drafts_draft accepted args
    simp only [List.mem_cons, List.not_mem_nil, or_false] at hr
    rcases hr with rfl | rfl
    · exact Session.fills_request (hopen i) bs hdrafts .done (by simp) fun _ => rfl
    · exact Session.fills_request (hopen i) bs hdrafts .value (by simp) fun _ => rfl
  · exact built ((Template.drafts_namedDraft accepted args).fills_bare i)

/-- Doubled braces around a slot, and the first slot takes the last argument. -/
def bracedText : Text :=
  ['\x7b', '\x7b', '\x7b', '1', '\x7d', '\x7d', '\x7d', '+', '\x7b', '0', '\x7d']

def bracedTemplate : Template :=
  ⟨['\x7b'], [(.index 1, ['\x7d', '+']), (.index 0, [])]⟩

/-- One of them would itself be a template. -/
def bracedArgs : List Arg := [.raw ['\x7b', '\x7d'], .handle ⟨0, ['i', 'f'], 0⟩]

theorem templates_filled_exactly_braced :
    Opened (fun _ => ['i', 'f']) (fun _ => false) branching ∧
    Template.parse bracedText = .ok bracedTemplate ∧
    (∃ filled, bracedTemplate.fill bracedArgs = .ok filled) ∧
    (branching.run branchingActions).Builds true (.format 0 bracedText bracedArgs)
      ⟨['\x7b', 'i', 'f', '0', '\x7d', '+', '\x7b', '\x7d'], [⟨0, ['i', 'f'], 0⟩]⟩ ∧
    (∀ v, Template.Filled (ByPosition bracedArgs) 0 bracedText v ↔
      v = ['\x7b', 'i', 'f', '0', '\x7d', '+', '\x7b', '\x7d']) ∧
    ∃ e, (branching.run branchingActions).Refuses true (.format 0 bracedText []) (.template e) := by
  have hopen : Opened (fun _ => ['i', 'f']) (fun _ => false) branching := fun _ => rfl
  have accepted : Template.parse bracedText = .ok bracedTemplate := rfl
  have hfits : bracedTemplate.FitsPositions bracedArgs.length := by
    refine ⟨by simp [bracedTemplate, Template.slots], Or.inr ⟨?_, fun i => ?_⟩⟩
    · simp [bracedTemplate, Template.slots]
    · simp [bracedTemplate, Template.slots, bracedArgs]
      omega
  have hbuilds : (branching.run branchingActions).Builds true (.format 0 bracedText bracedArgs)
      ⟨['\x7b', 'i', 'f', '0', '\x7d', '+', '\x7b', '\x7d'], [⟨0, ['i', 'f'], 0⟩]⟩ :=
    (builds_iff hopen branchingActions).2 rfl
  obtain ⟨positions, -⟩ := templates_filled_exactly hopen accepted branchingActions true
  obtain ⟨hfill, hformat, -⟩ := positions bracedArgs
  obtain ⟨u, hsource, hfilled⟩ := (hformat 0).filled _ ⟨_, hbuilds, rfl⟩
  refine ⟨hopen, accepted, hfill.2 hfits, hbuilds, fun v => ?_, ?_⟩
  · rw [hfilled v, ← List.nil_append u, ← hsource]
  · refine ((positions []).2.1 0).refused.2 fun hnone => ?_
    obtain ⟨-, ⟨hall, -⟩ | ⟨-, hindices⟩⟩ := hnone
    · cases hall (.index 1) (by decide)
    · exact absurd ((hindices 1).1 (by decide)) (by decide)

end Program

end RemoteInterpreter
