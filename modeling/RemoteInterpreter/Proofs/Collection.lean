import RemoteInterpreter.Proofs.Occurrence
import RemoteInterpreter.Proofs.Refusal

/-!
# Collecting handles

The handles of an expression are those that occur in its arguments, wherever they stand: each once,
in the order of their first places. One of another session is refused, and the first of them is
named. So whatever variable is written for a handle is that of a handle which is waited for.
-/

namespace RemoteInterpreter

namespace Arg

/-- The first place of one handle comes before all places of another. -/
def FirstBefore (args : List Arg) (h k : Handle) : Prop :=
  ∃ p, Occurs args p (.handle h) ∧ ∀ q, Occurs args q (.handle k) → p < q

/-- The first handle of another session. -/
structure FirstForeign (session : Nat) (args : List Arg) (p : List Nat) (h : Handle) : Prop where
  occurs : Occurs args p (.handle h)
  foreign : h.session ≠ session
  first : ∀ q k, Occurs args q (.handle k) → k.session ≠ session → p ≤ q

variable {args : List Arg} {a b : Arg} {p q : List Nat} {h k : Handle} {session : Nat}

theorem Occurs.unique (h : Occurs args p a) (h' : Occurs args p b) : a = b := by
  induction h with
  | here number =>
    cases h' with
    | here number' => exact Option.some.inj (number.symm.trans number')
    | inside _ inside => exact absurd inside not_occurs_nil
  | inside number inside ih =>
    cases h' with
    | here => exact absurd inside not_occurs_nil
    | inside number' inside' =>
      cases number.symm.trans number'
      exact ih inside'

theorem FirstForeign.unique (hf : FirstForeign session args p h)
    (hf' : FirstForeign session args q k) : h = k := by
  obtain rfl : p = q := List.le_antisymm (hf.first q k hf'.occurs hf'.foreign)
    (hf'.first p h hf.occurs hf.foreign)
  cases hf.occurs.unique hf'.occurs
  rfl

/-- The handles in depth-first order, each with its place. -/
theorem exists_places (args : List Arg) : ∃ l : List (List Nat × Handle),
    l.map Prod.snd = handlesOfItems args ∧ (∀ p h, (p, h) ∈ l ↔ Occurs args p (.handle h)) ∧
      l.Pairwise fun x y => x.1 < y.1 := by
  obtain ⟨l, hl⟩ := exists_listing args
  refine ⟨l.filterMap fun x => x.2.handle?.map (x.1, ·), ?_, fun p h => ?_, ?_⟩
  · rw [hl.handles, List.map_filterMap]
    exact congrArg (List.filterMap · l) (funext fun x => by cases x.2.handle? <;> rfl)
  · rw [← hl.mem_iff]
    simp only [List.mem_filterMap, Option.map_eq_some_iff, Prod.mk.injEq, handle?_eq_some_iff,
      Prod.exists]
    grind
  · refine hl.sorted.filterMap _ fun x y hlt x' hx y' hy => ?_
    obtain ⟨_, -, rfl⟩ := Option.map_eq_some_iff.1 hx
    obtain ⟨_, -, rfl⟩ := Option.map_eq_some_iff.1 hy
    exact hlt

/-- What is found first among the handles is the first foreign one. -/
theorem firstForeign_of_find?
    (hfind : (handlesOfItems args).find? (fun h => h.session ≠ session) = some h) :
    ∃ p, FirstForeign session args p h := by
  obtain ⟨l, hmap, hmem, hsorted⟩ := exists_places args
  rw [← hmap, List.find?_map, Option.map_eq_some_iff] at hfind
  obtain ⟨⟨p, h⟩, hfirst, rfl⟩ := hfind
  obtain ⟨hforeign, before, after, rfl, hbefore⟩ := List.find?_eq_some_iff_append.1 hfirst
  -- no foreign handle is listed before it, and what is listed behind it has later places
  refine ⟨p, (hmem p h).1 (by simp), by simpa using hforeign, fun q k hq hk => ?_⟩
  rcases List.mem_append.1 ((hmem q k).2 hq) with hbefore' | hafter
  · exact absurd hk (by simpa using hbefore _ hbefore')
  · rcases List.mem_cons.1 hafter with heq | hafter
    · cases heq
      exact List.le_refl p
    · exact List.le_of_lt ((List.pairwise_cons.1 (List.pairwise_append.1 hsorted).2.1).1 _ hafter)

/-- Members of a list in the order of their first places. -/
theorem pairwise_distinct {l : List (List Nat × Handle)}
    (hsorted : l.Pairwise fun x y => x.1 < y.1) :
    (distinct (l.map Prod.snd)).Pairwise fun h k =>
      ∃ p, (p, h) ∈ l ∧ ∀ q, (q, k) ∈ l → p < q := by
  induction l with
  | nil => exact .nil
  | cons x l ih =>
    obtain ⟨hfirst, hrest⟩ := List.pairwise_cons.1 hsorted
    have only_rest : ∀ {q k}, k ∈ (distinct (l.map Prod.snd)).filter (· ≠ x.2) →
        (q, k) ∈ x :: l → (q, k) ∈ l := by
      intro q k hk hq
      rcases List.mem_cons.1 hq with rfl | hq
      · simp at hk
      · exact hq
    rw [List.map_cons, distinct, List.pairwise_cons]
    refine ⟨fun k hk => ⟨x.1, List.mem_cons_self, fun q hq => ?_⟩, ?_⟩
    · exact hfirst _ (only_rest hk hq)
    · refine List.Pairwise.imp_of_mem ?_ ((ih hrest).filter _)
      rintro h k - hk ⟨p, hp, hlt⟩
      exact ⟨p, List.mem_cons_of_mem _ hp, fun q hq => hlt q (only_rest hk hq)⟩

theorem pairwise_firstBefore (args : List Arg) :
    (distinct (handlesOfItems args)).Pairwise (FirstBefore args) := by
  obtain ⟨l, hmap, hmem, hsorted⟩ := exists_places args
  have h := pairwise_distinct hsorted
  simp only [hmap, hmem] at h
  exact h

end Arg

/-! What is collected -/

namespace Expression

variable {session : Nat} {args : List Arg} {uses : List Handle} {e : UsageError}

theorem collect_error_iff_firstForeign : collect session args = .error e ↔
    ∃ p h, Arg.FirstForeign session args p h ∧ e = .foreignHandle h.name := by
  rw [collect_eq_error_iff]
  constructor
  · rintro ⟨h, hfind, rfl⟩
    obtain ⟨p, hp⟩ := Arg.firstForeign_of_find? hfind
    exact ⟨p, h, hp, rfl⟩
  · rintro ⟨p, h, hp, rfl⟩
    have hmem : h ∈ Arg.handlesOfItems args := Arg.mem_handlesOfItems_iff.2 ⟨p, hp.occurs⟩
    have hsome : ((Arg.handlesOfItems args).find? fun h => h.session ≠ session).isSome = true :=
      List.find?_isSome.2 ⟨h, hmem, by simpa using hp.foreign⟩
    obtain ⟨k, hk⟩ := Option.isSome_iff_exists.1 hsome
    obtain ⟨q, hq⟩ := Arg.firstForeign_of_find? hk
    exact ⟨k, hk, by rw [hp.unique hq]⟩

theorem exists_collect_error_iff : (∃ e, collect session args = .error e) ↔
    ∃ p h, Arg.Occurs args p (.handle h) ∧ h.session ≠ session := by
  constructor
  · rintro ⟨e, he⟩
    obtain ⟨p, h, hp, -⟩ := collect_error_iff_firstForeign.1 he
    exact ⟨p, h, hp.occurs, hp.foreign⟩
  · rintro ⟨p, h, hp, hforeign⟩
    cases hc : collect session args with
    | error e => exact ⟨e, rfl⟩
    | ok uses =>
      have hown := (collect_eq_ok_iff.1 hc).1 h (Arg.mem_handlesOfItems_iff.2 ⟨p, hp⟩)
      exact absurd hown hforeign

/-- Each handle that occurs, once and in the order of the first places. -/
structure Collected (args : List Arg) (uses : List Handle) : Prop where
  mem_iff : ∀ h, h ∈ uses ↔ ∃ p, Arg.Occurs args p (.handle h)
  nodup : uses.Nodup
  ordered : uses.Pairwise (Arg.FirstBefore args)

theorem collected_of_collect (h : collect session args = .ok uses) : Collected args uses := by
  obtain ⟨-, rfl⟩ := collect_eq_ok_iff.1 h
  exact ⟨fun h => mem_distinct.trans Arg.mem_handlesOfItems_iff, nodup_distinct _,
    Arg.pairwise_firstBefore args⟩

end Expression

/-! What is written -/

/-- A part of a source: text, or the variable of a handle that was passed. -/
inductive Piece where
  | text (t : Text)
  | var (h : Handle)
  deriving DecidableEq, Repr

namespace Piece

def source : Piece → Text
  | .text t => t
  | .var h => h.name

def handles : Piece → List Handle
  | .text _ => []
  | .var h => [h]

@[simp] theorem source_text (t : Text) : (text t).source = t := rfl

@[simp] theorem source_var (h : Handle) : (var h).source = h.name := rfl

@[simp] theorem handles_text (t : Text) : (text t).handles = [] := rfl

@[simp] theorem handles_var (h : Handle) : (var h).handles = [h] := rfl

end Piece

namespace Arg

mutual

/-- An argument as it is rendered, its handles apart from all other text. -/
def pieces : Arg → List Piece
  | .list items => .text ['['] :: piecesOfItems items ++ [.text [']']]
  | .tuple [item] => .text ['('] :: pieces item ++ [.text [',', ')']]
  | .tuple items => .text ['('] :: piecesOfItems items ++ [.text [')']]
  | .map entries => .text ['\x7b'] :: piecesOfEntries entries ++ [.text ['\x7d']]
  | .handle h => [.var h]
  | a => [.text a.render]

def piecesOfItems : List Arg → List Piece
  | [] => []
  | [item] => pieces item
  | item :: rest => pieces item ++ .text [','] :: piecesOfItems rest

def piecesOfEntries : List (Arg × Arg) → List Piece
  | [] => []
  | [(key, value)] => pieces key ++ .text [':', ' '] :: pieces value
  | (key, value) :: rest =>
    pieces key ++ .text [':', ' '] :: pieces value ++ .text [','] :: piecesOfEntries rest

end

mutual

theorem source_pieces (a : Arg) : a.pieces.flatMap Piece.source = a.render := by
  match a with
  | .list items => simp [pieces, render, source_piecesOfItems items]
  | .tuple [] => rfl
  | .tuple [item] => simp [pieces, render, source_pieces item]
  | .tuple (item :: next :: items) =>
    simp [pieces, render, source_piecesOfItems (item :: next :: items)]
  | .map entries => simp [pieces, render, source_piecesOfEntries entries]
  | .handle h => simp [pieces, render]
  | .null | .bool _ | .int _ | .float _ | .str _ | .raw _ => simp [pieces]

theorem source_piecesOfItems (items : List Arg) :
    (piecesOfItems items).flatMap Piece.source = renderItems items := by
  match items with
  | [] => rfl
  | [item] => exact source_pieces item
  | item :: next :: items =>
    simp [piecesOfItems, renderItems, source_pieces item,
      source_piecesOfItems (next :: items)]

theorem source_piecesOfEntries (entries : List (Arg × Arg)) :
    (piecesOfEntries entries).flatMap Piece.source = renderEntries entries := by
  match entries with
  | [] => rfl
  | [(key, value)] =>
    simp [piecesOfEntries, renderEntries, source_pieces key, source_pieces value]
  | (key, value) :: next :: entries =>
    simp [piecesOfEntries, renderEntries, source_pieces key, source_pieces value,
      source_piecesOfEntries (next :: entries)]

end

mutual

theorem handles_pieces (a : Arg) : a.pieces.flatMap Piece.handles = a.handles := by
  match a with
  | .list items => simp [pieces, handles, handles_piecesOfItems items]
  | .tuple [] => rfl
  | .tuple [item] =>
    simp [pieces, handles, handlesOfItems, handles_pieces item]
  | .tuple (item :: next :: items) =>
    simp [pieces, handles, handles_piecesOfItems (item :: next :: items)]
  | .map entries => simp [pieces, handles, handles_piecesOfEntries entries]
  | .handle h => rfl
  | .null | .bool _ | .int _ | .float _ | .str _ | .raw _ => rfl

theorem handles_piecesOfItems (items : List Arg) :
    (piecesOfItems items).flatMap Piece.handles = handlesOfItems items := by
  match items with
  | [] => rfl
  | [item] => simp [piecesOfItems, handlesOfItems, handles_pieces item]
  | item :: next :: items =>
    simp [piecesOfItems, handlesOfItems, handles_pieces item,
      handles_piecesOfItems (next :: items)]

theorem handles_piecesOfEntries (entries : List (Arg × Arg)) :
    (piecesOfEntries entries).flatMap Piece.handles = handlesOfEntries entries := by
  match entries with
  | [] => rfl
  | [(key, value)] =>
    simp [piecesOfEntries, handlesOfEntries, handles_pieces key,
      handles_pieces value]
  | (key, value) :: next :: entries =>
    simp [piecesOfEntries, handlesOfEntries, handles_pieces key,
      handles_pieces value, handles_piecesOfEntries (next :: entries)]

end

end Arg

/-- Fragments and arguments in turn, the handles apart from all other text. -/
def Expression.pieces : List Text → List Arg → List Piece
  | [], _ => []
  | fragment :: fragments, [] => .text fragment :: pieces fragments []
  | fragment :: fragments, arg :: args => .text fragment :: arg.pieces ++ pieces fragments args

namespace Expression

variable {fragments : List Text} {args : List Arg}

theorem source_pieces :
    (pieces fragments args).flatMap Piece.source = interleave fragments args := by
  fun_induction pieces fragments args with
  | case1 => simp [interleave]
  | case2 fragment fragments ih => simp [interleave, ih]
  | case3 fragment fragments arg args ih =>
    simp [interleave, Arg.source_pieces, ih]

theorem handles_pieces (h : fragments.length = args.length + 1) :
    (pieces fragments args).flatMap Piece.handles = Arg.handlesOfItems args := by
  induction args generalizing fragments with
  | nil =>
    match fragments, h with
    | [fragment], _ => rfl
  | cons arg args ih =>
    match fragments, h with
    | fragment :: fragments, h =>
      simp [pieces, Arg.handlesOfItems, Arg.handles_pieces,
        ih (Nat.succ.inj h)]

/-- The variables that are written are those of the handles that occur. -/
theorem var_mem_pieces_iff (balanced : fragments.length = args.length + 1) {h : Handle} :
    .var h ∈ pieces fragments args ↔ ∃ p, Arg.Occurs args p (.handle h) := by
  rw [← Arg.mem_handlesOfItems_iff, ← handles_pieces balanced, List.mem_flatMap]
  constructor
  · exact fun hmem => ⟨_, hmem, List.mem_singleton_self h⟩
  · rintro ⟨piece, hmem, hpiece⟩
    cases piece with
    | text t => cases hpiece
    | var k => rwa [List.mem_singleton.1 hpiece]

end Expression

/-! Operations -/

/-- The handle from which another is derived. -/
def Construction.parent? : Construction → Option Handle
  | .expr _ _ _ | .format _ _ _ | .formatNamed _ _ _ => none
  | .attr h _ | .index h _ | .item h _ | .raw h _ _ | .call h _ | .binary h _ _ | .negated h =>
    some h

theorem Construction.args_of_parent? {c : Construction} {d : Draft} {h : Handle}
    (hd : c.draft = .ok d) (hparent : c.parent? = some h) : ∃ args, d.args = .handle h :: args := by
  cases c with
  | expr | format | formatNamed => cases hparent
  | attr k name =>
    cases hparent
    cases hd
    unfold Draft.attr
    split <;> exact ⟨_, rfl⟩
  | item k key =>
    cases hparent
    cases hd
    unfold Draft.item
    split
    · next name =>
      split
      · next hname => exact ⟨[], by rw [Draft.attr, if_pos hname]; rfl⟩
      · exact ⟨_, rfl⟩
    · exact ⟨_, rfl⟩
  | raw k text args =>
    cases hparent
    obtain ⟨filled, -, rfl⟩ := map_eq_ok_iff.1 hd
    exact ⟨_, rfl⟩
  | call k args =>
    cases hparent
    obtain ⟨items, -, hd⟩ := bind_eq_ok_iff.1 hd
    cases hd
    exact ⟨_, rfl⟩
  | index | binary | negated =>
    cases hparent
    cases hd
    exact ⟨_, rfl⟩

namespace Expression

/-- The source is put together from the fragments and arguments, and the handles that it uses are
those that occur in the arguments: so the variables that were written for handles are those of the
handles that it uses. -/
structure Written (d : Draft) (x : Expression) : Prop where
  collected : Collected d.args x.uses
  source : x.source = (pieces d.fragments d.args).flatMap Piece.source
  names : ∀ h, .var h ∈ pieces d.fragments d.args ↔ h ∈ x.uses

variable {session : Nat} {d : Draft} {x : Expression}

theorem written_of_compose (hx : compose session d = .ok x) : Written d x := by
  obtain ⟨balanced, hsession, -, rfl⟩ := compose_eq_ok_iff.1 hx
  have hcollected := collected_of_collect (collect_eq_ok_iff.2 ⟨hsession, rfl⟩)
  refine ⟨hcollected, source_pieces.symm, fun h => ?_⟩
  rw [var_mem_pieces_iff balanced, hcollected.mem_iff]

/-- What comes first among the arguments comes first among the handles. -/
theorem head?_uses_of_compose (hx : compose session d = .ok x) {h : Handle} {args : List Arg}
    (hargs : d.args = .handle h :: args) : x.uses.head? = some h := by
  rw [uses_of_compose hx, hargs]
  rfl

end Expression

theorem Session.written_of_templated {session : Nat} {goal : Goal} {kind kind' : Kind}
    {text source : Text} {args : List Arg}
    (h : (Call.templated session goal kind text args).errand.command = some (kind', source)) :
    ∃ d uses, Template.draft text args = .ok d ∧ Expression.Written d ⟨source, uses⟩ ∧
      (Call.templated session goal kind text args).errand.uses = uses.map Handle.number := by
  cases hx : (Template.draft text args).bind (Expression.compose session) with
  | error e => simp [Call.templated, hx, Call.refused] at h
  | ok x =>
    have hstarted : Call.templated session goal kind text args =
        Call.started goal (Binding.uses x) (some (kind, x.source)) := by
      simp [Call.templated, hx]
    obtain ⟨d, hd, hcompose⟩ := bind_eq_ok_iff.1 hx
    rw [hstarted] at h ⊢
    cases h
    exact ⟨d, x.uses, hd, Expression.written_of_compose hcompose, rfl⟩

namespace Program

open Expression (collect Collected Written)

variable {w : Program} {stem : Nat → Text} {debug : Nat → Bool}

/-- Handles are collected exactly, however deep they stand. Collecting fails exactly if a handle
of another session occurs, and names the first; else it gives each handle that occurs, once and in
the order of the first places. What is built or asked for waits for these handles, a parent first,
and every variable that was written for a handle is that of one of them. -/
theorem handles_collected_exactly (hopen : Opened stem debug w) (as : List Action)
    (running : Bool) :
    (∀ session args,
      (∀ e, collect session args = .error e ↔
        ∃ p h, Arg.FirstForeign session args p h ∧ e = .foreignHandle h.name) ∧
      ((∃ e, collect session args = .error e) ↔
        ∃ p h, Arg.Occurs args p (.handle h) ∧ h.session ≠ session) ∧
      ∀ uses, collect session args = .ok uses → Collected args uses) ∧
    (∀ c d, c.draft = .ok d → d.Balanced → ∀ p h, Arg.FirstForeign c.session d.args p h →
      (w.run as).Refuses running c (.foreignHandle h.name)) ∧
    (∀ c x, (w.run as).Builds running c x → ∃ d, c.draft = .ok d ∧ Written d x ∧
      ∀ h, c.parent? = some h → x.uses.head? = some h) ∧
    ∀ session text args, ∀ r ∈ [Session.Request.execWith text args, .evalWith text args],
      ∀ kind source, (Session.Call.ofRequest session r).errand.command = some (kind, source) →
      ∃ d uses, Template.draft text args = .ok d ∧ Written d ⟨source, uses⟩ ∧
        (Session.Call.ofRequest session r).errand.uses = uses.map Handle.number := by
  refine ⟨fun session args => ⟨fun e => Expression.collect_error_iff_firstForeign,
    Expression.exists_collect_error_iff, fun uses => Expression.collected_of_collect⟩, ?_, ?_, ?_⟩
  · intro c d hd balanced p h hfirst
    rw [refuses_iff hopen, Construction.composed_eq_error_iff]
    refine Or.inr ⟨d, hd, (Expression.compose_eq_error_iff balanced).2 (Or.inl ?_)⟩
    exact Expression.collect_error_iff_firstForeign.2 ⟨p, h, hfirst, rfl⟩
  · intro c x hx
    obtain ⟨d, hd, hcompose⟩ := Construction.composed_eq_ok_iff.1 ((builds_iff hopen as).1 hx)
    refine ⟨d, hd, Expression.written_of_compose hcompose, fun h hparent => ?_⟩
    obtain ⟨args, hargs⟩ := Construction.args_of_parent? hd hparent
    exact Expression.head?_uses_of_compose hcompose hargs
  · intro session text args r hr kind source hcommand
    simp only [List.mem_cons, List.not_mem_nil, or_false] at hr
    rcases hr with rfl | rfl <;> exact Session.written_of_templated hcommand

/-- Handles in a list, in a key and in a tuple that is a value. -/
def nestedArgs : List Arg :=
  [.list [.handle ⟨0, ['i', 'f'], 1⟩,
    .map [(.handle ⟨0, ['i', 'f'], 0⟩, .tuple [.handle ⟨0, ['i', 'f'], 1⟩])]]]

theorem handles_collected_exactly_nested :
    Opened (fun _ => ['i', 'f']) (fun _ => false) branching ∧
    (branching.run branchingActions).Builds true (.expr 0 [[], []] nestedArgs)
      ⟨"[if1,\x7bif0: (if1,)\x7d]".toList, [⟨0, ['i', 'f'], 1⟩, ⟨0, ['i', 'f'], 0⟩]⟩ ∧
    Collected nestedArgs [⟨0, ['i', 'f'], 1⟩, ⟨0, ['i', 'f'], 0⟩] ∧
    (branching.run branchingActions).Refuses true
      (.index ⟨0, ['i', 'f'], 0⟩ (.list [.handle ⟨1, ['i', 'f'], 0⟩]))
      (.foreignHandle ['i', 'f', '0']) := by
  have hopen : Opened (fun _ => ['i', 'f']) (fun _ => false) branching := fun _ => rfl
  have hbuilds : (branching.run branchingActions).Builds true (.expr 0 [[], []] nestedArgs)
      ⟨"[if1,\x7bif0: (if1,)\x7d]".toList, [⟨0, ['i', 'f'], 1⟩, ⟨0, ['i', 'f'], 0⟩]⟩ :=
    (builds_iff hopen branchingActions).2 (by decide +kernel)
  obtain ⟨collects, refuses, builds, -⟩ :=
    handles_collected_exactly hopen branchingActions true
  obtain ⟨d, hd, hwritten, -⟩ := builds _ _ hbuilds
  cases hd
  refine ⟨hopen, hbuilds, hwritten.collected, ?_⟩
  have hforeign : collect 0 [.handle ⟨0, ['i', 'f'], 0⟩, .list [.handle ⟨1, ['i', 'f'], 0⟩]] =
      .error (.foreignHandle ['i', 'f', '0']) := by decide +kernel
  obtain ⟨p, h, hfirst, heq⟩ := ((collects _ _).1 _).1 hforeign
  rw [heq]
  exact refuses (.index ⟨0, ['i', 'f'], 0⟩ (.list [.handle ⟨1, ['i', 'f'], 0⟩])) _ rfl rfl p h
    hfirst

end Program

end RemoteInterpreter
