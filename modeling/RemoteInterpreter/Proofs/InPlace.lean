import RemoteInterpreter.Proofs.Composition
import RemoteInterpreter.Proofs.Traversal

/-!
# Decoding in place

Every wrapper that decoding comes to is replaced by what its decoder makes of it, and everything
else keeps its shape. The first decoder that fails, in the order of the tree, is the one whose error
is told.
-/

namespace RemoteInterpreter

/-- No wrapper lies above the place. -/
def Json.Open (j : Json) (p : List Step) : Prop :=
  ∀ q r, p = q ++ r → r ≠ [] → (j.at? q).bind Decode.wrapper? = none

namespace Json

variable {j k : Json} {s : Step} {p : List Step}

theorem open_nil (j : Json) : j.Open [] := by
  intro q r heq hr
  exact absurd (List.append_eq_nil_iff.1 heq.symm).2 hr

theorem open_cons : j.Open (s :: p) ↔
    Decode.wrapper? j = none ∧ ∀ k, j.layer.child? s = some k → k.Open p := by
  constructor
  · intro h
    refine ⟨h [] (s :: p) rfl nofun, fun k hk q r heq hr => ?_⟩
    have hq := h (s :: q) r (by rw [heq]; rfl) hr
    rwa [at?_cons, hk] at hq
  · rintro ⟨hroot, hbelow⟩ q r heq hr
    cases q with
    | nil => exact hroot
    | cons s' q =>
      obtain ⟨rfl, hp⟩ := List.cons.inj heq
      rw [at?_cons]
      cases hk : j.layer.child? s with
      | none => rfl
      | some k => exact hbelow k hk q r hp hr

end Json

namespace Decode

variable {of : Decoders} {j k : Json} {v : Value} {s : Step} {p : List Step}

/-! Results in place -/

theorem throughItems_eq_ok_iff {items : List Json} {vs : List Value} :
    throughItems of items = .ok vs ↔ items.map (through of) = vs.map .ok := by
  induction items generalizing vs with
  | nil => cases vs <;> simp [throughItems]
  | cons item rest ih =>
    rw [throughItems]
    cases vs with
    | nil =>
      cases through of item <;> cases throughItems of rest <;>
        simp [bind, Except.bind, pure, Except.pure]
    | cons v vs =>
      rw [List.map_cons, List.map_cons, List.cons.injEq, ← ih]
      cases through of item <;> cases throughItems of rest <;>
        simp [bind, Except.bind, pure, Except.pure]

theorem throughFields_eq_ok_iff {fields : List (Text × Json)} {es : List (Text × Value)} :
    throughFields of fields = .ok es ↔
      fields.map (fun f => (f.1, through of f.2)) = es.map fun e => (e.1, .ok e.2) := by
  induction fields generalizing es with
  | nil => cases es <;> simp [throughFields]
  | cons field rest ih =>
    obtain ⟨key, value⟩ := field
    rw [throughFields]
    cases es with
    | nil =>
      cases through of value <;> cases throughFields of rest <;>
        simp [bind, Except.bind, pure, Except.pure]
    | cons e es =>
      rw [List.map_cons, List.map_cons, List.cons.injEq, ← ih, Prod.mk.injEq]
      cases through of value <;> cases throughFields of rest <;>
        simp [bind, Except.bind, pure, Except.pure, Prod.ext_iff, and_assoc, eq_comm]

theorem through_array {items : List Json} : through of (.array items) = .ok v ↔
    ∃ vs, items.map (through of) = vs.map .ok ∧ .list vs = v := by
  simp only [through, map_eq_ok_iff, throughItems_eq_ok_iff]

theorem through_object {fields : List (Text × Json)} (h : wrapper? (.object fields) = none) :
    through of (.object fields) = .ok v ↔ ∃ es,
      (fields.map fun f => (f.1, through of f.2)) = (es.map fun e => (e.1, .ok e.2)) ∧
        .map es = v := by
  simp only [through, h, map_eq_ok_iff, throughFields_eq_ok_iff]

/-- How a value looks beside the tree that it came of, if this is no wrapper. -/
inductive Alike : Json → Value → Prop
  | null : Alike .null .null
  | bool (b) : Alike (.bool b) (.bool b)
  | int {n} (fits : -2 ^ 63 ≤ n ∧ n < 2 ^ 63) : Alike (.number (.integer n)) (.int n)
  | beyond {n} (large : ¬ (-2 ^ 63 ≤ n ∧ n < 2 ^ 63)) :
    Alike (.number (.integer n)) (.float (Binary64.ofInt n))
  | float (x) : Alike (.number (.float x)) (.float x)
  | string (t) : Alike (.string t) (.string t)
  | list {items vs} (length : vs.length = items.length) : Alike (.array items) (.list vs)
  | map {fields es} (keys : es.map Prod.fst = fields.map Prod.fst) :
    Alike (.object fields) (.map es)

theorem alike_number (n : Json.Number) : Alike (.number n) (number n) := by
  cases n with
  | integer n =>
    rw [number]
    split
    · next hfits => exact .int hfits
    · next hlarge => exact .beyond hlarge
  | float x => exact .float x

theorem alike_through (hroot : wrapper? j = none) (h : through of j = .ok v) : Alike j v := by
  cases j with
  | null => cases h; exact .null
  | bool b => cases h; exact .bool b
  | number n => cases h; exact alike_number n
  | string s => cases h; exact .string s
  | array items =>
    obtain ⟨vs, hvs, rfl⟩ := through_array.1 h
    exact .list (by simpa using (congrArg List.length hvs).symm)
  | object fields =>
    obtain ⟨es, hes, rfl⟩ := (through_object hroot).1 h
    have hkeys := congrArg (List.map Prod.fst) hes
    simp only [List.map_map] at hkeys
    exact .map hkeys.symm

/-- One step further down, while nothing is wrapped. -/
theorem child?_through (hroot : wrapper? j = none) (h : through of j = .ok v) (s : Step) :
    (v.layer.child? s).map .ok = (j.layer.child? s).map (through of) := by
  cases j with
  | array items =>
    obtain ⟨vs, hvs, rfl⟩ := through_array.1 h
    cases s with
    | item i =>
      have hi := congrArg (fun l : List (Except DecodeError Value) => l[i]?) hvs
      simpa [Value.layer, Json.layer, Layer.child?] using hi.symm
    | field key => rfl
  | object fields =>
    obtain ⟨es, hes, rfl⟩ := (through_object hroot).1 h
    cases s with
    | item i => rfl
    | field key =>
      have hkey := congrArg (Entries.find? key) hes
      rw [Entries.find?_map, Entries.find?_map] at hkey
      exact hkey.symm
  | number n =>
    cases h
    have halike := alike_number n
    generalize number n = v at halike
    cases halike <;> cases s <;> rfl
  | _ => cases h; cases s <;> rfl

/-- Below wrappers, what was decoded is where it was. -/
theorem at?_through (h : through of j = .ok v) (hopen : j.Open p) :
    (v.at? p).map .ok = (j.at? p).map (through of) := by
  induction p generalizing j v with
  | nil => simp [h]
  | cons s p ih =>
    obtain ⟨hroot, hbelow⟩ := Json.open_cons.1 hopen
    have hchild := child?_through hroot h s
    rw [Value.at?_cons, Json.at?_cons]
    cases hk : j.layer.child? s with
    | none =>
      rw [hk, Option.map_none, Option.map_eq_none_iff] at hchild
      rw [hchild]
      rfl
    | some k =>
      rw [hk, Option.map_some] at hchild
      obtain ⟨u, hu, hthrough⟩ := Option.map_eq_some_iff.1 hchild
      rw [hu]
      exact ih hthrough.symm (hbelow k hk)

/-! The first failure -/

def failure? {α : Type} : Except DecodeError α → Option DecodeError
  | .ok _ => none
  | .error e => some e

theorem failure?_eq_some_iff {α : Type} {x : Except DecodeError α} {e : DecodeError} :
    failure? x = some e ↔ x = .error e := by
  cases x <;> simp [failure?]

theorem failure?_map {α β : Type} (f : α → β) (x : Except DecodeError α) :
    failure? (x.map f) = failure? x := by
  cases x <;> rfl

/-- A wrapper and the steps that lead to it. -/
structure Found where
  place : List Step
  tag : Text
  inner : Json

def Found.under (s : Step) (w : Found) : Found := { w with place := s :: w.place }

mutual

/-- All wrappers that decoding comes to, in its order. -/
def wrappers : Json → List Found
  | .array items => wrappersOfItems 0 items
  | .object fields =>
    match wrapper? (.object fields) with
    | some (tag, inner) => [⟨[], tag, inner⟩]
    | none => wrappersOfFields fields
  | _ => []

def wrappersOfItems (i : Nat) : List Json → List Found
  | [] => []
  | item :: rest => (wrappers item).map (.under (.item i)) ++ wrappersOfItems (i + 1) rest

def wrappersOfFields : List (Text × Json) → List Found
  | [] => []
  | (key, value) :: rest => (wrappers value).map (.under (.field key)) ++ wrappersOfFields rest

end

theorem wrappersOfItems_eq (i : Nat) (items : List Json) :
    wrappersOfItems i items = (items.mapIdx fun n item => (Step.item (i + n), item)).flatMap
      fun c => (wrappers c.2).map (.under c.1) := by
  induction items generalizing i with
  | nil => rfl
  | cons item rest ih =>
    rw [wrappersOfItems, ih, List.mapIdx_cons, List.flatMap_cons]
    simp [Nat.add_assoc, Nat.add_comm 1]

theorem wrappersOfFields_eq (fields : List (Text × Json)) :
    wrappersOfFields fields = (Layer.fields fields).children.flatMap
      fun c => (wrappers c.2).map (.under c.1) := by
  induction fields with
  | nil => rfl
  | cons field rest ih =>
    rw [wrappersOfFields, ih]
    rfl

theorem wrappers_of_wrapper {tag : Text} {inner : Json} (h : wrapper? j = some (tag, inner)) :
    wrappers j = [⟨[], tag, inner⟩] := by
  cases j with
  | object fields => rw [wrappers, h]
  | _ => cases h

/-- Without a wrapper at the root, the wrappers are those of the children. -/
theorem wrappers_of_children (h : wrapper? j = none) :
    wrappers j = j.layer.children.flatMap fun c => (wrappers c.2).map (.under c.1) := by
  cases j with
  | array items => simp [wrappers, wrappersOfItems_eq, Json.layer, Layer.children]
  | object fields => rw [wrappers, h, Json.layer, ← wrappersOfFields_eq]
  | _ => rfl

theorem failure?_throughItems (items : List Json) :
    failure? (throughItems of items) = items.findSome? fun k => failure? (through of k) := by
  induction items with
  | nil => rfl
  | cons item rest ih =>
    rw [throughItems, List.findSome?_cons, ← ih]
    cases through of item <;> cases throughItems of rest <;> rfl

theorem failure?_throughFields (fields : List (Text × Json)) :
    failure? (throughFields of fields) =
      fields.findSome? fun f => failure? (through of f.2) := by
  induction fields with
  | nil => rfl
  | cons field rest ih =>
    rw [throughFields, List.findSome?_cons, ← ih]
    cases through of field.2 <;> cases throughFields of rest <;> rfl

theorem failure?_of_children (h : wrapper? j = none) :
    failure? (through of j) = j.layer.children.findSome? fun c => failure? (through of c.2) := by
  cases j with
  | array items =>
    calc failure? (through of (.array items))
        = items.findSome? fun k => failure? (through of k) := by
          rw [through, failure?_map, failure?_throughItems]
      _ = ((Layer.items items).children.map Prod.snd).findSome?
            fun k => failure? (through of k) := by
          rw [Layer.map_snd_items]
      _ = (Layer.items items).children.findSome? fun c => failure? (through of c.2) := by
          rw [List.findSome?_map]
          rfl
  | object fields =>
    rw [through, h, failure?_map, failure?_throughFields, Json.layer, Layer.children,
      List.findSome?_map]
    rfl
  | _ => rfl

theorem through_of_wrapper {tag : Text} {inner : Json} (h : wrapper? j = some (tag, inner)) :
    through of j = dispatch of tag inner := by
  cases j with
  | object fields => rw [through, h]
  | _ => cases h

theorem findSome?_flatMap {α β γ : Type} {l : List α} {f : α → Option γ} {g : α → List β}
    {k : β → Option γ} (h : ∀ x ∈ l, f x = (g x).findSome? k) :
    l.findSome? f = (l.flatMap g).findSome? k := by
  induction l with
  | nil => rfl
  | cons x l ih =>
    have hrest := ih fun y hy => h y (List.mem_cons_of_mem _ hy)
    rw [List.flatMap_cons, List.findSome?_append, List.findSome?_cons, hrest,
      h x List.mem_cons_self]
    cases (g x).findSome? k <;> rfl

/-- Decoding fails with the error of the first wrapper whose decoding fails. -/
theorem failure?_through (of : Decoders) (j : Json) :
    failure? (through of j) =
      (wrappers j).findSome? fun w => failure? (dispatch of w.tag w.inner) := by
  induction j using Json.tree_induction with
  | step j ih =>
    cases hroot : wrapper? j with
    | some x =>
      rw [through_of_wrapper hroot, wrappers_of_wrapper hroot]
      cases hx : failure? (dispatch of x.1 x.2) <;> simp [hx]
    | none =>
      rw [failure?_of_children hroot, wrappers_of_children hroot]
      refine findSome?_flatMap fun c hc => ?_
      rw [ih c.1 c.2 hc, List.findSome?_map]
      rfl

/-! The wrappers and their places -/

/-- A wrapper at a place that no other wrapper lies above. -/
def Reaches (j : Json) (p : List Step) (tag : Text) (inner : Json) : Prop :=
  j.Open p ∧ (j.at? p).bind wrapper? = some (tag, inner)

theorem reaches_nil {tag : Text} {inner : Json} :
    Reaches j [] tag inner ↔ wrapper? j = some (tag, inner) := by
  simp [Reaches, Json.open_nil]

theorem reaches_cons {tag : Text} {inner : Json} : Reaches j (s :: p) tag inner ↔
    wrapper? j = none ∧ ∃ k, j.layer.child? s = some k ∧ Reaches k p tag inner := by
  rw [Reaches, Json.open_cons, Json.at?_cons]
  cases hk : j.layer.child? s with
  | none => simp
  | some k => simp [Reaches, and_assoc]

theorem mem_wrappers (h : j.Keyed) {w : Found} :
    w ∈ wrappers j ↔ Reaches j w.place w.tag w.inner := by
  induction j using Json.tree_induction generalizing w with
  | step j ih =>
    obtain ⟨place, tag, inner⟩ := w
    cases hroot : wrapper? j with
    | some x =>
      rw [wrappers_of_wrapper hroot, List.mem_singleton]
      cases place with
      | nil => simp [reaches_nil, hroot, Prod.ext_iff, eq_comm]
      | cons s p => simp [reaches_cons, hroot]
    | none =>
      rw [wrappers_of_children hroot, List.mem_flatMap]
      cases place with
      | nil => simp [reaches_nil, hroot, Found.under]
      | cons s p =>
        simp only [reaches_cons, hroot, true_and]
        -- keys are in order, so the child that is listed is the one that the step finds
        constructor
        · rintro ⟨⟨s', k⟩, hk, hmem⟩
          obtain ⟨w, hw, heq⟩ := List.mem_map.1 hmem
          cases heq
          have hchild := h.child?_eq_some_iff.2 hk
          exact ⟨k, hchild, (ih _ _ hk (h.child hchild)).1 hw⟩
        · rintro ⟨k, hchild, hk⟩
          have hmem := h.child?_eq_some_iff.1 hchild
          exact ⟨(s, k), hmem, List.mem_map.2
            ⟨⟨p, tag, inner⟩, (ih _ _ hmem (h.child hchild)).2 hk, rfl⟩⟩

/-- Wrappers are listed in the order of their places. -/
theorem pairwise_wrappers (h : j.Keyed) :
    (wrappers j).Pairwise fun a b => List.Lex Step.Before a.place b.place := by
  induction j using Json.tree_induction with
  | step j ih =>
    cases hroot : wrapper? j with
    | some x =>
      rw [wrappers_of_wrapper hroot]
      exact List.pairwise_singleton _ _
    | none =>
      rw [wrappers_of_children hroot, List.pairwise_flatMap]
      refine ⟨fun c hc => ?_, h.root.pairwise_children.imp fun hbefore => ?_⟩
      · have hk := ih _ _ hc (h.child (h.child?_eq_some_iff.2 hc))
        exact List.pairwise_map.2 (hk.imp List.Lex.cons)
      · simp only [List.mem_map]
        rintro _ ⟨a, -, rfl⟩ _ ⟨b, -, rfl⟩
        exact List.Lex.rel hbefore

theorem Reaches.unique {tag tag' : Text} {inner inner' : Json} (h : Reaches j p tag inner)
    (h' : Reaches j p tag' inner') : tag = tag' ∧ inner = inner' := by
  have heq := h.2.symm.trans h'.2
  cases heq
  exact ⟨rfl, rfl⟩

/-- The wrapper whose decoding fails with an error, before all others whose decoding fails. -/
structure FailsFirst (of : Decoders) (j : Json) (p : List Step) (e : DecodeError) : Prop where
  fails : ∃ tag inner, Reaches j p tag inner ∧ dispatch of tag inner = .error e
  first : ∀ q tag inner, Reaches j q tag inner → (∃ e', dispatch of tag inner = .error e') →
    q = p ∨ List.Lex Step.Before p q

theorem through_eq_error_iff (h : j.Keyed) {e : DecodeError} :
    through of j = .error e ↔ ∃ p, FailsFirst of j p e := by
  -- a failure is that of the first wrapper in the list
  have hfirst : ∀ e, through of j = .error e → ∃ p, FailsFirst of j p e := by
    intro e he
    rw [← failure?_eq_some_iff, failure?_through, List.findSome?_eq_some_iff] at he
    obtain ⟨before, w, behind, hsplit, hw, hbefore⟩ := he
    have hsorted := pairwise_wrappers h
    rw [hsplit, List.pairwise_append, List.pairwise_cons] at hsorted
    have hmem : w ∈ wrappers j := by simp [hsplit]
    refine ⟨w.place, ⟨w.tag, w.inner, (mem_wrappers h).1 hmem, failure?_eq_some_iff.1 hw⟩, ?_⟩
    rintro q tag inner hq ⟨e', he'⟩
    have hq' : (⟨q, tag, inner⟩ : Found) ∈ wrappers j := (mem_wrappers h).2 hq
    rw [hsplit, List.mem_append, List.mem_cons] at hq'
    rcases hq' with hq' | rfl | hq'
    · have hnone := hbefore _ hq'
      rw [failure?_eq_some_iff.2 he'] at hnone
      cases hnone
    · exact Or.inl rfl
    · exact Or.inr (hsorted.2.1.1 _ hq')
  refine ⟨hfirst e, ?_⟩
  rintro ⟨p, ⟨tag, inner, hp, he⟩, hp'⟩
  cases hthrough : through of j with
  | ok v =>
    have hnone : failure? (through of j) = none := by rw [hthrough]; rfl
    rw [failure?_through, List.findSome?_eq_none_iff] at hnone
    have hno := hnone _ ((mem_wrappers (w := ⟨p, tag, inner⟩) h).2 hp)
    rw [failure?_eq_some_iff.2 he] at hno
    cases hno
  | error e' =>
    obtain ⟨q, ⟨tag', inner', hq, he'⟩, hq'⟩ := hfirst e' hthrough
    -- two wrappers that fail before all others are one
    have hplace : p = q := by
      rcases hp' q tag' inner' hq ⟨e', he'⟩ with rfl | hlt
      · rfl
      · rcases hq' p tag inner hp ⟨e, he⟩ with rfl | hlt'
        · rfl
        · exact absurd hlt' (asymm hlt)
    subst hplace
    obtain ⟨rfl, rfl⟩ := hp.unique hq
    exact he'.symm.trans he

/-! The whole tree -/

/-- Decoding works in place, with any decoders. Below wrappers, what is decoded at a place is what
stands there, decoded by itself: a wrapper is replaced by what its decoder makes of the inner value,
and everything else keeps its shape. Decoding fails exactly if it fails at a wrapper that is
reached, with the error of the first such wrapper, and at a tag without a decoder with an error that
names the tag. A registry decodes like this with the decoders that its entries stand for. -/
theorem decodes_in_place (h : j.Keyed) :
    (∀ of : Decoders,
      (∀ v p, through of j = .ok v → j.Open p →
        (v.at? p).map .ok = (j.at? p).map (through of) ∧
        (∀ tag inner, Reaches j p tag inner →
          ∃ u, v.at? p = some u ∧ dispatch of tag inner = .ok u) ∧
        ∀ k, j.at? p = some k → wrapper? k = none → ∃ u, v.at? p = some u ∧ Alike k u) ∧
      (∀ e, through of j = .error e ↔ ∃ p, FailsFirst of j p e) ∧
      ∀ tag inner, of tag = none → dispatch of tag inner = .error (.unregistered tag)) ∧
    ∀ r : Registry, decode r j = through (decoders r) j ∧
      ∀ tag, decoders r tag = none ↔ r.isRegistered tag = false := by
  refine ⟨fun of => ⟨fun v p hv hopen => ?_, fun e => through_eq_error_iff h, ?_⟩,
    fun r => ⟨decode_eq_through r j h, fun tag => ?_⟩⟩
  · have hplace := at?_through hv hopen
    have found : ∀ k, j.at? p = some k → ∃ u, v.at? p = some u ∧ through of k = .ok u := by
      intro k hk
      rw [hk] at hplace
      obtain ⟨u, hu, heq⟩ := Option.map_eq_some_iff.1 hplace
      exact ⟨u, hu, heq.symm⟩
    refine ⟨hplace, fun tag inner hreach => ?_, fun k hk hroot => ?_⟩
    · obtain ⟨k, hk, hwrapper⟩ := Option.bind_eq_some_iff.1 hreach.2
      obtain ⟨u, hu, hthrough⟩ := found k hk
      exact ⟨u, hu, (through_of_wrapper hwrapper).symm.trans hthrough⟩
    · obtain ⟨u, hu, hthrough⟩ := found k hk
      exact ⟨u, hu, alike_through hroot hthrough⟩
  · intro tag inner hnone
    rw [dispatch, hnone]
  · simp [decoders, Registry.isRegistered]

def wrap (tag : Text) (inner : Json) : Json :=
  .object [(typeKey, .string tag), (valueKey, inner)]

theorem keyed_wrap (tag : Text) {inner : Json} (h : inner.Keyed) : (wrap tag inner).Keyed := by
  have htag : (Json.string tag).Keyed := Json.keyed_leaf rfl
  exact Json.keyed_object (List.pairwise_pair.2 typeKey_lt_valueKey)
    (List.forall_mem_cons.2 ⟨htag, List.forall_mem_singleton.2 h⟩)

/-- Two wrappers in an object, and one inside the second. -/
def nested : Json :=
  .array [.number (.integer 7),
    .object [(['a'], wrap ['s'] .null), (['b'], wrap ['t'] (wrap ['s'] .null))]]

theorem decodes_in_place_nested : nested.Keyed ∧
    Reaches nested [.item 1, .field ['b']] ['t'] (wrap ['s'] .null) ∧
    (∃ v, decode [⟨['s'], .constant [], none⟩, ⟨['t'], .delegate, none⟩] nested = .ok v ∧
      v.at? [.item 1, .field ['b']] = some (.string [])) ∧
    decode [⟨['s'], .reject ['!'], none⟩] nested = .error (.rejected ['s'] ['!']) ∧
    ∃ p, FailsFirst (decoders [⟨['s'], .reject ['!'], none⟩]) nested p (.rejected ['s'] ['!']) := by
  have hnull : Json.null.Keyed := Json.keyed_leaf rfl
  have hseven : (Json.number (.integer 7)).Keyed := Json.keyed_leaf rfl
  have hkeyed : nested.Keyed := by
    refine Json.keyed_array (List.forall_mem_cons.2 ⟨hseven, List.forall_mem_singleton.2 ?_⟩)
    refine Json.keyed_object (List.pairwise_pair.2 (by decide)) (List.forall_mem_cons.2
      ⟨keyed_wrap ['s'] hnull,
        List.forall_mem_singleton.2 (keyed_wrap ['t'] (keyed_wrap ['s'] hnull))⟩)
  have hreach : Reaches nested [.item 1, .field ['b']] ['t'] (wrap ['s'] .null) := by
    rw [reaches_cons]
    refine ⟨rfl, _, rfl, ?_⟩
    rw [reaches_cons]
    exact ⟨rfl, _, rfl, reaches_nil.2 rfl⟩
  obtain ⟨hplaces, hregistry⟩ := decodes_in_place hkeyed
  have herror : decode [⟨['s'], .reject ['!'], none⟩] nested = .error (.rejected ['s'] ['!']) :=
    rfl
  refine ⟨hkeyed, hreach, ?_, herror, ?_⟩
  · obtain ⟨hdecode, -⟩ := hregistry [⟨['s'], .constant [], none⟩, ⟨['t'], .delegate, none⟩]
    obtain ⟨v, hv⟩ : ∃ v, decode [⟨['s'], .constant [], none⟩, ⟨['t'], .delegate, none⟩] nested =
        .ok v := ⟨_, rfl⟩
    obtain ⟨-, hreplaced, -⟩ := (hplaces _).1 v _ (hdecode.symm.trans hv) hreach.1
    obtain ⟨u, hu, hdispatch⟩ := hreplaced _ _ hreach
    refine ⟨v, hv, ?_⟩
    rw [hu]
    cases hdispatch
    rfl
  · exact ((hplaces _).2.1 _).1 ((hregistry _).1.symm.trans herror)

end Decode

end RemoteInterpreter
