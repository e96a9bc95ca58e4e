import RemoteInterpreter.Proofs.InPlace

/-!
# Conversion and decoding

A value that has a JSON form is what this form decodes to, unless a map in it looks like a wrapper,
and a tree without wrappers is the JSON form of what it decodes to, unless an integer in it is too
large.
-/

namespace RemoteInterpreter

/-! Lists and entries that are converted one by one -/

section

variable {α β ε : Type} {f : α → Option β} {g : β → Except ε α}

theorem map_ok_of_map_some {xs : List α} {ys : List β} (h : xs.map f = ys.map some)
    (hg : ∀ x ∈ xs, ∀ y, f x = some y → g y = .ok x) : ys.map g = xs.map .ok := by
  induction xs generalizing ys with
  | nil => cases ys <;> simp_all
  | cons x xs ih =>
    cases ys with
    | nil => simp at h
    | cons y ys =>
      obtain ⟨hx, hxs⟩ := List.cons.inj h
      rw [List.map_cons, List.map_cons, hg x List.mem_cons_self y hx,
        ih hxs fun x hx => hg x (List.mem_cons_of_mem _ hx)]

theorem entries_ok_of_entries_some {xs : Entries α} {ys : Entries β}
    (h : (xs.map fun x => (x.1, f x.2)) = ys.map fun y => (y.1, some y.2))
    (hg : ∀ x ∈ xs, ∀ y, f x.2 = some y → g y = .ok x.2) :
    (ys.map fun y => (y.1, g y.2)) = xs.map fun x => (x.1, .ok x.2) := by
  induction xs generalizing ys with
  | nil => cases ys <;> simp_all
  | cons x xs ih =>
    cases ys with
    | nil => simp at h
    | cons y ys =>
      obtain ⟨hx, hxs⟩ := List.cons.inj h
      obtain ⟨hkey, hvalue⟩ := Prod.mk.inj hx
      rw [List.map_cons, List.map_cons, hg x List.mem_cons_self y.2 hvalue, hkey,
        ih hxs fun x hx => hg x (List.mem_cons_of_mem _ hx)]

/-- Each value is picked once, for all ways of decoding. -/
theorem exists_map_ok {ι : Type} {g : ι → β → Except ε α} {ys : List β}
    (h : ∀ y ∈ ys, ∃ x, (∀ i, g i y = .ok x) ∧ f x = some y) :
    ∃ xs : List α, (∀ i, ys.map (g i) = xs.map .ok) ∧ xs.map f = ys.map some := by
  induction ys with
  | nil => exact ⟨[], fun _ => rfl, rfl⟩
  | cons y ys ih =>
    obtain ⟨x, hx, hy⟩ := h y List.mem_cons_self
    obtain ⟨xs, hxs, hys⟩ := ih fun y hy => h y (List.mem_cons_of_mem _ hy)
    exact ⟨x :: xs, fun i => by simp [hx, hxs], by simp [hy, hys]⟩

theorem exists_entries_ok {ι : Type} {g : ι → β → Except ε α} {ys : Entries β}
    (h : ∀ y ∈ ys, ∃ x, (∀ i, g i y.2 = .ok x) ∧ f x = some y.2) :
    ∃ xs : Entries α,
      (∀ i, (ys.map fun y => (y.1, g i y.2)) = xs.map fun x => (x.1, .ok x.2)) ∧
        (xs.map fun x => (x.1, f x.2)) = ys.map fun y => (y.1, some y.2) := by
  induction ys with
  | nil => exact ⟨[], fun _ => rfl, rfl⟩
  | cons y ys ih =>
    obtain ⟨x, hx, hy⟩ := h y List.mem_cons_self
    obtain ⟨xs, hxs, hys⟩ := ih fun y hy => h y (List.mem_cons_of_mem _ hy)
    exact ⟨(y.1, x) :: xs, fun i => by simp [hx, hxs], by simp [hy, hys]⟩

end

namespace Value

variable {v u : Value} {j : Json} {s : Step} {p : List Step}

theorem itemsToJson?_eq_some_iff {items : List Value} {js : List Json} :
    itemsToJson? items = some js ↔ items.map toJson? = js.map some := by
  induction items generalizing js with
  | nil => cases js <;> simp [itemsToJson?]
  | cons item rest ih =>
    rw [itemsToJson?]
    cases js with
    | nil => cases toJson? item <;> cases itemsToJson? rest <;> simp
    | cons j js =>
      rw [List.map_cons, List.map_cons, List.cons.injEq, ← ih]
      cases toJson? item <;> cases itemsToJson? rest <;> simp

theorem entriesToJson?_eq_some_iff {entries : List (Text × Value)} {fields : List (Text × Json)} :
    entriesToJson? entries = some fields ↔
      (entries.map fun e => (e.1, toJson? e.2)) = fields.map fun f => (f.1, some f.2) := by
  induction entries generalizing fields with
  | nil => cases fields <;> simp [entriesToJson?]
  | cons entry rest ih =>
    obtain ⟨key, value⟩ := entry
    rw [entriesToJson?]
    cases fields with
    | nil => cases toJson? value <;> cases entriesToJson? rest <;> simp
    | cons f fields =>
      rw [List.map_cons, List.map_cons, List.cons.injEq, ← ih, Prod.mk.injEq]
      cases toJson? value <;> cases entriesToJson? rest <;>
        simp [Prod.ext_iff, and_assoc, eq_comm]

theorem toJson?_list {items : List Value} : (list items).toJson? = some j ↔
    ∃ js, items.map toJson? = js.map some ∧ .array js = j := by
  simp only [toJson?, Option.map_eq_some_iff, itemsToJson?_eq_some_iff]

theorem toJson?_map {entries : List (Text × Value)} : (map entries).toJson? = some j ↔
    ∃ fields, ((entries.map fun e => (e.1, toJson? e.2)) = fields.map fun f => (f.1, some f.2)) ∧
      .object fields = j := by
  simp only [toJson?, Option.map_eq_some_iff, entriesToJson?_eq_some_iff]

/-! What has no form -/

/-- Opaque values, and floats that are not finite. -/
def Unwritable : Value → Prop
  | .opaqueValue _ => True
  | .float x => x.isFinite = false
  | _ => False

theorem itemsToJson?_eq_none_iff {items : List Value} :
    itemsToJson? items = none ↔ ∃ item ∈ items, toJson? item = none := by
  induction items with
  | nil => simp [itemsToJson?]
  | cons item rest ih =>
    have hcons : (∃ k ∈ item :: rest, toJson? k = none) ↔
        toJson? item = none ∨ ∃ k ∈ rest, toJson? k = none := by simp
    rw [itemsToJson?, hcons, ← ih]
    cases toJson? item <;> cases itemsToJson? rest <;> simp

theorem entriesToJson?_eq_none_iff {entries : List (Text × Value)} :
    entriesToJson? entries = none ↔ ∃ e ∈ entries, toJson? e.2 = none := by
  induction entries with
  | nil => simp [entriesToJson?]
  | cons entry rest ih =>
    have hcons : (∃ e ∈ entry :: rest, toJson? e.2 = none) ↔
        toJson? entry.2 = none ∨ ∃ e ∈ rest, toJson? e.2 = none := by simp
    rw [entriesToJson?, hcons, ← ih]
    cases toJson? entry.2 <;> cases entriesToJson? rest <;> simp

/-- A value has no form because of itself or because of a child. -/
theorem toJson?_eq_none_of_children : v.toJson? = none ↔
    v.Unwritable ∨ ∃ s u, (s, u) ∈ v.layer.children ∧ u.toJson? = none := by
  cases v with
  | list items =>
    simp only [toJson?, Option.map_eq_none_iff, itemsToJson?_eq_none_iff, Unwritable, false_or,
      layer, Layer.exists_items]
  | map entries =>
    simp only [toJson?, Option.map_eq_none_iff, entriesToJson?_eq_none_iff, Unwritable, false_or,
      layer, Layer.exists_fields]
  | float x => simp [toJson?, Unwritable, layer, Layer.children]
  | _ => simp [toJson?, Unwritable, layer, Layer.children]

theorem toJson?_eq_none_iff (h : v.Keyed) :
    v.toJson? = none ↔ ∃ p u, v.at? p = some u ∧ u.Unwritable := by
  induction v using tree_induction with
  | step v ih =>
    rw [toJson?_eq_none_of_children]
    constructor
    · rintro (hroot | ⟨s, u, hu, hnone⟩)
      · exact ⟨[], v, rfl, hroot⟩
      · have hchild := h.child?_eq_some_iff.2 hu
        obtain ⟨p, w, hp, hw⟩ := (ih s u hu (h.child hchild)).1 hnone
        exact ⟨s :: p, w, by rw [at?_cons, hchild]; exact hp, hw⟩
    · rintro ⟨p, w, hp, hw⟩
      cases p with
      | nil =>
        cases hp
        exact Or.inl hw
      | cons s p =>
        obtain ⟨u, hchild, hp⟩ := Option.bind_eq_some_iff.1 hp
        have hu := h.child?_eq_some_iff.1 hchild
        exact Or.inr ⟨s, u, hu, (ih s u hu (h.child hchild)).2 ⟨p, w, hp, hw⟩⟩

/-! What is decoded from a form -/

/-- Integers are signed words of sixty-four bits, and maps list their entries by key. -/
structure Valid (v : Value) : Prop where
  ints : ∀ p n, v.at? p = some (.int n) → -2 ^ 63 ≤ n ∧ n < 2 ^ 63
  keyed : v.Keyed

/-- A map that would be written as a wrapper. -/
def WrapperShaped (v : Value) : Prop :=
  ∃ entries tag inner, v = .map entries ∧ entries.length = 2 ∧
    Entries.find? Decode.typeKey entries = some (.string tag) ∧
      Entries.find? Decode.valueKey entries = some inner

theorem Valid.child (h : v.Valid) (hu : v.layer.child? s = some u) : u.Valid :=
  ⟨fun p n hp => h.ints (s :: p) n (by rw [at?_cons, hu]; exact hp), h.keyed.child hu⟩

theorem toJson?_eq_string {t : Text} (h : v.toJson? = some (.string t)) : v = .string t := by
  cases v with
  | string t' =>
    cases h
    rfl
  | float x =>
    rw [toJson?] at h
    split at h <;> cases h
  | list items =>
    obtain ⟨js, -, heq⟩ := toJson?_list.1 h
    cases heq
  | map entries =>
    obtain ⟨fields, -, heq⟩ := toJson?_map.1 h
    cases heq
  | _ => cases h

variable {entries : List (Text × Value)} {fields : List (Text × Json)}

/-- A field of the form is the form of the entry with its key. -/
theorem find?_of_entries
    (h : (entries.map fun e => (e.1, toJson? e.2)) = fields.map fun f => (f.1, some f.2))
    (key : Text) :
    (Entries.find? key entries).map toJson? = (Entries.find? key fields).map some := by
  rw [← Entries.find?_map, ← Entries.find?_map, h]

/-- The form of a map is a wrapper only if the map has the shape of one. -/
theorem wrapper?_of_entries
    (h : (entries.map fun e => (e.1, toJson? e.2)) = fields.map fun f => (f.1, some f.2))
    (hshape : ¬ (map entries).WrapperShaped) : Decode.wrapper? (.object fields) = none := by
  cases hw : Decode.wrapper? (.object fields) with
  | none => rfl
  | some x =>
    obtain ⟨hlength, htype, hvalue⟩ := Decode.wrapper?_eq_some.1 hw
    have htag := find?_of_entries h Decode.typeKey
    have hinner := find?_of_entries h Decode.valueKey
    rw [htype] at htag
    rw [hvalue] at hinner
    obtain ⟨t, ht, htag⟩ := Option.map_eq_some_iff.1 htag
    obtain ⟨i, hi, -⟩ := Option.map_eq_some_iff.1 hinner
    have hsame : entries.length = fields.length := by simpa using congrArg List.length h
    rw [toJson?_eq_string htag] at ht
    exact absurd ⟨entries, x.1, i, rfl, hsame.trans hlength, ht, hi⟩ hshape

/-- The form is decoded to the value, with any decoders. -/
theorem through_of_toJson? (of : Decode.Decoders) (h : v.Valid)
    (hshape : ∀ p u, v.at? p = some u → ¬ u.WrapperShaped) (hj : v.toJson? = some j) :
    Decode.through of j = .ok v := by
  induction v using tree_induction generalizing j with
  | step v ih =>
    -- what is required of a value is required of its children, at places below
    have hbelow : ∀ s u k, (s, u) ∈ v.layer.children → u.toJson? = some k →
        Decode.through of k = .ok u := by
      intro s u k hu hk
      have hchild := h.keyed.child?_eq_some_iff.2 hu
      refine ih s u hu (h.child hchild) (fun p w hp => hshape (s :: p) w ?_) hk
      rw [at?_cons, hchild]
      exact hp
    cases v with
    | null => cases hj; rfl
    | bool b => cases hj; rfl
    | int n =>
      cases hj
      rw [Decode.through, Decode.number, if_pos (h.ints [] n rfl)]
    | float x =>
      rw [toJson?] at hj
      split at hj
      · cases hj; rfl
      · cases hj
    | string t => cases hj; rfl
    | list items =>
      obtain ⟨js, hjs, rfl⟩ := toJson?_list.1 hj
      refine Decode.through_array.2 ⟨items, map_ok_of_map_some hjs fun u hu k hk => ?_, rfl⟩
      obtain ⟨i, hi⟩ := List.getElem?_of_mem hu
      exact hbelow (.item i) u k (Layer.mem_items.2 ⟨i, rfl, hi⟩) hk
    | map entries =>
      obtain ⟨fields, hfields, rfl⟩ := toJson?_map.1 hj
      have hwrapper := wrapper?_of_entries hfields (hshape [] _ rfl)
      refine (Decode.through_object hwrapper).2
        ⟨entries, entries_ok_of_entries_some hfields fun e he k hk => ?_, rfl⟩
      exact hbelow (.field e.1) e.2 k (Layer.mem_fields.2 ⟨e.1, rfl, he⟩) hk
    | opaqueValue o => cases hj

/-- The form lists its fields by key, as the maps do. -/
theorem Keyed.toJson? (h : v.Keyed) (hj : v.toJson? = some j) : j.Keyed := by
  induction v using tree_induction generalizing j with
  | step v ih =>
    have hbelow : ∀ s u k, (s, u) ∈ v.layer.children → u.toJson? = some k → k.Keyed :=
      fun s u k hu hk => ih s u hu (h.child (h.child?_eq_some_iff.2 hu)) hk
    cases v with
    | list items =>
      obtain ⟨js, hjs, rfl⟩ := toJson?_list.1 hj
      refine Json.keyed_array fun k hk => ?_
      have hmem : some k ∈ items.map Value.toJson? := by
        rw [hjs]
        exact List.mem_map_of_mem hk
      obtain ⟨u, hu, hform⟩ := List.mem_map.1 hmem
      obtain ⟨i, hi⟩ := List.getElem?_of_mem hu
      exact hbelow (.item i) u k (Layer.mem_items.2 ⟨i, rfl, hi⟩) hform
    | map entries =>
      obtain ⟨fields, hfields, rfl⟩ := toJson?_map.1 hj
      refine Json.keyed_object ?_ fun f hf => ?_
      · have hkeys : entries.map Prod.fst = fields.map Prod.fst := by
          have hfst := congrArg (List.map Prod.fst) hfields
          simp only [List.map_map] at hfst
          exact hfst
        have hsorted : (entries.map Prod.fst).Pairwise (· < ·) :=
          List.pairwise_map.2 h.root
        rw [hkeys] at hsorted
        exact List.pairwise_map.1 hsorted
      · have hmem : (f.1, some f.2) ∈ entries.map fun e => (e.1, Value.toJson? e.2) := by
          rw [hfields]
          exact List.mem_map_of_mem hf
        obtain ⟨e, he, heq⟩ := List.mem_map.1 hmem
        exact hbelow (.field e.1) e.2 f.2 (Layer.mem_fields.2 ⟨e.1, rfl, he⟩) (Prod.mk.inj heq).2
    | float x =>
      rw [Value.toJson?] at hj
      split at hj <;> cases hj
      exact Json.keyed_leaf rfl
    | opaqueValue o => cases hj
    | _ =>
      cases hj
      exact Json.keyed_leaf rfl

end Value

namespace Json

variable {j k : Json} {s : Step}

/-- What every tree of the program is: numbers are words of sixty-four bits, signed or unsigned, and
finite floats, and objects list their fields by key. -/
structure Valid (j : Json) : Prop where
  integers : ∀ p n, j.at? p = some (.number (.integer n)) → -2 ^ 63 ≤ n ∧ n < 2 ^ 64
  floats : ∀ p x, j.at? p = some (.number (.float x)) → x.isFinite = true
  keyed : j.Keyed

theorem Valid.child (h : j.Valid) (hk : j.layer.child? s = some k) : k.Valid :=
  ⟨fun p n hp => h.integers (s :: p) n (by rw [at?_cons, hk]; exact hp),
    fun p x hp => h.floats (s :: p) x (by rw [at?_cons, hk]; exact hp), h.keyed.child hk⟩

/-- A tree without wrappers and large integers is the form of what it is decoded to. -/
theorem exists_toJson? (h : j.Valid)
    (hplain : ∀ p k, j.at? p = some k → Decode.wrapper? k = none)
    (hsmall : ∀ p n, j.at? p = some (.number (.integer n)) → n < 2 ^ 63) :
    ∃ v, (∀ of, Decode.through of j = .ok v) ∧ v.toJson? = some j := by
  induction j using tree_induction with
  | step j ih =>
    have hbelow : ∀ s k, (s, k) ∈ j.layer.children →
        ∃ v, (∀ of, Decode.through of k = .ok v) ∧ v.toJson? = some k := by
      intro s k hk
      have hchild := h.keyed.child?_eq_some_iff.2 hk
      refine ih s k hk (h.child hchild) (fun p l hp => hplain (s :: p) l ?_)
        fun p n hp => hsmall (s :: p) n ?_
      · rw [at?_cons, hchild]
        exact hp
      · rw [at?_cons, hchild]
        exact hp
    cases j with
    | null => exact ⟨.null, fun _ => rfl, rfl⟩
    | bool b => exact ⟨.bool b, fun _ => rfl, rfl⟩
    | number n =>
      cases n with
      | integer n =>
        refine ⟨.int n, fun of => ?_, rfl⟩
        rw [Decode.through, Decode.number, if_pos ⟨(h.integers [] n rfl).1, hsmall [] n rfl⟩]
      | float x =>
        refine ⟨.float x, fun _ => rfl, ?_⟩
        rw [Value.toJson?, if_pos (h.floats [] x rfl)]
    | string t => exact ⟨.string t, fun _ => rfl, rfl⟩
    | array items =>
      obtain ⟨vs, hthrough, hform⟩ := exists_map_ok fun k hk => by
        obtain ⟨i, hi⟩ := List.getElem?_of_mem hk
        exact hbelow (.item i) k (Layer.mem_items.2 ⟨i, rfl, hi⟩)
      exact ⟨.list vs, fun of => Decode.through_array.2 ⟨vs, hthrough of, rfl⟩,
        Value.toJson?_list.2 ⟨items, hform, rfl⟩⟩
    | object fields =>
      obtain ⟨es, hthrough, hform⟩ := exists_entries_ok fun f hf =>
        hbelow (.field f.1) f.2 (Layer.mem_fields.2 ⟨f.1, rfl, hf⟩)
      exact ⟨.map es,
        fun of => (Decode.through_object (hplain [] _ rfl)).2 ⟨es, hthrough of, rfl⟩,
        Value.toJson?_map.2 ⟨fields, hform, rfl⟩⟩

end Json

/-- Conversion and decoding are inverse. A value has no JSON form exactly if an opaque value or a
float that is not finite is somewhere in it. If it has a form, and no map in it has the shape of a
wrapper, the form is decoded to the value itself, bit for bit; and a tree without wrappers and
without integers too large for a signed word is the form of what it is decoded to, whatever is
registered. -/
theorem conversion_inverts_decoding :
    (∀ v : Value, v.Valid →
      (v.toJson? = none ↔ ∃ p u, v.at? p = some u ∧ u.Unwritable)) ∧
    (∀ (v : Value) (j : Json), v.Valid → (∀ p u, v.at? p = some u → ¬ u.WrapperShaped) →
      v.toJson? = some j →
        (∀ of, Decode.through of j = .ok v) ∧ ∀ r, Decode.decode r j = .ok v) ∧
    ∀ j : Json, j.Valid → (∀ p k, j.at? p = some k → Decode.wrapper? k = none) →
      (∀ p n, j.at? p = some (.number (.integer n)) → n < 2 ^ 63) →
        ∃ v, v.toJson? = some j ∧
          (∀ of, Decode.through of j = .ok v) ∧ ∀ r, Decode.decode r j = .ok v := by
  refine ⟨fun v hv => Value.toJson?_eq_none_iff hv.keyed, fun v j hv hshape hj => ?_,
    fun j hj hplain hsmall => ?_⟩
  · have hthrough : ∀ of, Decode.through of j = .ok v := fun of =>
      Value.through_of_toJson? of hv hshape hj
    exact ⟨hthrough, fun r =>
      (Decode.decode_eq_through r j (hv.keyed.toJson? hj)).trans (hthrough _)⟩
  · obtain ⟨v, hthrough, hform⟩ := Json.exists_toJson? hj hplain hsmall
    exact ⟨v, hform, hthrough, fun r =>
      (Decode.decode_eq_through r j hj.keyed).trans (hthrough _)⟩

/-- The two keys of a wrapper, with a number where the tag would be. -/
def untagged : Value :=
  .map [(Decode.typeKey, .int 5), (Decode.valueKey, .float (Binary64.zero true))]

theorem conversion_inverts_decoding_untagged : untagged.Valid ∧
    (∀ p u, untagged.at? p = some u → ¬ u.WrapperShaped) ∧
    ∀ r, Decode.decode r (.object [(Decode.typeKey, .number (.integer 5)),
      (Decode.valueKey, .number (.float (Binary64.zero true)))]) = .ok untagged := by
  have everywhere : ∀ {P : Value → Prop}, P untagged → P (.int 5) →
      P (.float (Binary64.zero true)) → ∀ p u, untagged.at? p = some u → P u := by
    intro P hroot hint hfloat
    refine forall_places hroot fun s u hu => ?_
    obtain ⟨key, -, hmem⟩ := Layer.mem_fields.1 hu
    simp only [List.mem_cons, List.not_mem_nil, or_false, Prod.mk.injEq] at hmem
    rcases hmem with ⟨-, rfl⟩ | ⟨-, rfl⟩
    · exact forall_places hint nofun
    · exact forall_places hfloat nofun
  have hints : ∀ p u, untagged.at? p = some u → ∀ n, u = .int n → -2 ^ 63 ≤ n ∧ n < 2 ^ 63 := by
    refine everywhere nofun (fun n hn => ?_) nofun
    cases hn
    decide
  have hsorted : untagged.layer.Sorted := List.pairwise_pair.2 Decode.typeKey_lt_valueKey
  have hvalid : untagged.Valid :=
    ⟨fun p n hp => hints p _ hp n rfl, everywhere hsorted trivial trivial⟩
  have hshape : ∀ p u, untagged.at? p = some u → ¬ u.WrapperShaped := by
    refine everywhere ?_ nofun nofun
    rintro ⟨_, tag, _, heq, -, htag, -⟩
    cases heq
    cases htag
  exact ⟨hvalid, hshape, (conversion_inverts_decoding.2.1 untagged _ hvalid hshape rfl).2⟩

end RemoteInterpreter
