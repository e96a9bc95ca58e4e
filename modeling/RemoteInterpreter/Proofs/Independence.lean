import Mathlib.Data.List.Permutation
import RemoteInterpreter.Proofs.InPlace
import RemoteInterpreter.Proofs.Registration

/-!
# Which decoders matter

A decoder may ask the whole registry again for the value inside its wrapper, but all that it comes
upon there are the wrappers of the tree. So only the tags that the tree mentions matter, and
whatever is registered for other tags leaves its decoding as it was.
-/

namespace RemoteInterpreter

namespace Json

/-- A wrapper stands at the place. -/
def WrapperAt (j : Json) (p : List Step) (tag : Text) (inner : Json) : Prop :=
  (j.at? p).bind Decode.wrapper? = some (tag, inner)

/-- A wrapper somewhere in the tree has this tag, at any depth and also inside other wrappers. -/
def Mentions (j : Json) (tag : Text) : Prop := ∃ p inner, j.WrapperAt p tag inner

variable {j k inner : Json} {s : Step} {p : List Step} {tag : Text}

theorem wrapperAt_nil : j.WrapperAt [] tag inner ↔ Decode.wrapper? j = some (tag, inner) := .rfl

theorem wrapperAt_cons : j.WrapperAt (s :: p) tag inner ↔
    ∃ k, j.layer.child? s = some k ∧ k.WrapperAt p tag inner := by
  simp only [WrapperAt, at?_cons]
  cases j.layer.child? s <;> simp

theorem not_wrapperAt_leaf (h : j.layer = .leaf) : ¬ j.WrapperAt p tag inner := by
  cases p with
  | nil =>
    intro hw
    cases j with
    | object fields => cases h
    | _ => cases hw
  | cons s p =>
    rw [wrapperAt_cons, h]
    rintro ⟨k, hk, -⟩
    cases hk

/-- Below a wrapper there are only the wrappers of the inner value. -/
theorem wrapperAt_wrap {t : Text} {i : Json} : (Decode.wrap t i).WrapperAt p tag inner ↔
    (p = [] ∧ tag = t ∧ inner = i) ∨
      ∃ q, p = .field Decode.valueKey :: q ∧ i.WrapperAt q tag inner := by
  have hvalue : (Decode.wrap t i).layer.child? (.field Decode.valueKey) = some i := rfl
  constructor
  · intro h
    cases p with
    | nil =>
      cases wrapperAt_nil.1 h
      exact Or.inl ⟨rfl, rfl, rfl⟩
    | cons s p =>
      obtain ⟨k, hk, hp⟩ := wrapperAt_cons.1 h
      obtain ⟨key, rfl, hmem⟩ := Layer.mem_fields.1 (Layer.mem_children_of_child? hk)
      simp only [List.mem_cons, List.not_mem_nil, or_false, Prod.mk.injEq] at hmem
      rcases hmem with ⟨-, rfl⟩ | ⟨rfl, rfl⟩
      · exact absurd hp (not_wrapperAt_leaf rfl)
      · exact Or.inr ⟨p, rfl, hp⟩
  · rintro (⟨rfl, rfl, rfl⟩ | ⟨q, rfl, hq⟩)
    · rfl
    · exact wrapperAt_cons.2 ⟨i, hvalue, hq⟩

theorem mentions_of_wrapper (h : Decode.wrapper? j = some (tag, inner)) : j.Mentions tag :=
  ⟨[], inner, wrapperAt_nil.2 h⟩

theorem Mentions.of_child (hk : j.layer.child? s = some k) (h : k.Mentions tag) :
    j.Mentions tag := by
  obtain ⟨p, inner, hp⟩ := h
  exact ⟨s :: p, inner, wrapperAt_cons.2 ⟨k, hk, hp⟩⟩

theorem not_mentions_leaf (h : j.layer = .leaf) : ¬ j.Mentions tag :=
  fun ⟨_, _, hp⟩ => not_wrapperAt_leaf h hp

theorem mentions_wrap {t : Text} : (Decode.wrap t k).Mentions tag ↔ tag = t ∨ k.Mentions tag := by
  constructor
  · rintro ⟨p, inner, hp⟩
    rcases wrapperAt_wrap.1 hp with ⟨-, rfl, -⟩ | ⟨q, -, hq⟩
    · exact Or.inl rfl
    · exact Or.inr ⟨q, inner, hq⟩
  · rintro (rfl | ⟨q, inner, hq⟩)
    · exact ⟨[], k, wrapperAt_wrap.2 (Or.inl ⟨rfl, rfl, rfl⟩)⟩
    · exact ⟨_, inner, wrapperAt_wrap.2 (Or.inr ⟨q, rfl, hq⟩)⟩

end Json

namespace Registry

/-- What the registry does with a tag. -/
def decoder? (r : Registry) (tag : Text) : Option Decoder := (r.find? tag).map Entry.decoder

theorem decoder?_register_of_ne {e : Entry} {tag : Text} (h : e.tag ≠ tag) (r : Registry) :
    (r.register e).decoder? tag = r.decoder? tag := by
  rw [decoder?, find?_register_of_ne h, decoder?]

/-- Entries for other tags change nothing. -/
theorem decoder?_foldl {entries : List Entry} {tag : Text} (h : ∀ e ∈ entries, e.tag ≠ tag)
    (r : Registry) : (entries.foldl (fun r e => r.register e) r).decoder? tag = r.decoder? tag := by
  induction entries generalizing r with
  | nil => rfl
  | cons e entries ih =>
    have hrest := ih (fun d hd => h d (List.mem_cons_of_mem _ hd)) (r.register e)
    rw [List.foldl_cons, hrest, decoder?_register_of_ne (h e List.mem_cons_self)]

end Registry

namespace Decode

variable {r r' : Registry} {j inner : Json} {tag : Text}

theorem decoders_eq (r : Registry) (tag : Text) :
    decoders r tag = (r.decoder? tag).map (result r tag) := by
  rw [decoders, Registry.decoder?, Option.map_map]
  rfl

theorem decodeItems_congr {items : List Json} (h : ∀ item ∈ items, decode r item = decode r' item) :
    decodeItems r items = decodeItems r' items := by
  induction items with
  | nil => rfl
  | cons item rest ih =>
    rw [decodeItems, decodeItems, h item List.mem_cons_self,
      ih fun k hk => h k (List.mem_cons_of_mem _ hk)]

theorem decodeFields_congr {fields : List (Text × Json)}
    (h : ∀ f ∈ fields, decode r f.2 = decode r' f.2) :
    decodeFields r fields = decodeFields r' fields := by
  induction fields with
  | nil => rfl
  | cons f rest ih =>
    rw [decodeFields, decodeFields, h f List.mem_cons_self,
      ih fun k hk => h k (List.mem_cons_of_mem _ hk)]

/-- A decoder makes the same of an inner value with both registries, if both decode alike whatever
stands in it. -/
theorem result_congr (h : ∀ p k, inner.at? p = some k → decode r k = decode r' k) (tag : Text)
    (d : Decoder) : result r tag d inner = result r' tag d inner := by
  have whole : decode r inner = decode r' inner := h [] inner rfl
  cases d with
  | items =>
    cases inner with
    | array items => exact whole
    | _ => rfl
  | complex =>
    match inner, h with
    | .array [a, b], h =>
      have first : decode r a = decode r' a := h [.item 0] a rfl
      have second : decode r b = decode r' b := h [.item 1] b rfl
      simp only [result, first, second]
    | .null, _ | .bool _, _ | .number _, _ | .string _, _ | .object _, _ => rfl
    | .array [], _ | .array [_], _ | .array (_ :: _ :: _ :: _), _ => rfl
  | delegate => exact whole
  | wrapMap => simp only [result, whole]
  | _ => rfl

/-- Registries that treat the tags of a tree alike decode alike whatever stands in it. -/
theorem decode_places_congr (h : j.Keyed)
    (same : ∀ tag, j.Mentions tag → r.decoder? tag = r'.decoder? tag) :
    ∀ p k, j.at? p = some k → decode r k = decode r' k := by
  induction j using Json.tree_induction with
  | step j ih =>
    have below : ∀ s k, (s, k) ∈ j.layer.children →
        ∀ p l, k.at? p = some l → decode r l = decode r' l := by
      intro s k hk
      have hchild := h.child?_eq_some_iff.2 hk
      exact ih s k hk (h.child hchild) fun tag ht => same tag (ht.of_child hchild)
    have child : ∀ s k, (s, k) ∈ j.layer.children → decode r k = decode r' k :=
      fun s k hk => below s k hk [] k rfl
    refine forall_places ?_ below
    cases j with
    | array items =>
      have items : ∀ item ∈ items, decode r item = decode r' item := by
        intro item hitem
        obtain ⟨i, hi⟩ := List.getElem?_of_mem hitem
        exact child (.item i) item (Layer.mem_items.2 ⟨i, rfl, hi⟩)
      rw [decode, decode, decodeItems_congr items]
    | object fields =>
      rw [decode, decode, decodeWrapper_eq h.root, decodeWrapper_eq h.root]
      cases hw : wrapper? (.object fields) with
      | none =>
        have fields : ∀ f ∈ fields, decode r f.2 = decode r' f.2 := fun f hf =>
          child (.field f.1) f.2 (Layer.mem_fields.2 ⟨f.1, rfl, hf⟩)
        simp only [Option.map_none, decodeFields_congr fields]
      | some x =>
        obtain ⟨tag, inner⟩ := x
        -- the decoder is the same, and the inner value is one of the fields
        have hinner : (Step.field valueKey, inner) ∈ (Json.object fields).layer.children :=
          Layer.mem_children_of_child? (wrapper?_eq_some.1 hw).2.2
        have hresult := result_congr (below _ inner hinner) tag
        simp only [Option.map_some, dispatch, decoders_eq,
          same tag (Json.mentions_of_wrapper hw)]
        cases r'.decoder? tag with
        | none => rfl
        | some d => exact hresult d
    | _ => rfl

/-- Decoding depends on the decoders of the tags that occur in the tree and on no others. Two
registries that have the same decoders for these give the same value or the same error, for a tree
and for the text of a payload. So a payload is decoded as before when a decoder is registered, or
replaced, for a tag that does not occur in it, and after every run of a session that has stored
entries for such tags only. -/
theorem decoding_depends_on_mentioned :
    (∀ (j : Json) (r r' : Registry), j.Keyed →
      (∀ tag, j.Mentions tag → r.decoder? tag = r'.decoder? tag) → decode r j = decode r' j) ∧
    (∀ (text : Text) (r r' : Registry),
      (∀ j tag, Json.read? text = some j → j.Mentions tag → r.decoder? tag = r'.decoder? tag) →
        payload r text = payload r' text) ∧
    (∀ (text : Text) (r : Registry) (e : Entry),
      (∀ j, Json.read? text = some j → ¬ j.Mentions e.tag) →
        payload (r.register e) text = payload r text) ∧
    ∀ (text : Text) (s : Session) (as : List Session.Action),
      (∀ j e, Json.read? text = some j → e ∈ s.entries as → ¬ j.Mentions e.tag) →
        payload (s.run as).registry text = payload s.registry text := by
  have tree : ∀ (j : Json) (r r' : Registry), j.Keyed →
      (∀ tag, j.Mentions tag → r.decoder? tag = r'.decoder? tag) → decode r j = decode r' j :=
    fun j r r' hkeyed same => decode_places_congr hkeyed same [] j rfl
  have read : ∀ (text : Text) (r r' : Registry),
      (∀ j tag, Json.read? text = some j → j.Mentions tag → r.decoder? tag = r'.decoder? tag) →
        payload r text = payload r' text := by
    intro text r r' same
    unfold payload
    cases hj : Json.read? text with
    | none => rfl
    | some j => exact tree j r r' (Json.keyed_of_read? hj) fun tag => same j tag hj
  refine ⟨tree, read, fun text r e unused => ?_, fun text s as unused => ?_⟩
  · refine read text _ _ fun j tag hj hmentions => ?_
    refine Registry.decoder?_register_of_ne (fun htag => ?_) r
    exact unused j hj (htag ▸ hmentions)
  · refine read text _ _ fun j tag hj hmentions => ?_
    rw [Session.registry_run]
    refine Registry.decoder?_foldl (fun e he htag => ?_) s.registry
    exact unused j e hj he (htag ▸ hmentions)

/-- A wrapper inside a wrapper, whose decoder asks the registry again. -/
def delegated : Json := wrap ['t'] (wrap ['s'] .null)

def delegatedText : Text :=
  "\x7b\"%%hopi_t%%\":\"t\",\"%%hopi_v%%\":".toList ++
    "\x7b\"%%hopi_t%%\":\"s\",\"%%hopi_v%%\":null\x7d\x7d".toList

/-- Both tags of the tree have decoders here, and a third tag is refused. -/
def delegating : Registry :=
  [⟨['s'], .constant ['!'], none⟩, ⟨['u'], .reject [], none⟩, ⟨['t'], .delegate, none⟩]

theorem decoding_depends_on_mentioned_delegated :
    delegated.Keyed ∧ Json.read? delegatedText = some delegated ∧ ¬ delegated.Mentions ['u'] ∧
    decode delegating delegated = .ok (.string ['!']) ∧
    decode [⟨['t'], .delegate, none⟩, ⟨['s'], .constant ['!'], some ['f']⟩] delegated =
      .ok (.string ['!']) ∧
    payload (delegating.register ⟨['u'], .items, none⟩) delegatedText = .ok (.string ['!']) ∧
    payload ((Session.newSession.run [.registerLocal ⟨['s'], .constant ['!'], none⟩,
      .registerLocal ⟨['t'], .delegate, none⟩]).run [.registerLocal ⟨['u'], .items, none⟩]).registry
      delegatedText = .ok (.string ['!']) := by
  have hkeyed : delegated.Keyed := keyed_wrap _ (keyed_wrap _ (Json.keyed_leaf rfl))
  have hread : Json.read? delegatedText = some delegated := by cbv
  have htags : ∀ tag, delegated.Mentions tag → tag = ['t'] ∨ tag = ['s'] := by
    intro tag h
    refine (Json.mentions_wrap.1 h).imp_right fun h => ?_
    exact (Json.mentions_wrap.1 h).resolve_right (Json.not_mentions_leaf rfl)
  have hunused : ¬ delegated.Mentions ['u'] := by
    intro h
    rcases htags _ h with h | h <;> cases h
  have hdecode : decode delegating delegated = .ok (.string ['!']) := rfl
  have hpayload : ∀ r, payload r delegatedText = decode r delegated := by
    intro r
    rw [payload, hread]
  obtain ⟨trees, -, registered, runs⟩ := decoding_depends_on_mentioned
  refine ⟨hkeyed, hread, hunused, hdecode, ?_, ?_, ?_⟩
  · refine (trees delegated _ delegating hkeyed fun tag h => ?_).trans hdecode
    rcases htags tag h with rfl | rfl <;> rfl
  · refine (registered delegatedText delegating _ fun j hj => ?_).trans
      ((hpayload _).trans hdecode)
    cases hread.symm.trans hj
    exact hunused
  · refine (runs delegatedText _ _ fun j e hj he => ?_).trans ((hpayload _).trans rfl)
    cases hread.symm.trans hj
    have heq : e = ⟨['u'], .items, none⟩ := List.mem_singleton.1 he
    rw [heq]
    exact hunused

end Decode

end RemoteInterpreter
