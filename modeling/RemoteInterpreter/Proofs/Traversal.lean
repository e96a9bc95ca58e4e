import RemoteInterpreter.Decode
import RemoteInterpreter.Proofs.Tree

/-!
# Decoding with any decoders

A decoder may be any function of the inner value. Decoding with functions for the tags is the plain
recursion through a tree, stopped by wrappers, and a registry decodes as the functions that its
entries stand for.
-/

namespace RemoteInterpreter

namespace Decode

abbrev Decoders := Text → Option (Json → Except DecodeError Value)

/-- The tag and the inner value of an object of exactly the two keys, if the tag is a string. -/
def wrapper? : Json → Option (Text × Json)
  | .object fields =>
    if fields.length = 2 then
      match Entries.find? typeKey fields, Entries.find? valueKey fields with
      | some (.string tag), some inner => some (tag, inner)
      | _, _ => none
    else none
  | _ => none

def dispatch (of : Decoders) (tag : Text) (inner : Json) : Except DecodeError Value :=
  match of tag with
  | none => .error (.unregistered tag)
  | some f => f inner

mutual

def through (of : Decoders) : Json → Except DecodeError Value
  | .null => .ok .null
  | .bool b => .ok (.bool b)
  | .number n => .ok (number n)
  | .string s => .ok (.string s)
  | .array items => (throughItems of items).map .list
  | .object fields =>
    match wrapper? (.object fields) with
    | some (tag, inner) => dispatch of tag inner
    | none => (throughFields of fields).map .map

def throughItems (of : Decoders) : List Json → Except DecodeError (List Value)
  | [] => .ok []
  | item :: rest => do
    let item ← through of item
    let rest ← throughItems of rest
    return item :: rest

def throughFields (of : Decoders) :
    List (Text × Json) → Except DecodeError (List (Text × Value))
  | [] => .ok []
  | (key, value) :: rest => do
    let value ← through of value
    let rest ← throughFields of rest
    return (key, value) :: rest

end

/-- What a decoder of a registry makes of the value inside a wrapper. -/
def result (r : Registry) (tag : Text) : Decoder → Json → Except DecodeError Value
  | .float, inner => specialFloat inner
  | .items, .array items => (decodeItems r items).map .list
  | .items, inner => .error (.conversion (.notAList inner.write))
  | .complex, .array [a, b] => do
    let a ← (decode r a).bind complexPart
    let b ← (decode r b).bind complexPart
    return .list [a, b]
  | .complex, _ => .error (.rejected complexTag "expected [real, imag]".toList)
  | .delegate, inner => decode r inner
  | .constant text, _ => .ok (.string text)
  | .reject reason, _ => .error (.rejected tag reason)
  | .wrapOpaque, inner => .ok (.opaqueValue ⟨tag, inner.write, 0⟩)
  | .wrapMap, inner => (decode r inner).map (wrapped tag)

def decoders (r : Registry) : Decoders := fun tag =>
  (r.find? tag).map fun e => result r tag e.decoder

/-! A registry as functions -/

variable {r : Registry} {fields : List (Text × Json)}

theorem typeKey_lt_valueKey : typeKey < valueKey := by decide

theorem wrapper?_eq_some {tag : Text} {inner : Json} :
    wrapper? (.object fields) = some (tag, inner) ↔ fields.length = 2 ∧
      Entries.find? typeKey fields = some (.string tag) ∧
        Entries.find? valueKey fields = some inner := by
  rw [wrapper?]
  split
  · next hlength =>
    split
    · next t v htype hvalue => simp [hlength, htype, hvalue]
    · next hno =>
      simp only [reduceCtorEq, false_iff, not_and]
      exact fun _ htype hvalue => hno tag inner htype hvalue
  · next hlength => simp [hlength]

/-- In the order of the keys a wrapper has one form only. -/
theorem wrapper?_eq_some_iff (h : Entries.Sorted fields) {tag : Text} {inner : Json} :
    wrapper? (.object fields) = some (tag, inner) ↔
      fields = [(typeKey, .string tag), (valueKey, inner)] := by
  rw [wrapper?_eq_some]
  constructor
  · rintro ⟨hlength, htype, hvalue⟩
    have hne : typeKey ≠ valueKey := by decide
    have hmem := (h.find?_eq_some_iff).1 htype
    have hmem' := (h.find?_eq_some_iff).1 hvalue
    match fields, hlength with
    | [a, b], _ =>
      have hlt : a.1 < b.1 := by simpa [Entries.Sorted] using h
      simp only [List.mem_cons, List.not_mem_nil, or_false] at hmem hmem'
      rcases hmem with rfl | rfl <;> rcases hmem' with heq | heq
      · exact absurd (congrArg Prod.fst heq).symm hne
      · rw [heq]
      · rw [← heq] at hlt
        exact absurd (List.lt_trans hlt typeKey_lt_valueKey) (List.lt_irrefl _)
      · exact absurd (congrArg Prod.fst heq).symm hne
  · rintro rfl
    exact ⟨rfl, rfl, rfl⟩

theorem decodeWrapper_wrapper (r : Registry) (tag : Text) (inner : Json) :
    decodeWrapper r [(typeKey, .string tag), (valueKey, inner)] =
      some (dispatch (decoders r) tag inner) := by
  rw [decodeWrapper.eq_def]
  dsimp only
  rw [if_pos ⟨rfl, rfl⟩]
  cases hentry : r.find? tag with
  | none => simp [dispatch, decoders, hentry]
  | some e =>
    simp only [dispatch, decoders, hentry, Option.map_some]
    generalize e.decoder = d
    cases d with
    | items => cases inner <;> rfl
    | complex =>
      match inner with
      | .null | .bool _ | .number _ | .string _ | .object _ => rfl
      | .array [] | .array [_] | .array [_, _] | .array (_ :: _ :: _ :: _) => rfl
    | _ => rfl

theorem decodeWrapper_eq (h : Entries.Sorted fields) :
    decodeWrapper r fields =
      (wrapper? (.object fields)).map fun x => dispatch (decoders r) x.1 x.2 := by
  cases hw : wrapper? (.object fields) with
  | some x =>
    obtain rfl := (wrapper?_eq_some_iff h).1 hw
    exact decodeWrapper_wrapper r x.1 x.2
  | none =>
    have hno : ∀ tag inner, fields ≠ [(typeKey, .string tag), (valueKey, inner)] := by
      rintro tag inner rfl
      rw [(wrapper?_eq_some_iff h).2 rfl] at hw
      cases hw
    rw [decodeWrapper.eq_def]
    split
    · next key tag key' inner =>
      rw [if_neg]
      · rfl
      · rintro ⟨rfl, rfl⟩
        exact hno _ _ rfl
    · rfl

mutual

theorem decode_eq_through (r : Registry) (j : Json) (h : j.Keyed) :
    decode r j = through (decoders r) j := by
  match j with
  | .null | .bool _ | .number _ | .string _ => rfl
  | .array items => rw [decode, through, decodeItems_eq_throughItems r items h.items]
  | .object fields =>
    rw [decode, through, decodeWrapper_eq h.root,
      decodeFields_eq_throughFields r fields h.fields]
    cases wrapper? (.object fields) <;> rfl

theorem decodeItems_eq_throughItems (r : Registry) (items : List Json)
    (h : ∀ item ∈ items, item.Keyed) : decodeItems r items = throughItems (decoders r) items := by
  match items with
  | [] => rfl
  | item :: rest =>
    rw [decodeItems, throughItems, decode_eq_through r item (h item List.mem_cons_self),
      decodeItems_eq_throughItems r rest fun k hk => h k (List.mem_cons_of_mem _ hk)]

theorem decodeFields_eq_throughFields (r : Registry) (fields : List (Text × Json))
    (h : ∀ field ∈ fields, field.2.Keyed) :
    decodeFields r fields = throughFields (decoders r) fields := by
  match fields with
  | [] => rfl
  | (key, value) :: rest =>
    rw [decodeFields, throughFields, decode_eq_through r value (h _ List.mem_cons_self),
      decodeFields_eq_throughFields r rest fun k hk => h k (List.mem_cons_of_mem _ hk)]

end

end Decode

/-! Trees that are read -/

namespace Json

mutual

/-- Fields are put in order when a tree is read. -/
theorem keyed_of_ofSource? (limit : Nat) (source : Source) {j : Json}
    (h : ofSource? limit source = some j) : j.Keyed := by
  match source with
  | .null => cases h; exact keyed_leaf rfl
  | .bool b => cases h; exact keyed_leaf rfl
  | .number f =>
    rw [ofSource?] at h
    obtain ⟨n, -, rfl⟩ := Option.map_eq_some_iff.1 h
    exact keyed_leaf rfl
  | .string pieces =>
    rw [ofSource?] at h
    obtain ⟨s, -, rfl⟩ := Option.map_eq_some_iff.1 h
    exact keyed_leaf rfl
  | .array items =>
    match limit with
    | 0 => cases h
    | limit + 1 =>
      rw [ofSource?] at h
      obtain ⟨js, hitems, rfl⟩ := Option.map_eq_some_iff.1 h
      exact keyed_array (keyed_of_itemsOfSource? limit items hitems)
  | .object fields =>
    match limit with
    | 0 => cases h
    | limit + 1 =>
      rw [ofSource?] at h
      obtain ⟨fs, hfields, rfl⟩ := Option.map_eq_some_iff.1 h
      obtain ⟨hsorted, hmem⟩ := Entries.ofList_spec fs
      exact keyed_object hsorted fun f hf =>
        keyed_of_fieldsOfSource? limit fields hfields f (hmem f hf)

theorem keyed_of_itemsOfSource? (limit : Nat) (items : List Source) {js : List Json}
    (h : itemsOfSource? limit items = some js) : ∀ j ∈ js, j.Keyed := by
  match items with
  | [] => cases h; exact nofun
  | item :: rest =>
    simp only [itemsOfSource?, Option.bind_eq_bind, Option.bind_eq_some_iff] at h
    obtain ⟨j, hj, js', hjs, heq⟩ := h
    cases heq
    exact List.forall_mem_cons.2
      ⟨keyed_of_ofSource? limit item hj, keyed_of_itemsOfSource? limit rest hjs⟩

theorem keyed_of_fieldsOfSource? (limit : Nat) (fields : List (List Piece × Source))
    {fs : List (Text × Json)} (h : fieldsOfSource? limit fields = some fs) :
    ∀ f ∈ fs, f.2.Keyed := by
  match fields with
  | [] => cases h; exact nofun
  | (pieces, value) :: rest =>
    simp only [fieldsOfSource?, Option.bind_eq_bind, Option.bind_eq_some_iff] at h
    obtain ⟨key, -, j, hj, fs', hfs, heq⟩ := h
    cases heq
    exact List.forall_mem_cons.2
      ⟨keyed_of_ofSource? limit value hj, keyed_of_fieldsOfSource? limit rest hfs⟩

end

theorem keyed_of_read? {t : Text} {j : Json} (h : read? t = some j) : j.Keyed := by
  obtain ⟨source, -, hsource⟩ := Option.bind_eq_some_iff.1 h
  exact keyed_of_ofSource? depthLimit source hsource

end Json

end RemoteInterpreter
