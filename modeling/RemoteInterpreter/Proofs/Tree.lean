import Mathlib.Data.List.Lex
import RemoteInterpreter.Value
import RemoteInterpreter.Proofs.KeyOrder

/-!
# Trees and places

A place in a tree is the steps that lead to it: indices of items and keys of fields. JSON trees and
values branch in the same two ways, into items or into fields. What holds of a tree as soon as it
holds of its children holds of every tree, and where keys are in order the children are what one
step finds.
-/

namespace RemoteInterpreter

inductive Step where
  | item (i : Nat)
  | field (key : Text)
  deriving DecidableEq, Repr

namespace Step

/-- Items in the order of their indices, fields in that of the octets of their keys. -/
inductive Before : Step → Step → Prop
  | item {i k} (h : i < k) : Before (.item i) (.item k)
  | field {k l} (h : k.encode < l.encode) : Before (.field k) (.field l)

theorem Before.asymm {s t : Step} (h : Before s t) : ¬ Before t s := by
  intro h'
  cases h with
  | item h =>
    cases h' with
    | item h' => exact Nat.lt_asymm h h'
  | field h =>
    cases h' with
    | field h' => exact List.lt_irrefl _ (List.lt_trans h h')

instance : Std.Asymm Before := ⟨fun _ _ => Before.asymm⟩

end Step

/-! Layers -/

/-- What a tree is at its root. -/
inductive Layer (α : Type) where
  | leaf
  | items (items : List α)
  | fields (fields : Entries α)

namespace Layer

variable {α : Type} {l : Layer α} {items : List α} {fields : Entries α} {s : Step} {x : α}

/-- What lies directly below, in its order, each with the step to it. -/
def children : Layer α → List (Step × α)
  | .leaf => []
  | .items items => items.mapIdx fun i item => (.item i, item)
  | .fields fields => fields.map fun field => (.field field.1, field.2)

def child? : Layer α → Step → Option α
  | .items items, .item i => items[i]?
  | .fields fields, .field key => Entries.find? key fields
  | _, _ => none

/-- Fields stand in the order of their keys. -/
def Sorted : Layer α → Prop
  | .fields fields => Entries.Sorted fields
  | _ => True

theorem mem_items : (s, x) ∈ (Layer.items items).children ↔
    ∃ i, s = .item i ∧ items[i]? = some x := by
  simp only [children, List.mem_mapIdx, List.getElem?_eq_some_iff]
  grind

theorem mem_fields : (s, x) ∈ (Layer.fields fields).children ↔
    ∃ key, s = .field key ∧ (key, x) ∈ fields := by
  simp only [children, List.mem_map, Prod.exists]
  grind

theorem exists_items {P : α → Prop} :
    (∃ s x, (s, x) ∈ (Layer.items items).children ∧ P x) ↔ ∃ x ∈ items, P x := by
  constructor
  · rintro ⟨s, x, hmem, hx⟩
    obtain ⟨i, -, hi⟩ := mem_items.1 hmem
    exact ⟨x, List.mem_of_getElem? hi, hx⟩
  · rintro ⟨x, hmem, hx⟩
    obtain ⟨i, hi⟩ := List.getElem?_of_mem hmem
    exact ⟨.item i, x, mem_items.2 ⟨i, rfl, hi⟩, hx⟩

theorem exists_fields {P : α → Prop} :
    (∃ s x, (s, x) ∈ (Layer.fields fields).children ∧ P x) ↔ ∃ field ∈ fields, P field.2 := by
  constructor
  · rintro ⟨s, x, hmem, hx⟩
    obtain ⟨key, -, hfield⟩ := mem_fields.1 hmem
    exact ⟨_, hfield, hx⟩
  · rintro ⟨field, hmem, hx⟩
    exact ⟨.field field.1, field.2, mem_fields.2 ⟨field.1, rfl, hmem⟩, hx⟩

theorem map_snd_items (items : List α) : (Layer.items items).children.map Prod.snd = items :=
  List.ext_getElem (by simp [children]) fun i _ _ => by simp [children]

theorem mem_children_of_child? (h : l.child? s = some x) : (s, x) ∈ l.children := by
  cases l with
  | leaf => cases h
  | items items =>
    cases s with
    | item i => exact mem_items.2 ⟨i, rfl, h⟩
    | field => cases h
  | fields fields =>
    cases s with
    | item => cases h
    | field key => exact mem_fields.2 ⟨key, rfl, Entries.mem_of_find? h⟩

/-- One step finds exactly the children. -/
theorem Sorted.child?_eq_some_iff (h : l.Sorted) : l.child? s = some x ↔ (s, x) ∈ l.children := by
  refine ⟨mem_children_of_child?, fun hmem => ?_⟩
  cases l with
  | leaf => cases hmem
  | items items =>
    obtain ⟨i, rfl, hi⟩ := mem_items.1 hmem
    exact hi
  | fields fields =>
    obtain ⟨key, rfl, hfield⟩ := mem_fields.1 hmem
    exact (Entries.Sorted.find?_eq_some_iff h).2 hfield

theorem Sorted.pairwise_children (h : l.Sorted) :
    l.children.Pairwise fun a b => Step.Before a.1 b.1 := by
  cases l with
  | leaf => exact List.Pairwise.nil
  | items items =>
    refine List.pairwise_iff_getElem.2 fun i k hi hk hlt => ?_
    simpa [children] using Step.Before.item hlt
  | fields fields =>
    exact List.pairwise_map.2 (List.Pairwise.imp (fun hlt => .field (Text.encode_lt hlt)) h)

/-- Children are smaller than what they are children of. -/
theorem sizeOf_lt [SizeOf α] (h : (s, x) ∈ l.children) : sizeOf x < sizeOf l := by
  cases l with
  | leaf => cases h
  | items items =>
    obtain ⟨i, -, hi⟩ := mem_items.1 h
    have hlt := List.sizeOf_lt_of_mem (List.mem_of_getElem? hi)
    simp only [Layer.items.sizeOf_spec]
    omega
  | fields fields =>
    obtain ⟨key, -, hmem⟩ := mem_fields.1 h
    have hlt := List.sizeOf_lt_of_mem hmem
    simp only [Prod.mk.sizeOf_spec] at hlt
    simp only [Layer.fields.sizeOf_spec]
    omega

end Layer

/-! Places -/

section

variable {α : Type} {layer : α → Layer α} {s : Step} {x y : α}

def placeAt? (layer : α → Layer α) : α → List Step → Option α
  | x, [] => some x
  | x, s :: p => ((layer x).child? s).bind fun y => placeAt? layer y p

/-- All fields, at any depth, stand in the order of their keys. -/
def KeyedTree (layer : α → Layer α) (x : α) : Prop :=
  ∀ p y, placeAt? layer x p = some y → (layer y).Sorted

/-- What holds at the root and everywhere in the children holds everywhere. -/
theorem forall_places {P : α → Prop} (root : P x)
    (below : ∀ s y, (s, y) ∈ (layer x).children → ∀ p z, placeAt? layer y p = some z → P z) :
    ∀ p z, placeAt? layer x p = some z → P z := by
  intro p z hp
  cases p with
  | nil =>
    cases hp
    exact root
  | cons s p =>
    obtain ⟨y, hy, hp⟩ := Option.bind_eq_some_iff.1 hp
    exact below s y (Layer.mem_children_of_child? hy) p z hp

namespace KeyedTree

theorem root (h : KeyedTree layer x) : (layer x).Sorted := h [] x rfl

theorem child (h : KeyedTree layer x) (hy : (layer x).child? s = some y) : KeyedTree layer y :=
  fun p z hp => h (s :: p) z (by rw [placeAt?, hy]; exact hp)

theorem child?_eq_some_iff (h : KeyedTree layer x) :
    (layer x).child? s = some y ↔ (s, y) ∈ (layer x).children := h.root.child?_eq_some_iff

theorem of_children (root : (layer x).Sorted)
    (below : ∀ s y, (s, y) ∈ (layer x).children → KeyedTree layer y) : KeyedTree layer x :=
  forall_places root below

end KeyedTree

end

namespace Json

def layer : Json → Layer Json
  | .array items => .items items
  | .object fields => .fields fields
  | _ => .leaf

def at? (j : Json) (p : List Step) : Option Json := placeAt? layer j p

def Keyed (j : Json) : Prop := KeyedTree layer j

variable {j : Json}

@[simp] theorem at?_nil (j : Json) : j.at? [] = some j := rfl

@[simp] theorem at?_cons (j : Json) (s : Step) (p : List Step) :
    j.at? (s :: p) = (j.layer.child? s).bind fun k => k.at? p := rfl

theorem sizeOf_layer_le (j : Json) : sizeOf j.layer ≤ sizeOf j := by
  cases j <;> simp [layer]

/-- Induction from the children to the tree. -/
@[elab_as_elim]
theorem tree_induction {P : Json → Prop}
    (step : ∀ j : Json, (∀ s k, (s, k) ∈ j.layer.children → P k) → P j) (j : Json) : P j :=
  step j fun _ k hk =>
    have := Nat.lt_of_lt_of_le (Layer.sizeOf_lt hk) j.sizeOf_layer_le
    tree_induction step k
termination_by sizeOf j

theorem keyed_array {items : List Json} (h : ∀ item ∈ items, item.Keyed) :
    (array items).Keyed := by
  refine KeyedTree.of_children trivial fun s k hk => ?_
  obtain ⟨i, -, hi⟩ := Layer.mem_items.1 hk
  exact h k (List.mem_of_getElem? hi)

theorem keyed_object {fields : Entries Json} (sorted : fields.Sorted)
    (h : ∀ field ∈ fields, field.2.Keyed) : (object fields).Keyed := by
  refine KeyedTree.of_children sorted fun s k hk => ?_
  obtain ⟨key, -, hk⟩ := Layer.mem_fields.1 hk
  exact h _ hk

theorem keyed_leaf (h : j.layer = .leaf) : j.Keyed :=
  KeyedTree.of_children (by rw [h]; trivial) (by rw [h]; exact nofun)

theorem Keyed.items {items : List Json} (h : (array items).Keyed) :
    ∀ item ∈ items, item.Keyed := by
  intro item hitem
  obtain ⟨i, hi⟩ := List.getElem?_of_mem hitem
  exact h.child (s := .item i) hi

theorem Keyed.fields {fields : Entries Json} (h : (object fields).Keyed) :
    ∀ field ∈ fields, field.2.Keyed := fun field hfield =>
  h.child (h.child?_eq_some_iff.2 (Layer.mem_fields.2 ⟨field.1, rfl, hfield⟩))

end Json

namespace Value

def layer : Value → Layer Value
  | .list items => .items items
  | .map entries => .fields entries
  | _ => .leaf

def at? (v : Value) (p : List Step) : Option Value := placeAt? layer v p

def Keyed (v : Value) : Prop := KeyedTree layer v

@[simp] theorem at?_nil (v : Value) : v.at? [] = some v := rfl

@[simp] theorem at?_cons (v : Value) (s : Step) (p : List Step) :
    v.at? (s :: p) = (v.layer.child? s).bind fun u => u.at? p := rfl

theorem sizeOf_layer_le (v : Value) : sizeOf v.layer ≤ sizeOf v := by
  cases v <;> simp [layer]

@[elab_as_elim]
theorem tree_induction {P : Value → Prop}
    (step : ∀ v : Value, (∀ s u, (s, u) ∈ v.layer.children → P u) → P v) (v : Value) : P v :=
  step v fun _ u hu =>
    have := Nat.lt_of_lt_of_le (Layer.sizeOf_lt hu) v.sizeOf_layer_le
    tree_induction step u
termination_by sizeOf v

end Value

end RemoteInterpreter
