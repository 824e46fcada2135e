import Mathlib.Logic.Relation
import TezosNode.Proofs.Json.Sorting

/-!
The shape of a value that is decoded: which of its parts are records, and which fields they name. By its
shape a value can gain members that nobody asked for, at any depth, and those alone.
-/

namespace TezosNode.Decode

open Json

inductive Shape where
  | plain
  | many (item : Shape)
  | record (layout : List (String × Shape))
  /-- A record with the fields that all share, and those that belong to the text under the tag, if any do. -/
  | tagged (tag : String) (common : List (String × Shape)) (rows : List (String × List (String × Shape)))
  /-- A pair of a key and what stands behind it. -/
  | keyed (behind : Shape)
  deriving Inhabited

abbrev Layout := List (String × Shape)

namespace Layout

def blank : Layout := []

def field (layout : Layout) (name : String) (shape : Shape) : Layout := layout ++ [(name, shape)]

/-- The shape of the field with the name; the last one of a name counts. -/
def shape? (layout : Layout) (key : String) : Option Shape := layout.reverse.lookup key

theorem shape?_field (layout : Layout) (name : String) (shape : Shape) (key : String) :
    (layout.field name shape).shape? key = if key = name then some shape else layout.shape? key := by
  rw [shape?, field, List.reverse_append, List.reverse_singleton, List.singleton_append, lookup_member]
  rfl

theorem shape?_append (front back : Layout) (key : String) :
    shape? (front ++ back) key = (shape? back key).or (shape? front key) := by
  rw [shape?, List.reverse_append, List.lookup_append]
  rfl

theorem shape?_of_back (front back : Layout) (key : String) (shape : Shape)
    (named : back.shape? key = some shape) : shape? (front ++ back) key = some shape := by
  rw [shape?_append, named, Option.some_or]

theorem shape?_eq_none_iff {layout : Layout} {key : String} :
    layout.shape? key = none ↔ key ∉ layout.map (·.1) := by
  rw [shape?, List.lookup_eq_none_iff]
  constructor
  · intro missing present
    obtain ⟨named, member, same⟩ := List.mem_map.mp present
    simpa [same] using missing named (by simpa using member)
  · intro missing named member
    have other : key ≠ named.1 := fun same =>
      missing (same ▸ List.mem_map.mpr ⟨named, by simpa using member, rfl⟩)
    simpa using other

end Layout

namespace Shape

def layout? : Shape → List (String × Value) → Option Layout
  | .record layout, _ => some layout
  | .tagged tag common rows, members =>
    match members.lookup tag with
    | some (.string text) => some ((rows.lookup text).getD [] ++ common)
    | _ => none
  | .plain, _ | .many _, _ | .keyed _, _ => none

/-- A value gains one member, at some depth, under a key that the record there does not name. -/
inductive Gains : Shape → Value → Value → Prop where
  | new {shape : Shape} {front back : List (String × Value)} {layout : Layout} {key : String} {value : Value} :
      shape.layout? (front ++ back) = some layout → layout.shape? key = none →
      Gains shape (.object (front ++ back)) (.object (front ++ (key, value) :: back))
  | member {shape inner : Shape} {front back : List (String × Value)} {layout : Layout} {key : String}
      {v w : Value} :
      shape.layout? (front ++ (key, v) :: back) = some layout → layout.shape? key = some inner →
      Gains inner v w →
      Gains shape (.object (front ++ (key, v) :: back)) (.object (front ++ (key, w) :: back))
  /-- A record may be written as the list of its fields. -/
  | listed {layout : Layout} {inner : Shape} {front back : List Value} {name : String} {v w : Value} :
      layout[front.length]? = some (name, inner) → Gains inner v w →
      Gains (.record layout) (.array (front ++ v :: back)) (.array (front ++ w :: back))
  | item {shape : Shape} {front back : List Value} {v w : Value} : Gains shape v w →
      Gains (.many shape) (.array (front ++ v :: back)) (.array (front ++ w :: back))
  | behind {shape : Shape} {key : Value} {back : List Value} {v w : Value} : Gains shape v w →
      Gains (.keyed shape) (.array (key :: v :: back)) (.array (key :: w :: back))

def Grows (shape : Shape) : Value → Value → Prop := Relation.ReflTransGen shape.Gains

theorem not_gains_plain {v w : Value} : ¬Gains .plain v w := by
  intro gains
  cases gains with
  | new chosen | member chosen => cases chosen

theorem chosen_of_tagged {tag : String} {common layout : Layout} {rows : List (String × Layout)}
    {members : List (String × Value)} (chosen : (tagged tag common rows).layout? members = some layout) :
    ∃ text, members.lookup tag = some (.string text) ∧ layout = (rows.lookup text).getD [] ++ common := by
  simp only [layout?] at chosen
  split at chosen
  · next found => exact ⟨_, found, (Option.some.inj chosen).symm⟩
  · cases chosen

theorem Gains.chosen {tag : String} {common : Layout} {rows : List (String × Layout)} {v w : Value}
    (gains : Gains (.tagged tag common rows) v w) :
    ∃ before after text, v = .object before ∧ w = .object after ∧
      before.lookup tag = some (.string text) ∧
      Gains (.record ((rows.lookup text).getD [] ++ common)) (.object before) (.object after) := by
  cases gains with
  | new chosen unnamed =>
    obtain ⟨text, found, rfl⟩ := chosen_of_tagged chosen
    exact ⟨_, _, text, rfl, rfl, found, .new rfl unnamed⟩
  | member chosen named inner =>
    obtain ⟨text, found, rfl⟩ := chosen_of_tagged chosen
    exact ⟨_, _, text, rfl, rfl, found, .member rfl named inner⟩

theorem Gains.ne_null {shape : Shape} {v w : Value} (gains : Gains shape v w) : v ≠ .null ∧ w ≠ .null := by
  cases gains <;> exact ⟨nofun, nofun⟩

theorem Gains.sorted {shape : Shape} {v w : Value} (gains : Gains shape v w) (after : w.sorted = w) :
    v.sorted = v := by
  induction gains with
  | @new shape front back layout key value _ _ =>
    obtain ⟨ordered, values⟩ := Value.sorted_object_iff.mp after
    have fewer : (front ++ back).Sublist (front ++ (key, value) :: back) :=
      (List.sublist_cons_self _ _).append_left front
    exact Value.sorted_object_iff.mpr
      ⟨List.Pairwise.sublist fewer ordered, fun member present => values member (fewer.subset present)⟩
  | @member shape inner front back layout key v w _ _ _ ih =>
    have inside : w.sorted = w := (Value.sorted_object_iff.mp after).2 (key, w) (by simp)
    exact Value.sorted_object_exchange (ih inside) after
  | @listed layout inner front back name v w _ _ ih =>
    have inside : w.sorted = w := Value.sorted_array_iff.mp after w (by simp)
    exact Value.sorted_array_exchange (ih inside) after
  | @item inner front back v w _ ih =>
    have inside : w.sorted = w := Value.sorted_array_iff.mp after w (by simp)
    exact Value.sorted_array_exchange (ih inside) after
  | @behind inner key back v w _ ih =>
    have inside : w.sorted = w := Value.sorted_array_iff.mp after w (by simp)
    have whole : (Value.array ([key] ++ w :: back)).sorted = .array ([key] ++ w :: back) := after
    exact Value.sorted_array_exchange (ih inside) whole

end Shape

end TezosNode.Decode
